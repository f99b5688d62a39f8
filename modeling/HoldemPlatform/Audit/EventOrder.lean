import HoldemPlatform.Audit.EventSink
import HoldemPlatform.Room.EventLog

/-!
# Does the Order of a Room's Events Survive the Audit Sink?

A room numbers its events in the order it emits them, and the outbox is published in the order of its
records. In between stand the tasks of the sink. What the outbox holds of a room, followed by what the
tasks still have to insert in the order they were spawned, is what the room has emitted, as long as no
task overtakes an earlier one of the room (`track_run`); then the outbox is in order, and so is what is
published, which is always the beginning of the outbox (`Published`). A task that overtakes another puts
later events before earlier ones.
-/

namespace HoldemPlatform.Audit.EventOrder

open HoldemPlatform.Lib.Run HoldemPlatform.Domain.Game HoldemPlatform.Engine.State
open HoldemPlatform.Room.Actor HoldemPlatform.Room.Effect HoldemPlatform.Room.Alternation
open HoldemPlatform.Room.EventLog
open HoldemPlatform.Audit.EventSink HoldemPlatform.Audit.EventSink.InMemoryAuditRepository

/-- The first event has the lower number; at the largest number counting stops. -/
def Precedes (a b : HandEvent) : Prop :=
  a.eventSeq < b.eventSeq ∨ (a.eventSeq = 2 ^ 32 - 1 ∧ b.eventSeq = 2 ^ 32 - 1)

instance : DecidableRel Precedes := fun _ _ => inferInstanceAs (Decidable (_ ∨ _))

/-- The events come in increasing order of their numbers. -/
def InOrder (events : List HandEvent) : Prop := events.Pairwise Precedes

instance (events : List HandEvent) : Decidable (InOrder events) :=
  inferInstanceAs (Decidable (List.Pairwise _ _))

theorem Stamped.inOrder {log : List HandEvent} {next : ℕ} (h : Stamped log next) : InOrder log := by
  rw [InOrder, List.pairwise_iff_getElem]
  intro i j hi hj hlt
  have hseqi := h.eventSeq i log[i] (List.getElem?_eq_getElem hi)
  have hseqj := h.eventSeq j log[j] (List.getElem?_eq_getElem hj)
  unfold saturatingAdd at hseqi hseqj
  unfold Precedes
  omega

/-- A room emits its events in order. -/
theorem roomLog_inOrder {Card : Type} [RsPoker Card] (config : RoomActorConfig) (roomId : RoomId)
    (handId : HandId) (inputs : List (RoomInput Card)) :
    InOrder (run (roomRunStep config) (RoomState.spawn roomId handId : RoomState Card)
      inputs).sink.handEvents := by
  have hspawn : StampedRoom (RoomState.spawn roomId handId : RoomState Card) := ⟨rfl, nofun⟩
  exact Stamped.inOrder (run_inv StampedRoom
    (fun _ input h => stamped_step config input.2 h) inputs hspawn)

variable {Json : Type} (serde : Serde Json) (room : RoomId)

/-- What was written as JSON is read back. -/
def RoundTrip : Prop := ∀ e v, serde.handToValue e = .ok v → serde.handFromValue v = .ok e

/-- The hand event of the room that a payload holds under a topic. -/
def handEventOf (topic : String) (payloadJson : Json) : Option HandEvent :=
  if topic = "hand.events" then
    match serde.handFromValue payloadJson with
    | .error _ => none
    | .ok event => if event.roomId = room then some event else none
  else none

/-- The `hand.events` records of the room in the outbox. -/
def outboxHandEvents (outbox : List (OutboxEventRecord Json)) : List HandEvent :=
  outbox.filterMap fun rec => handEventOf serde room rec.topic rec.payloadJson

def envelopeHandEvent (envelope : EventEnvelope Json) : Option HandEvent :=
  match envelope.topic with
  | .handEvents => handEventOf serde room "hand.events" envelope.payload
  | .publicRoomEvents | .seatEvents => none

def publishedHandEvents (published : List (EventEnvelope Json)) : List HandEvent :=
  published.filterMap (envelopeHandEvent serde room)

/-- The hand event of the room that a call inserts. -/
def insertedHandEvent : RepoCall Json → Option HandEvent
  | .insertOutboxEvent topic _ payloadJson => handEventOf serde room topic payloadJson
  | _ => none

/-- The hand events of the room that a task still has to insert. -/
def toInsert (task : List (RepoCall Json)) : List HandEvent :=
  task.filterMap (insertedHandEvent serde room)

/-- The hand events of the room that a step hands to the sink. -/
def emittedBy : SinkStep → List HandEvent
  | .appendHandEvents events => events.filter fun e => e.roomId = room
  | _ => []

def emitted (steps : List SinkStep) : List HandEvent := steps.flatMap (emittedBy room)

/-- A task inserts an event of the room only when no task spawned before it has one left. -/
def InTurn (st : SinkState Json) : SinkStep → Prop
  | .runTask i _ =>
    (taskCalls st i).head?.bind (insertedHandEvent serde room) ≠ none →
      ∀ j < i, toInsert serde room (taskCalls st j) = []
  | _ => True

instance (st : SinkState Json) (step : SinkStep) : Decidable (InTurn serde room st step) :=
  match step with
  | .runTask _ _ => inferInstanceAs (Decidable (_ → _))
  | .appendHandEvents _ | .appendPrivateEvents _ | .recordBehaviorEvent _ _ | .publish _ =>
    .isTrue trivial

/-- The identifier of a new record is not that of another one. -/
def FreshId (st : SinkState Json) : SinkStep → Prop
  | .runTask _ newId => newId ∉ st.repo.outboxEvents.map OutboxEventRecord.outboxEventId
  | _ => True

instance (st : SinkState Json) (step : SinkStep) : Decidable (FreshId st step) :=
  match step with
  | .runTask _ _ => inferInstanceAs (Decidable (¬ _))
  | .appendHandEvents _ | .appendPrivateEvents _ | .recordBehaviorEvent _ _ | .publish _ =>
    .isTrue trivial

/-! ### What the tasks insert -/

def written (events : List HandEvent) : List HandEvent :=
  events.filter fun e => (serde.handToValue e).isOk

theorem toInsert_handEventsTask (hserde : RoundTrip serde) (events : List HandEvent) :
    toInsert serde room (handEventsTask serde events) =
      written serde (events.filter fun e => e.roomId = room) := by
  have hstep : ∀ e : HandEvent,
      (insertHandEvent serde e).bind (insertedHandEvent serde room) =
        if (serde.handToValue e).isOk ∧ e.roomId = room then some e else none := by
    intro e
    unfold insertHandEvent
    cases hvalue : serde.handToValue e with
    | error _ => simp [Except.isOk, Except.toBool]
    | ok v =>
      simp [insertedHandEvent, handEventOf, hserde e v hvalue, Except.isOk, Except.toBool]
  show List.filterMap _ (List.filterMap _ _) = _
  rw [List.filterMap_filterMap, written, List.filter_filter, ← List.filterMap_eq_filter]
  refine List.filterMap_congr fun e _ => ?_
  rw [hstep]
  simp [Option.guard]

theorem toInsert_privateEventsTask (events : List SeatPrivateEvent) :
    toInsert serde room (privateEventsTask serde events) = [] := by
  rw [toInsert, privateEventsTask, List.filterMap_map, List.filterMap_eq_nil_iff]
  intro e _
  simp [insertSeatEvent, insertedHandEvent, handEventOf]

theorem toInsert_behaviorEventTask (roomId : RoomId) (kind : AuditBehaviorEventKind) :
    toInsert serde room (behaviorEventTask serde roomId kind) = [] := by
  unfold behaviorEventTask
  split <;> rfl

/-- What the tasks still have to insert, in the order they were spawned. -/
def waiting (st : SinkState Json) : List HandEvent := st.tasks.flatMap (toInsert serde room)

theorem waiting_spawn (st : SinkState Json) (task : List (RepoCall Json)) :
    waiting serde room (spawn st task) = waiting serde room st ++ toInsert serde room task := by
  simp [waiting, spawn]

/-! ### The records of the outbox -/

theorem outboxHandEvents_append (outbox outbox' : List (OutboxEventRecord Json)) :
    outboxHandEvents serde room (outbox ++ outbox') =
      outboxHandEvents serde room outbox ++ outboxHandEvents serde room outbox' :=
  List.filterMap_append

theorem outboxHandEvents_singleton (rec : OutboxEventRecord Json) :
    outboxHandEvents serde room [rec] = (handEventOf serde room rec.topic rec.payloadJson).toList := by
  rw [outboxHandEvents, List.filterMap_cons]
  cases handEventOf serde room rec.topic rec.payloadJson <;> rfl

theorem outboxHandEvents_markDelivered (id : String) (outbox : List (OutboxEventRecord Json)) :
    outboxHandEvents serde room (markDelivered id outbox) = outboxHandEvents serde room outbox := by
  induction outbox with
  | nil => rfl
  | cons rec rest ih =>
    rw [markDelivered]
    split_ifs
    · rfl
    · unfold outboxHandEvents at ih ⊢
      rw [List.filterMap_cons, List.filterMap_cons, ih]

theorem outboxHandEvents_exec (repo : InMemoryAuditRepository Json) (newId : String)
    (call : RepoCall Json) :
    outboxHandEvents serde room (call.exec repo newId).outboxEvents =
      outboxHandEvents serde room repo.outboxEvents ++
        (insertedHandEvent serde room call).toList := by
  cases call with
  | appendHandEvents events => exact (List.append_nil _).symm
  | insertBehaviorEvent record => exact (List.append_nil _).symm
  | insertOutboxEvent topic partitionKey payloadJson =>
    show outboxHandEvents serde room (repo.outboxEvents ++ [_]) = _
    rw [outboxHandEvents_append, outboxHandEvents_singleton]
    rfl

theorem publishRecords_frame (records : List (OutboxEventRecord Json)) :
    ∀ (st : SinkState Json) (n : ℕ),
      (publishRecords serde st n records).1.tasks = st.tasks ∧
        outboxHandEvents serde room (publishRecords serde st n records).1.repo.outboxEvents =
          outboxHandEvents serde room st.repo.outboxEvents := by
  induction records with
  | nil => exact fun st n => ⟨rfl, rfl⟩
  | cons rec rest ih =>
    intro st n
    rw [publishRecords]
    split
    · exact ⟨rfl, rfl⟩
    · exact ih st n
    · rename_i envelope _
      obtain ⟨htasks, houtbox⟩ := ih
        { st with
          published := st.published ++ [envelope]
          repo := st.repo.markOutboxEventDelivered rec.outboxEventId } (n + 1)
      refine ⟨htasks, houtbox.trans ?_⟩
      exact outboxHandEvents_markDelivered serde room _ _

/-! ### Nothing is overtaken -/

/-- The events of the room in the outbox and in the tasks. -/
def track (st : SinkState Json) : List HandEvent :=
  outboxHandEvents serde room st.repo.outboxEvents ++ waiting serde room st

theorem taskCalls_cons {st : SinkState Json} {i : ℕ} {call : RepoCall Json}
    {rest : List (RepoCall Json)} (h : taskCalls st i = call :: rest) :
    st.tasks[i]? = some (call :: rest) := by
  unfold taskCalls at h
  cases htask : st.tasks[i]? with
  | none => rw [htask] at h; cases h
  | some task => rw [htask] at h; exact congrArg some h

/-- The tasks before and after the one that is run. -/
theorem waiting_runTask {st : SinkState Json} {i : ℕ} {call : RepoCall Json}
    {rest : List (RepoCall Json)} (h : taskCalls st i = call :: rest) :
    waiting serde room st = (st.tasks.take i).flatMap (toInsert serde room) ++
        ((insertedHandEvent serde room call).toList ++ toInsert serde room rest) ++
          (st.tasks.drop (i + 1)).flatMap (toInsert serde room) ∧
      (st.tasks.set i rest).flatMap (toInsert serde room) =
        (st.tasks.take i).flatMap (toInsert serde room) ++ toInsert serde room rest ++
          (st.tasks.drop (i + 1)).flatMap (toInsert serde room) := by
  have htask := taskCalls_cons h
  obtain ⟨hlt, hget⟩ := List.getElem?_eq_some_iff.1 htask
  have hsplit : st.tasks = st.tasks.take i ++ (call :: rest) :: st.tasks.drop (i + 1) := by
    rw [← hget, List.getElem_cons_drop, List.take_append_drop]
  have hcons : toInsert serde room (call :: rest) =
      (insertedHandEvent serde room call).toList ++ toInsert serde room rest := by
    unfold toInsert
    rw [List.filterMap_cons]
    cases insertedHandEvent serde room call <;> rfl
  constructor
  · rw [waiting, ← hcons]
    conv_lhs => rw [hsplit]
    rw [List.flatMap_append, List.flatMap_cons, List.append_assoc]
  · rw [List.set_eq_take_append_cons_drop, if_pos hlt, List.flatMap_append, List.flatMap_cons,
      List.append_assoc]

theorem track_runTask {st : SinkState Json} {i : ℕ} {newId : String}
    (hturn : InTurn serde room st (.runTask i newId)) :
    track serde room (runTask st i newId) = track serde room st := by
  unfold runTask
  split
  · rfl
  rename_i call rest hcalls
  obtain ⟨hbefore, hafter⟩ := waiting_runTask serde room hcalls
  unfold track
  rw [hbefore, outboxHandEvents_exec]
  show _ ++ (st.tasks.set i rest).flatMap (toInsert serde room) = _
  rw [hafter]
  cases hevent : insertedHandEvent serde room call with
  | none => simp
  | some event =>
    -- no earlier task has an event of the room left, so this one is the next
    have hfirst : (st.tasks.take i).flatMap (toInsert serde room) = [] := by
      rw [List.flatMap_eq_nil_iff]
      intro task htask
      obtain ⟨j, hj, hget⟩ := List.mem_iff_getElem.1 htask
      rw [List.length_take] at hj
      have hnone := hturn (by rw [hcalls]; simp [hevent]) j (by omega)
      rwa [taskCalls, List.getElem?_eq_getElem (by omega), Option.getD_some,
        ← List.getElem_take (h := by rw [List.length_take]; omega), hget] at hnone
    rw [hfirst]
    simp

/-- One step adds to the track what it hands to the sink. -/
theorem track_step (hserde : RoundTrip serde) {st : SinkState Json} {step : SinkStep}
    (hturn : InTurn serde room st step) :
    track serde room (sinkStep serde st step) =
      track serde room st ++ written serde (emittedBy room step) := by
  cases step with
  | appendHandEvents events =>
    rw [sinkStep, track, waiting_spawn, toInsert_handEventsTask serde room hserde,
      ← List.append_assoc]
    rfl
  | appendPrivateEvents events =>
    rw [sinkStep, track, waiting_spawn, toInsert_privateEventsTask, ← List.append_assoc]
    rfl
  | recordBehaviorEvent roomId kind =>
    rw [sinkStep, track, waiting_spawn, toInsert_behaviorEventTask, ← List.append_assoc]
    rfl
  | runTask i newId =>
    rw [sinkStep, track_runTask serde room hturn]
    exact (List.append_nil _).symm
  | publish limit =>
    obtain ⟨htasks, houtbox⟩ := publishRecords_frame serde room
      (st.repo.fetchPendingOutboxEvents limit) st 0
    unfold sinkStep publishPendingOutboxOnce track waiting
    rw [htasks, houtbox]
    exact (List.append_nil _).symm

/-- **The outbox and the tasks hold what the room has emitted**, in order. -/
theorem track_run (hserde : RoundTrip serde) : ∀ {steps : List SinkStep} {st : SinkState Json},
    AllSteps (sinkStep serde) (InTurn serde room) st steps →
    track serde room (run (sinkStep serde) st steps) =
      track serde room st ++ written serde (emitted room steps)
  | [], st, _ => (List.append_nil _).symm
  | step :: steps, st, h => by
    have hemitted : emitted room (step :: steps) = emittedBy room step ++ emitted room steps := rfl
    rw [run_cons, track_run hserde h.2, track_step serde room hserde h.1, hemitted, written, written,
      written, List.filter_append, List.append_assoc]

/-! ### What is published -/

def KnownTopic (topic : String) : Prop := topic = "hand.events" ∨ topic = "seat.events"

def KnownCall : RepoCall Json → Prop
  | .insertOutboxEvent topic _ _ => KnownTopic topic
  | _ => True

/-- How far the deliveries have come: the outbox is the records `done`, which are delivered, followed by the
records `todo`, which are pending, and what was published of the room is what was delivered of it. -/
structure DeliveredUpTo (st : SinkState Json) (done todo : List (OutboxEventRecord Json)) : Prop where
  calls : ∀ task ∈ st.tasks, ∀ call ∈ task, KnownCall call
  topics : ∀ rec ∈ st.repo.outboxEvents, KnownTopic rec.topic
  ids : (st.repo.outboxEvents.map OutboxEventRecord.outboxEventId).Nodup
  outbox : st.repo.outboxEvents = done ++ todo
  delivered : ∀ rec ∈ done, rec.status = .delivered
  pending : ∀ rec ∈ todo, rec.status = .pending
  events : publishedHandEvents serde room st.published = outboxHandEvents serde room done

/-- The deliveries have come some way. -/
def Published (st : SinkState Json) : Prop := ∃ done todo, DeliveredUpTo serde room st done todo

theorem Published.spawn {st : SinkState Json} (h : Published serde room st)
    {task : List (RepoCall Json)} (htask : ∀ call ∈ task, KnownCall call) :
    Published serde room (spawn st task) := by
  obtain ⟨done, todo, h⟩ := h
  refine ⟨done, todo, { h with calls := fun t ht => ?_ }⟩
  rcases List.mem_append.1 ht with ht | ht
  · exact h.calls t ht
  · rw [List.mem_singleton.1 ht]
    exact htask

theorem Published.runTask {st : SinkState Json} (h : Published serde room st) {i : ℕ}
    {newId : String} (hfresh : FreshId st (.runTask i newId)) :
    Published serde room (runTask st i newId) := by
  unfold EventSink.runTask
  split
  · exact h
  rename_i call rest hcalls
  obtain ⟨done, todo, h⟩ := h
  have hmem : call :: rest ∈ st.tasks := List.mem_of_getElem? (taskCalls_cons hcalls)
  have hknown : KnownCall call := h.calls _ hmem call List.mem_cons_self
  have hrest : ∀ task ∈ st.tasks.set i rest, ∀ c ∈ task, KnownCall c := by
    intro task htask c hc
    rcases List.mem_or_eq_of_mem_set htask with htask | rfl
    · exact h.calls task htask c hc
    · exact h.calls _ hmem c (List.mem_cons_of_mem _ hc)
  cases call with
  | appendHandEvents events => exact ⟨done, todo, { h with calls := hrest }⟩
  | insertBehaviorEvent record => exact ⟨done, todo, { h with calls := hrest }⟩
  | insertOutboxEvent topic partitionKey payloadJson =>
    refine ⟨done, todo ++ [⟨newId, topic, partitionKey, payloadJson, .pending⟩], hrest,
      fun rec hrec => ?_, ?_, ?_, h.delivered, fun rec hrec => ?_, h.events⟩
    · rcases List.mem_append.1 hrec with hrec | hrec
      · exact h.topics rec hrec
      · rw [List.mem_singleton.1 hrec]
        exact hknown
    · show ((st.repo.outboxEvents ++ [_]).map OutboxEventRecord.outboxEventId).Nodup
      rw [List.map_append, List.nodup_append]
      refine ⟨h.ids, List.nodup_singleton _, fun a ha b hb hab => ?_⟩
      obtain rfl := List.mem_singleton.1 hb
      exact hfresh (hab ▸ ha)
    · show st.repo.outboxEvents ++ [_] = done ++ (todo ++ [_])
      rw [h.outbox, List.append_assoc]
    · rcases List.mem_append.1 hrec with hrec | hrec
      · exact h.pending rec hrec
      · rw [List.mem_singleton.1 hrec]

theorem envelopeHandEvent_of_record {topic : String} {payloadJson : Json}
    {envelope : EventEnvelope Json}
    (h : toEventEnvelope serde topic payloadJson = .ok (some envelope)) :
    envelopeHandEvent serde room envelope = handEventOf serde room topic payloadJson := by
  unfold toEventEnvelope at h
  split_ifs at h with hhand hseat
  · split at h
    · cases h
    · cases h
      rw [hhand]
      rfl
  · split at h
    · cases h
    · cases h
      simp [envelopeHandEvent, handEventOf, hhand]
  · cases h

theorem toEventEnvelope_known {topic : String} (h : KnownTopic topic) (payloadJson : Json) :
    toEventEnvelope serde topic payloadJson ≠ .ok none := by
  intro hnone
  unfold toEventEnvelope at hnone
  split_ifs at hnone with hhand hseat
  · split at hnone <;> cases hnone
  · split at hnone <;> cases hnone
  · exact h.elim hhand hseat

/-- The record to be marked is the first that is pending. -/
theorem markDelivered_append {done rest : List (OutboxEventRecord Json)} {rec : OutboxEventRecord Json}
    (h : rec.outboxEventId ∉ done.map OutboxEventRecord.outboxEventId) :
    markDelivered rec.outboxEventId (done ++ rec :: rest) =
      done ++ { rec with status := .delivered } :: rest := by
  induction done with
  | nil => rw [List.nil_append, markDelivered, if_pos rfl, List.nil_append]
  | cons first done ih =>
    rw [List.map_cons, List.mem_cons, not_or] at h
    rw [List.cons_append, markDelivered, if_neg (Ne.symm h.1), ih h.2, List.cons_append]

section

variable {st : SinkState Json} {done todo : List (OutboxEventRecord Json)}

theorem DeliveredUpTo.fetch (h : DeliveredUpTo serde room st done todo) (limit : ℕ) :
    st.repo.fetchPendingOutboxEvents limit = todo.take limit := by
  have hnone : done.filter (fun rec => rec.status = .pending) = [] := by
    rw [List.filter_eq_nil_iff]
    intro rec hrec
    rw [h.delivered rec hrec]
    decide
  have hall : todo.filter (fun rec => rec.status = .pending) = todo := by
    rw [List.filter_eq_self]
    intro rec hrec
    rw [h.pending rec hrec]
    decide
  rw [fetchPendingOutboxEvents, h.outbox, List.filter_append, hnone, hall, List.nil_append]

variable {rec : OutboxEventRecord Json}

/-- The first pending record is marked where it stands. -/
theorem DeliveredUpTo.mark (h : DeliveredUpTo serde room st done (rec :: todo)) :
    markDelivered rec.outboxEventId st.repo.outboxEvents =
      (done ++ [{ rec with status := .delivered }]) ++ todo := by
  have hfresh : rec.outboxEventId ∉ done.map OutboxEventRecord.outboxEventId := by
    have hids := h.ids
    rw [h.outbox, List.map_append, List.nodup_append] at hids
    exact fun hmem => hids.2.2 _ hmem _ (by simp) rfl
  rw [h.outbox, markDelivered_append hfresh, List.append_assoc]
  rfl

theorem DeliveredUpTo.map_mark (h : DeliveredUpTo serde room st done (rec :: todo)) {α : Type}
    (f : OutboxEventRecord Json → α) (hf : f { rec with status := .delivered } = f rec) :
    (markDelivered rec.outboxEventId st.repo.outboxEvents).map f = st.repo.outboxEvents.map f := by
  rw [h.mark, h.outbox]
  simp [hf]

theorem DeliveredUpTo.deliver (h : DeliveredUpTo serde room st done (rec :: todo))
    {envelope : EventEnvelope Json}
    (henvelope : toEventEnvelope serde rec.topic rec.payloadJson = .ok (some envelope)) :
    DeliveredUpTo serde room
      { st with
        published := st.published ++ [envelope]
        repo := st.repo.markOutboxEventDelivered rec.outboxEventId }
      (done ++ [{ rec with status := .delivered }]) todo where
  calls := h.calls
  topics := by
    intro r hr
    have htopic : r.topic ∈ st.repo.outboxEvents.map OutboxEventRecord.topic := by
      rw [← h.map_mark serde room OutboxEventRecord.topic rfl]
      exact List.mem_map_of_mem hr
    obtain ⟨r', hmem, heq⟩ := List.mem_map.1 htopic
    rw [← heq]
    exact h.topics r' hmem
  ids := by
    show ((markDelivered rec.outboxEventId st.repo.outboxEvents).map _).Nodup
    rw [h.map_mark serde room OutboxEventRecord.outboxEventId rfl]
    exact h.ids
  outbox := h.mark
  delivered := by
    intro r hr
    rcases List.mem_append.1 hr with hr | hr
    · exact h.delivered r hr
    · rw [List.mem_singleton.1 hr]
  pending := fun r hr => h.pending r (List.mem_cons_of_mem _ hr)
  events := by
    show publishedHandEvents serde room (st.published ++ [envelope]) = _
    rw [outboxHandEvents_append, outboxHandEvents_singleton, ← h.events, publishedHandEvents,
      List.filterMap_append, List.filterMap_cons, envelopeHandEvent_of_record serde room henvelope]
    cases handEventOf serde room rec.topic rec.payloadJson <;> rfl

end

/-- The loop of a pass delivers from the front of what is pending. -/
theorem published_publishRecords (records : List (OutboxEventRecord Json)) :
    ∀ {st : SinkState Json} {done rest : List (OutboxEventRecord Json)} (n : ℕ),
      DeliveredUpTo serde room st done (records ++ rest) →
      Published serde room (publishRecords serde st n records).1 := by
  induction records with
  | nil =>
    intro st done rest n h
    exact ⟨_, _, h⟩
  | cons rec records ih =>
    intro st done rest n h
    have hknown : KnownTopic rec.topic := h.topics rec (by rw [h.outbox]; simp)
    rw [publishRecords]
    split
    · exact ⟨_, _, h⟩
    · rename_i hnone
      exact absurd hnone (toEventEnvelope_known serde hknown _)
    · rename_i envelope henvelope
      exact ih (n + 1) (h.deliver serde room henvelope)

theorem Published.publish {st : SinkState Json} (h : Published serde room st) (limit : ℕ) :
    Published serde room (publishPendingOutboxOnce serde st limit).1 := by
  obtain ⟨done, todo, hupTo⟩ := h
  unfold publishPendingOutboxOnce
  rw [hupTo.fetch]
  rw [← List.take_append_drop limit todo] at hupTo
  exact published_publishRecords serde room (todo.take limit) 0 hupTo

theorem published_step {st : SinkState Json} {step : SinkStep} (hfresh : FreshId st step)
    (h : Published serde room st) : Published serde room (sinkStep serde st step) := by
  cases step with
  | appendHandEvents events =>
    refine h.spawn serde room fun call hcall => ?_
    rcases List.mem_cons.1 hcall with rfl | hcall
    · trivial
    obtain ⟨e, -, he⟩ := List.mem_filterMap.1 hcall
    unfold insertHandEvent at he
    split at he
    · cases he
    · cases he
      exact .inl rfl
  | appendPrivateEvents events =>
    refine h.spawn serde room fun call hcall => ?_
    obtain ⟨e, -, rfl⟩ := List.mem_map.1 hcall
    exact .inr rfl
  | recordBehaviorEvent roomId kind =>
    refine h.spawn serde room fun call hcall => ?_
    unfold behaviorEventTask at hcall
    split at hcall
    · exact absurd hcall List.not_mem_nil
    · rw [List.mem_singleton.1 hcall]
      trivial
  | runTask i newId => exact h.runTask serde room hfresh
  | publish limit => exact h.publish serde room limit

/-- What is published of a room is the beginning of what the outbox holds of it. -/
theorem Published.prefix_outbox {st : SinkState Json} (h : Published serde room st) :
    publishedHandEvents serde room st.published <+:
      outboxHandEvents serde room st.repo.outboxEvents := by
  obtain ⟨done, todo, h⟩ := h
  rw [h.outbox, outboxHandEvents_append, h.events]
  exact List.prefix_append _ _

/-- **If no task overtakes an earlier one of the room, the order of the room's events survives**: the
outbox holds them in order, and they are published in order. -/
theorem hand_events_in_order {Card : Type} [RsPoker Card] (config : RoomActorConfig)
    (handId : HandId) (inputs : List (RoomInput Card)) (steps : List SinkStep)
    (hserde : RoundTrip serde)
    (hcalls : emitted room steps <+: (run (roomRunStep config)
      (RoomState.spawn room handId : RoomState Card) inputs).sink.handEvents)
    (hfresh : AllSteps (sinkStep serde) FreshId {} steps)
    (hturn : AllSteps (sinkStep serde) (InTurn serde room) {} steps) :
    InOrder (outboxHandEvents serde room (run (sinkStep serde) {} steps).repo.outboxEvents) ∧
      InOrder (publishedHandEvents serde room (run (sinkStep serde) {} steps).published) := by
  have htrack := track_run serde room hserde hturn
  have hemitted : InOrder (emitted room steps) :=
    (roomLog_inOrder config room handId inputs).sublist hcalls.sublist
  have houtbox : (outboxHandEvents serde room
      (run (sinkStep serde) {} steps).repo.outboxEvents).Sublist (emitted room steps) := by
    have hprefix : outboxHandEvents serde room (run (sinkStep serde) {} steps).repo.outboxEvents <+:
        written serde (emitted room steps) := ⟨_, htrack⟩
    exact hprefix.sublist.trans List.filter_sublist
  have hpublished : Published serde room (run (sinkStep serde) {} steps) := by
    refine hfresh.run_inv (Published serde room) (fun _ _ => published_step serde room) ?_
    exact ⟨[], [], nofun, nofun, List.nodup_nil, rfl, nofun, nofun, rfl⟩
  have hinOrder := hemitted.sublist houtbox
  exact ⟨hinOrder, hinOrder.sublist (hpublished.prefix_outbox serde room).sublist⟩

/-! ### Two calls of one room -/

/-- Events as their own JSON. -/
def plainSerde : Serde (HandEvent ⊕ SeatPrivateEvent ⊕ AuditBehaviorEventKind) where
  uuidText := toString
  handToValue e := .ok (.inl e)
  handFromValue
    | .inl e => .ok e
    | .inr _ => .error "invalid type"
  seatToValue e := .inr (.inl e)
  seatFromValue
    | .inr (.inl e) => .ok e
    | _ => .error "invalid type"
  seatPayload e := .inr (.inl e)
  behaviorToValue kind := .ok (.inr (.inr kind))

theorem roundTrip_plainSerde : RoundTrip plainSerde := by
  intro e v h
  cases h
  rfl

/-- A hand is dealt and folded out. -/
def foldedHand : List (RoomInput ByteCard) :=
  (openTable ++ [RoomCommand.act (tableAction 1 0 .fold none)]).map fun cmd => (tableEnv, cmd)

/-- The two calls of the sink in that hand: its two opening events, and those of the fold. -/
def foldedHandCalls : List SinkStep :=
  [.appendHandEvents ((tableLog foldedHand).take 2), .appendHandEvents ((tableLog foldedHand).drop 2)]

/-- The tasks of both calls are run to their ends, one after the other, and the outbox is published. -/
def scheduled (tasks : List ℕ) : List SinkStep :=
  foldedHandCalls ++
    List.zipWith SinkStep.runTask tasks ["a", "b", "c", "d", "e", "f", "g"] ++ [.publish 10]

/-- The task of the second call runs first: the fold is published before the hand has started. -/
theorem overtaken_events_out_of_order :
    emitted ⟨0⟩ (scheduled [1, 1, 1, 1, 0, 0, 0]) = tableLog foldedHand ∧
      AllSteps (sinkStep plainSerde) FreshId {} (scheduled [1, 1, 1, 1, 0, 0, 0]) ∧
      ¬ InOrder (outboxHandEvents plainSerde ⟨0⟩
        (run (sinkStep plainSerde) {} (scheduled [1, 1, 1, 1, 0, 0, 0])).repo.outboxEvents) ∧
      (publishedHandEvents plainSerde ⟨0⟩
        (run (sinkStep plainSerde) {} (scheduled [1, 1, 1, 1, 0, 0, 0])).published).map
          HandEvent.eventSeq = [3, 4, 5, 1, 2] := by
  decide +kernel

theorem tasks_in_turn_in_order :
    (publishedHandEvents plainSerde ⟨0⟩
        (run (sinkStep plainSerde) {} (scheduled [0, 0, 0, 1, 1, 1, 1])).published).length = 5 ∧
      InOrder (outboxHandEvents plainSerde ⟨0⟩
        (run (sinkStep plainSerde) {} (scheduled [0, 0, 0, 1, 1, 1, 1])).repo.outboxEvents) ∧
      InOrder (publishedHandEvents plainSerde ⟨0⟩
        (run (sinkStep plainSerde) {} (scheduled [0, 0, 0, 1, 1, 1, 1])).published) := by
  have heval : emitted ⟨0⟩ (scheduled [0, 0, 0, 1, 1, 1, 1]) = tableLog foldedHand ∧
      AllSteps (sinkStep plainSerde) FreshId {} (scheduled [0, 0, 0, 1, 1, 1, 1]) ∧
      AllSteps (sinkStep plainSerde) (InTurn plainSerde ⟨0⟩) {} (scheduled [0, 0, 0, 1, 1, 1, 1]) ∧
      (publishedHandEvents plainSerde ⟨0⟩
        (run (sinkStep plainSerde) {} (scheduled [0, 0, 0, 1, 1, 1, 1])).published).length = 5 := by
    decide +kernel
  obtain ⟨hcalls, hfresh, hturn, hlength⟩ := heval
  have hprefix : emitted ⟨0⟩ (scheduled [0, 0, 0, 1, 1, 1, 1]) <+: (run (roomRunStep {})
      (RoomState.spawn ⟨0⟩ ⟨0⟩ : RoomState ByteCard) foldedHand).sink.handEvents :=
    ⟨[], by rw [List.append_nil]; exact hcalls⟩
  exact ⟨hlength, hand_events_in_order plainSerde ⟨0⟩ {} ⟨0⟩ foldedHand _ roundTrip_plainSerde
    hprefix hfresh hturn⟩

end HoldemPlatform.Audit.EventOrder
