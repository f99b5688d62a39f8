import HoldemPlatform.Audit.Outbox
import HoldemPlatform.Gateway.LiveStreams

/-!
# From the Outbox to the Subscribers

The publisher of the outbox is the only one that publishes on the event bus: a round of its call that can
read its record publishes the envelope and then marks the record. Together the two are one machine, in which
records are inserted, calls are made and subscribers come, go and take out their events in any order
(`pipelineStep`).

Its outbox is a run of the outbox alone (`outbox_run`) and its bus one of the bus alone, which publishes what
the outbox has published (`following_run`). So what a stream gets are the matching envelopes of the records
from some place on, in the order of insertion, none left out and none twice (`stream_delivers_records`).
-/

namespace HoldemPlatform.Gateway.Pipeline

open HoldemPlatform.Lib.Run HoldemPlatform.Lib.BoundedChannel
open HoldemPlatform.Domain.Game HoldemPlatform.Room.Actor
open HoldemPlatform.Audit.EventSink HoldemPlatform.Audit.EventOrder HoldemPlatform.Audit.Outbox
open HoldemPlatform.Gateway.EventBus HoldemPlatform.Gateway.EventBus.InMemoryEventBus
open HoldemPlatform.Gateway.LiveStreams

variable {Json : Type}

structure PipelineState (Json : Type) where
  outbox : PublisherState Json := {}
  bus : InMemoryEventBus Json := {}

inductive PipelineStep (Json : Type) where
  | outbox (step : OutboxStep Json)
  /-- What happens on the bus by itself: nobody else publishes there. -/
  | bus (op : BusOp Json) (quiet : publishedBy [op] = [])

def PipelineStep.outboxPart : PipelineStep Json → Option (OutboxStep Json)
  | .outbox step => some step
  | .bus _ _ => none

def insertedRecords (steps : List (PipelineStep Json)) : List (OutboxEventRecord Json) :=
  inserted (steps.filterMap PipelineStep.outboxPart)

section

variable (serde : Serde Json)

/-- What the next round of a call publishes. -/
def nextEnvelope (st : PublisherState Json) : Option (EventEnvelope Json) :=
  match st.call with
  | some (_, rec :: _) =>
    match readRecord serde rec with
    | .ok envelope => envelope
    | .error _ => none
  | _ => none

/-- What a step does on the bus. -/
def busOps (p : PipelineState Json) : PipelineStep Json → List (BusOp Json)
  | .outbox .next => ((nextEnvelope serde p.outbox).map .publish).toList
  | .outbox (.insert _) => []
  | .outbox (.fetch _) => []
  | .bus op _ => [op]

def pipelineStep (p : PipelineState Json) (step : PipelineStep Json) : PipelineState Json where
  outbox := run (outboxStep serde) p.outbox step.outboxPart.toList
  bus := run busStep p.bus (busOps serde p step)

end

section

variable {serde : Serde Json}

/-- A round publishes on the bus what it adds to the published envelopes. -/
theorem published_next (st : PublisherState Json) :
    (nextRecord serde st).sink.published = st.sink.published ++ (nextEnvelope serde st).toList := by
  unfold nextEnvelope
  split
  · rename_i n rec rest hcall
    split
    · rename_i envelope hread
      cases envelope with
      | none => rw [nextRecord_skip hcall hread, Option.toList_none, List.append_nil]
      | some envelope =>
        rw [nextRecord_publish hcall hread]
        rfl
    · rename_i e hread
      rw [nextRecord_error hcall hread, Option.toList_none, List.append_nil]
      rfl
  · rename_i hnone
    rw [Option.toList_none, List.append_nil]
    cases hcall : st.call with
    | none => rw [nextRecord_idle hcall]
    | some call =>
      obtain ⟨n, rest⟩ := call
      cases rest with
      | nil =>
        rw [nextRecord_end hcall]
        rfl
      | cons rec rest => exact absurd hcall (hnone n rec rest)

theorem published_step (p : PipelineState Json) (step : PipelineStep Json) :
    (pipelineStep serde p step).outbox.sink.published =
      p.outbox.sink.published ++ publishedBy (busOps serde p step) := by
  cases step with
  | bus op quiet =>
    show p.outbox.sink.published = p.outbox.sink.published ++ publishedBy [op]
    rw [quiet, List.append_nil]
  | outbox step =>
    cases step with
    | insert record => exact (List.append_nil _).symm
    | fetch limit =>
      refine Eq.trans ?_ (List.append_nil _).symm
      show (outboxStep serde p.outbox (.fetch limit)).sink.published = _
      simp only [outboxStep]
      split <;> rfl
    | next =>
      show (nextRecord serde p.outbox).sink.published = _
      rw [published_next, busOps]
      cases nextEnvelope serde p.outbox <;> rfl

/-- **The outbox does not notice the bus.** -/
theorem outbox_run (steps : List (PipelineStep Json)) (p : PipelineState Json) :
    (run (pipelineStep serde) p steps).outbox =
      run (outboxStep serde) p.outbox (steps.filterMap PipelineStep.outboxPart) := by
  induction steps generalizing p with
  | nil => rfl
  | cons step steps ih =>
    rw [run_cons, ih]
    cases step <;> rfl

theorem wellFormed_pipeline {p : PipelineState Json} (h : WellFormed p.bus)
    (steps : List (PipelineStep Json)) : WellFormed (run (pipelineStep serde) p steps).bus := by
  have hinv : ∀ (p : PipelineState Json) (step : PipelineStep Json), WellFormed p.bus →
      WellFormed (pipelineStep serde p step).bus := fun p step h =>
    run_inv WellFormed (fun _ op h => wellFormed_step h op) (busOps serde p step) h
  exact run_inv (fun p : PipelineState Json => WellFormed p.bus) hinv steps h

/-- **A stream follows the outbox**: what is published from now on is offered to it. -/
theorem following_run (serde : Serde Json) {c : ℕ} {request : SubscribeRequest}
    (steps : List (PipelineStep Json)) {p : PipelineState Json} {expected : List (EventEnvelope Json)}
    {ch : Channel (EventEnvelope Json)}
    (h : Following p.bus c request expected ch) : ∃ new ch',
      (run (pipelineStep serde) p steps).outbox.sink.published = p.outbox.sink.published ++ new ∧
      Following (run (pipelineStep serde) p steps).bus c request
        (expected ++ new.filter (eventMatches request)) ch' := by
  induction steps generalizing p expected ch with
  | nil =>
    refine ⟨[], ch, (List.append_nil _).symm, ?_⟩
    rw [List.filter_nil, List.append_nil]
    exact h
  | cons step steps ih =>
    obtain ⟨mid, hmid⟩ := h.after (busOps serde p step)
    have hmid : Following (pipelineStep serde p step).bus c request _ mid := hmid
    obtain ⟨new, ch', hpublished, hfollows⟩ := ih hmid
    refine ⟨publishedBy (busOps serde p step) ++ new, ch', ?_, ?_⟩
    · rw [run_cons, hpublished, published_step, List.append_assoc]
    · rw [List.filter_append, ← List.append_assoc]
      exact hfollows

end

/-- **What a subscriber gets from the outbox**: the pending records fall into those that were published
before it came, those published since, and those still to be published, in the order in which they were
inserted. What is sent to the stream are the first of the matching envelopes of the second part; and all of
them, as long as the subscriber has not been removed and has not gone. -/
theorem stream_delivers_records (serde : Serde Json) (capacity : ℕ)
    (before after : List (PipelineStep Json)) (id : String) (request : SubscribeRequest) :
    let opened := run (pipelineStep serde) { bus := withStreamBufferCapacity {} capacity } before
    let c := opened.bus.channels.length
    let steps := before ++ .bus (.subscribeStream id request) rfl :: after
    let p := run (pipelineStep serde) { bus := withStreamBufferCapacity {} capacity } steps
    ((insertedRecords steps).map OutboxEventRecord.outboxEventId).Nodup →
      (∀ rec ∈ insertedRecords steps, Deliverable serde rec) →
      ∃ (earlier since later : List (OutboxEventRecord Json)) (envelopes : List (EventEnvelope Json)),
        pendingRecords (insertedRecords steps) = earlier ++ since ++ later ∧
        earlier.map (readRecord serde) =
          opened.outbox.sink.published.map (fun envelope => .ok (some envelope)) ∧
        p.outbox.sink.published = opened.outbox.sink.published ++ envelopes ∧
        since.map (readRecord serde) = envelopes.map (fun envelope => .ok (some envelope)) ∧
        streamReceived p.bus c <+: streamSent p.bus c ∧
        streamSent p.bus c <+: envelopes.filter (eventMatches request) ∧
        (¬ Detached p.bus c → (∀ ch, p.bus.channels[c]? = some ch → ch.closed = false) →
          streamSent p.bus c = envelopes.filter (eventMatches request)) := by
  intro opened c steps p hids hgood
  -- the stream, from its first moment on
  have hwf : WellFormed opened.bus := wellFormed_pipeline (wellFormed_run capacity []) before
  have hopen : Following (pipelineStep serde opened (.bus (.subscribeStream id request) rfl)).bus c request []
      (Channel.empty opened.bus.streamBufferCapacity) := following_subscribeStream hwf id request
  obtain ⟨new, ch, hpublished, hfollows⟩ := following_run serde after hopen
  have hp : p = run (pipelineStep serde) (pipelineStep serde opened (.bus (.subscribeStream id request) rfl))
      after := run_append ..
  rw [← hp] at hpublished hfollows
  rw [List.nil_append] at hfollows
  -- the records, up to the last one that was published
  obtain ⟨done, todo, hdone⟩ : ∃ done todo, Delivering serde (insertedRecords steps)
      (run (outboxStep serde) {} (steps.filterMap PipelineStep.outboxPart)) done todo :=
    delivering_run _ hids hgood
  have houtbox : p.outbox = run (outboxStep serde) {} (steps.filterMap PipelineStep.outboxPart) :=
    outbox_run steps _
  rw [← houtbox] at hdone
  have hsent : (pendingRecords done).map (readRecord serde) =
      (opened.outbox.sink.published ++ new).map fun envelope => .ok (some envelope) := by
    rw [hdone.sent, hpublished]
    rfl
  refine ⟨(pendingRecords done).take opened.outbox.sink.published.length,
    (pendingRecords done).drop opened.outbox.sink.published.length, pendingRecords todo, new, ?_, ?_,
    hpublished, ?_, ?_, ?_, ?_⟩
  · rw [List.take_append_drop, hdone.records, pendingRecords_append]
  · rw [List.map_take, hsent, ← List.map_take, List.take_left]
  · rw [List.map_drop, hsent, ← List.map_drop, List.drop_left]
  · rw [streamSent_of_channel hfollows.channel, streamReceived, hfollows.channel]
    exact ch.received_prefix_sent
  · rw [streamSent_of_channel hfollows.channel]
    exact hfollows.sent
  · intro hlive hopened
    rw [streamSent_of_channel hfollows.channel]
    exact hfollows.complete hlive (hopened ch hfollows.channel)

/-- A subscriber of the hand events. -/
def handRequest : SubscribeRequest where
  topic := .handEvents
  roomId := ⟨0⟩
  handId := none
  seatId := none

/-- One record is published before the subscriber comes. -/
def beforeStream : List (PipelineStep (HandEvent ⊕ SeatPrivateEvent ⊕ AuditBehaviorEventKind)) :=
  [.outbox (.insert (handRecord "a" 1)), .outbox (.fetch 1), .outbox .next]

/-- Two more are inserted; the next call fetches one of them. -/
def afterStream : List (PipelineStep (HandEvent ⊕ SeatPrivateEvent ⊕ AuditBehaviorEventKind)) :=
  [.outbox (.insert (handRecord "b" 2)), .outbox .next, .outbox (.insert (handRecord "c" 3)),
    .outbox (.fetch 1), .outbox .next, .bus (.recv 0) rfl]

theorem late_subscriber_delivered :
    let p := run (pipelineStep plainSerde) { bus := withStreamBufferCapacity {} 1 }
      (beforeStream ++ .bus (.subscribeStream "s" handRequest) rfl :: afterStream)
    p.outbox.sink.published.length = 2 ∧ (streamReceived p.bus 0).length = 1 ∧
      ∃ (earlier since later : List (OutboxEventRecord _)) (envelopes : List (EventEnvelope _)),
        [handRecord "a" 1, handRecord "b" 2, handRecord "c" 3] = earlier ++ since ++ later ∧
        earlier.map (readRecord plainSerde) = [readRecord plainSerde (handRecord "a" 1)] ∧
        since.map (readRecord plainSerde) = envelopes.map (fun envelope => .ok (some envelope)) ∧
        streamReceived p.bus 0 <+: envelopes.filter (eventMatches handRequest) := by
  intro p
  refine ⟨rfl, by decide +kernel, ?_⟩
  have hids : ((insertedRecords (beforeStream ++ .bus (.subscribeStream "s" handRequest) rfl ::
      afterStream)).map OutboxEventRecord.outboxEventId).Nodup := by decide
  have hgood : ∀ rec ∈ insertedRecords (beforeStream ++ .bus (.subscribeStream "s" handRequest) rfl ::
      afterStream), Deliverable plainSerde rec := by
    show ∀ rec ∈ [handRecord "a" 1, handRecord "b" 2, handRecord "c" 3], Deliverable plainSerde rec
    simp only [List.forall_mem_cons, List.not_mem_nil, false_implies, implies_true, and_true]
    exact ⟨⟨_, rfl⟩, ⟨_, rfl⟩, ⟨_, rfl⟩⟩
  obtain ⟨earlier, since, later, envelopes, hrecords, hearlier, -, hsince, hreceived, hsent, -⟩ :=
    stream_delivers_records plainSerde 1 beforeStream afterStream "s" handRequest hids hgood
  exact ⟨earlier, since, later, envelopes, hrecords, hearlier, hsince, hreceived.trans hsent⟩

end HoldemPlatform.Gateway.Pipeline
