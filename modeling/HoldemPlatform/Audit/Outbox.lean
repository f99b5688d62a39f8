import HoldemPlatform.Audit.EventOrder

/-!
# The Outbox, Record by Record

A call of the publisher fetches a batch of pending records and then, record by record, publishes and marks
them. Here these are steps of their own, so that records can be inserted in the middle of a call
(`outboxStep`); run to its end without insertions a call is `publishPendingOutboxOnce` (`run_call`). The
application has one publisher, whose loop waits for a call before it makes the next.

What is published is always a prefix of what was inserted (`outbox_delivers_in_order`), as long as every
record can be read. A record that cannot be read ends its call, and one of an unknown topic stays in the
way: neither is ever marked (`publishes_iff_unblocked`).
-/

namespace HoldemPlatform.Audit.Outbox

open HoldemPlatform.Lib.Run HoldemPlatform.Domain.Game HoldemPlatform.Room.Actor
open HoldemPlatform.Audit.EventSink HoldemPlatform.Audit.EventOrder
open HoldemPlatform.Audit.EventSink.InMemoryAuditRepository

variable {Json : Type}

/-! ### Records -/

def pendingRecords (records : List (OutboxEventRecord Json)) : List (OutboxEventRecord Json) :=
  records.filter fun rec => rec.status = .pending

def delivered (rec : OutboxEventRecord Json) : OutboxEventRecord Json :=
  { rec with status := .delivered }

theorem pendingRecords_append (records records' : List (OutboxEventRecord Json)) :
    pendingRecords (records ++ records') = pendingRecords records ++ pendingRecords records' :=
  List.filter_append ..

theorem pendingRecords_map_delivered (records : List (OutboxEventRecord Json)) :
    pendingRecords (records.map delivered) = [] := by
  refine List.filter_eq_nil_iff.2 fun rec hrec => ?_
  obtain ⟨rec', -, rfl⟩ := List.mem_map.1 hrec
  simp [delivered]

theorem map_delivered_of_not_pending {records : List (OutboxEventRecord Json)}
    (h : ∀ rec ∈ records, rec.status ≠ .pending) : records.map delivered = records := by
  refine (List.map_congr_left fun rec hrec => ?_).trans (List.map_id records)
  have hnot := h rec hrec
  cases rec with
  | mk id topic key payload status =>
    cases status with
    | pending => exact absurd rfl hnot
    | delivered => rfl

section

variable (serde : Serde Json)

def readRecord (rec : OutboxEventRecord Json) : Except String (Option (EventEnvelope Json)) :=
  toEventEnvelope serde rec.topic rec.payloadJson

/-- The topic is known and the payload well formed. -/
def Deliverable (rec : OutboxEventRecord Json) : Prop :=
  ∃ envelope, readRecord serde rec = .ok (some envelope)

/-! ### The calls of the publisher -/

/-- The sink; of the call that is under way, how many records it has published and those it has fetched
and not yet looked at; and the results of the calls before. -/
structure PublisherState (Json : Type) where
  sink : SinkState Json := {}
  call : Option (ℕ × List (OutboxEventRecord Json)) := none
  results : List (Except String ℕ) := []

inductive OutboxStep (Json : Type) where
  | insert (record : OutboxEventRecord Json)
  /-- The publisher, if it is not in a call, begins one. -/
  | fetch (limit : ℕ)
  /-- The call looks at its next record, or ends. -/
  | next

def OutboxStep.isFetch : OutboxStep Json → Bool
  | .fetch _ => true
  | _ => false

def OutboxStep.isNext : OutboxStep Json → Bool
  | .next => true
  | _ => false

def endCall (st : PublisherState Json) (result : Except String ℕ) : PublisherState Json :=
  { st with call := none, results := st.results ++ [result] }

def publishAndMark (sink : SinkState Json) (rec : OutboxEventRecord Json)
    (envelope : EventEnvelope Json) : SinkState Json :=
  { sink with
    published := sink.published ++ [envelope]
    repo := sink.repo.markOutboxEventDelivered rec.outboxEventId }

/-- One round of the loop in `publish_pending_outbox_once`. -/
def nextRecord (st : PublisherState Json) : PublisherState Json :=
  match st.call with
  | none => st
  | some (published, []) => endCall st (.ok published)
  | some (published, rec :: rest) =>
    match readRecord serde rec with
    | .error e => endCall st (.error e)
    | .ok none => { st with call := some (published, rest) }
    | .ok (some envelope) =>
      { st with sink := publishAndMark st.sink rec envelope, call := some (published + 1, rest) }

def outboxStep (st : PublisherState Json) : OutboxStep Json → PublisherState Json
  | .insert record => { st with sink := { st.sink with repo := st.sink.repo.insertOutboxEvent record } }
  | .fetch limit =>
    match st.call with
    | none => { st with call := some (0, st.sink.repo.fetchPendingOutboxEvents limit) }
    | some _ => st
  | .next => nextRecord serde st

section

variable {serde} {st : PublisherState Json} {n : ℕ} {rec : OutboxEventRecord Json}
  {rest : List (OutboxEventRecord Json)}

theorem nextRecord_idle (h : st.call = none) : nextRecord serde st = st := by
  simp only [nextRecord, h]

theorem nextRecord_end (h : st.call = some (n, [])) : nextRecord serde st = endCall st (.ok n) := by
  simp only [nextRecord, h]

theorem nextRecord_error (h : st.call = some (n, rec :: rest)) {e : String}
    (hread : readRecord serde rec = .error e) : nextRecord serde st = endCall st (.error e) := by
  simp only [nextRecord, h, hread]

theorem nextRecord_skip (h : st.call = some (n, rec :: rest))
    (hread : readRecord serde rec = .ok none) :
    nextRecord serde st = { st with call := some (n, rest) } := by
  simp only [nextRecord, h, hread]

theorem nextRecord_publish (h : st.call = some (n, rec :: rest)) {envelope : EventEnvelope Json}
    (hread : readRecord serde rec = .ok (some envelope)) :
    nextRecord serde st =
      { st with sink := publishAndMark st.sink rec envelope, call := some (n + 1, rest) } := by
  simp only [nextRecord, h, hread]

end

theorem run_next_idle {st : PublisherState Json} (h : st.call = none) :
    ∀ k, run (outboxStep serde) st (List.replicate k .next) = st
  | 0 => rfl
  | k + 1 => by
    have hstep : outboxStep serde st .next = st := nextRecord_idle h
    rw [List.replicate_succ, run_cons, hstep, run_next_idle h k]

/-! The loop of the source, by what it reads first. -/

theorem publishRecords_error {rec : OutboxEventRecord Json} {e : String}
    (hread : readRecord serde rec = .error e) (sink : SinkState Json) (n : ℕ)
    (rest : List (OutboxEventRecord Json)) :
    publishRecords serde sink n (rec :: rest) = (sink, .error e) := by
  simp only [publishRecords, show toEventEnvelope serde rec.topic rec.payloadJson = _ from hread]

theorem publishRecords_skip {rec : OutboxEventRecord Json} (hread : readRecord serde rec = .ok none)
    (sink : SinkState Json) (n : ℕ) (rest : List (OutboxEventRecord Json)) :
    publishRecords serde sink n (rec :: rest) = publishRecords serde sink n rest := by
  simp only [publishRecords, show toEventEnvelope serde rec.topic rec.payloadJson = _ from hread]

theorem publishRecords_publish {rec : OutboxEventRecord Json} {envelope : EventEnvelope Json}
    (hread : readRecord serde rec = .ok (some envelope)) (sink : SinkState Json) (n : ℕ)
    (rest : List (OutboxEventRecord Json)) :
    publishRecords serde sink n (rec :: rest) =
      publishRecords serde (publishAndMark sink rec envelope) (n + 1) rest := by
  simp only [publishRecords, show toEventEnvelope serde rec.topic rec.payloadJson = _ from hread]
  rfl

/-- A call run to its end does what the loop of the source does. -/
theorem run_records : ∀ (records : List (OutboxEventRecord Json)) {st : PublisherState Json} {n : ℕ},
    st.call = some (n, records) →
    run (outboxStep serde) st (List.replicate (records.length + 1) .next) =
      { sink := (publishRecords serde st.sink n records).1, call := none,
        results := st.results ++ [(publishRecords serde st.sink n records).2] }
  | [], st, n, h => nextRecord_end h
  | rec :: rest, st, n, h => by
    rw [List.length_cons, List.replicate_succ, run_cons]
    show run (outboxStep serde) (nextRecord serde st) _ = _
    cases hread : readRecord serde rec with
    | error e =>
      rw [nextRecord_error h hread, publishRecords_error serde hread, run_next_idle serde rfl]
      rfl
    | ok found =>
      cases found with
      | none =>
        rw [nextRecord_skip h hread, publishRecords_skip serde hread, run_records rest rfl]
      | some envelope =>
        rw [nextRecord_publish h hread, publishRecords_publish serde hread, run_records rest rfl]

/-- **A call without insertions** is `publish_pending_outbox_once`. -/
theorem run_call {st : PublisherState Json} (h : st.call = none) (limit : ℕ) :
    run (outboxStep serde) st
        (.fetch limit ::
          List.replicate ((st.sink.repo.fetchPendingOutboxEvents limit).length + 1) .next) =
      { sink := (publishPendingOutboxOnce serde st.sink limit).1, call := none,
        results := st.results ++ [(publishPendingOutboxOnce serde st.sink limit).2] } := by
  have hfetch : outboxStep serde st (.fetch limit) =
      { st with call := some (0, st.sink.repo.fetchPendingOutboxEvents limit) } := by
    simp only [outboxStep, h]
  rw [run_cons, hfetch, run_records serde _ rfl]
  rfl

/-! ### How far the deliveries have come -/

def inserted (steps : List (OutboxStep Json)) : List (OutboxEventRecord Json) :=
  steps.filterMap fun
    | .insert record => some record
    | _ => none

/-- Of the records, `done` are delivered, `todo` are as they were inserted; what was published are the
envelopes of `done`, and a call goes on with the pending records of `todo`. -/
structure Delivering (records : List (OutboxEventRecord Json)) (st : PublisherState Json)
    (done todo : List (OutboxEventRecord Json)) : Prop where
  records : records = done ++ todo
  outbox : st.sink.repo.outboxEvents = done.map delivered ++ todo
  sent : (pendingRecords done).map (readRecord serde) =
    st.sink.published.map fun envelope => .ok (some envelope)
  fetched : ∀ n rest, st.call = some (n, rest) → rest <+: pendingRecords todo

variable {serde}

section

variable {records done todo : List (OutboxEventRecord Json)} {st : PublisherState Json}
  (h : Delivering serde records st done todo)
include h

theorem Delivering.pending : pendingRecords st.sink.repo.outboxEvents = pendingRecords todo := by
  rw [h.outbox, pendingRecords_append, pendingRecords_map_delivered, List.nil_append]

theorem Delivering.insert (record : OutboxEventRecord Json) :
    Delivering serde (records ++ [record]) (outboxStep serde st (.insert record)) done
      (todo ++ [record]) where
  records := by rw [h.records, List.append_assoc]
  outbox := by
    show st.sink.repo.outboxEvents ++ [record] = _
    rw [h.outbox, List.append_assoc]
  sent := h.sent
  fetched := by
    intro n rest hcall
    rw [pendingRecords_append]
    exact (h.fetched n rest hcall).trans (List.prefix_append ..)

theorem Delivering.fetch (limit : ℕ) :
    Delivering serde records (outboxStep serde st (.fetch limit)) done todo := by
  simp only [outboxStep]
  cases hcall : st.call with
  | some call => exact h
  | none =>
    refine ⟨h.records, h.outbox, h.sent, fun n rest hfetched => ?_⟩
    cases hfetched
    show (pendingRecords st.sink.repo.outboxEvents).take limit <+: _
    rw [h.pending]
    exact List.take_prefix ..

/-- The next record of a call is the first of `todo` that is pending: it is published, and marked where it
stands. -/
theorem Delivering.publish (hids : (records.map OutboxEventRecord.outboxEventId).Nodup) {n : ℕ}
    {rec : OutboxEventRecord Json} {rest : List (OutboxEventRecord Json)}
    (hcall : st.call = some (n, rec :: rest)) {envelope : EventEnvelope Json}
    (hread : readRecord serde rec = .ok (some envelope)) :
    ∃ done' todo', Delivering serde records (nextRecord serde st) done' todo' := by
  obtain ⟨later, hpending⟩ := h.fetched n _ hcall
  obtain ⟨skipped, todo', rfl, hskipped, hrec, hrest⟩ := List.filter_eq_cons_iff.1 hpending.symm
  have hnot : ∀ r ∈ skipped, r.status ≠ .pending := fun r hr => by simpa using hskipped r hr
  have hnone : pendingRecords skipped = [] := List.filter_eq_nil_iff.2 hskipped
  have hone : pendingRecords [rec] = [rec] := List.filter_eq_self.2 (by simpa using hrec)
  have hsplit : records = (done ++ skipped) ++ rec :: todo' := by rw [h.records, List.append_assoc]
  have hfresh : rec.outboxEventId ∉
      (done.map delivered ++ skipped).map OutboxEventRecord.outboxEventId := by
    rw [hsplit, List.map_append, List.nodup_append] at hids
    have hsame : (done.map delivered ++ skipped).map OutboxEventRecord.outboxEventId =
        (done ++ skipped).map OutboxEventRecord.outboxEventId := by
      rw [List.map_append, List.map_append, List.map_map]
      rfl
    rw [hsame]
    exact fun hmem => hids.2.2 _ hmem _ (by simp) rfl
  refine ⟨done ++ skipped ++ [rec], todo', ?_⟩
  rw [nextRecord_publish hcall hread]
  refine ⟨by simp [hsplit], ?_, ?_, fun n' rest' hnext => ?_⟩
  · show markDelivered rec.outboxEventId st.sink.repo.outboxEvents = _
    rw [h.outbox, ← List.append_assoc, markDelivered_append hfresh, List.map_append, List.map_append,
      map_delivered_of_not_pending hnot, List.append_assoc _ (List.map delivered [rec])]
    rfl
  · show _ = (st.sink.published ++ [envelope]).map _
    rw [pendingRecords_append, pendingRecords_append, hnone, hone, List.append_nil, List.map_append,
      h.sent, List.map_append, List.map_singleton, hread]
    rfl
  · cases hnext
    exact ⟨later, hrest.symm⟩

theorem Delivering.next (hids : (records.map OutboxEventRecord.outboxEventId).Nodup)
    (hgood : ∀ rec ∈ records, Deliverable serde rec) :
    ∃ done' todo', Delivering serde records (outboxStep serde st .next) done' todo' := by
  show ∃ done' todo', Delivering serde records (nextRecord serde st) done' todo'
  cases hcall : st.call with
  | none =>
    refine ⟨done, todo, ?_⟩
    rw [nextRecord_idle hcall]
    exact h
  | some call =>
    obtain ⟨n, fetched⟩ := call
    cases fetched with
    | nil =>
      refine ⟨done, todo, ?_⟩
      rw [nextRecord_end hcall]
      exact ⟨h.records, h.outbox, h.sent, nofun⟩
    | cons rec rest =>
      have hmem : rec ∈ records := by
        have hpending : rec ∈ pendingRecords todo := (h.fetched n _ hcall).subset List.mem_cons_self
        rw [h.records]
        exact List.mem_append_right _ (List.mem_of_mem_filter hpending)
      obtain ⟨envelope, hread⟩ := hgood rec hmem
      exact h.publish hids hcall hread

end

/-- **What a schedule has delivered.** -/
theorem delivering_run (steps : List (OutboxStep Json))
    (hids : ((inserted steps).map OutboxEventRecord.outboxEventId).Nodup)
    (hgood : ∀ rec ∈ inserted steps, Deliverable serde rec) :
    ∃ done todo, Delivering serde (inserted steps) (run (outboxStep serde) {} steps) done todo := by
  induction steps using List.reverseRecOn with
  | nil => exact ⟨[], [], rfl, rfl, rfl, nofun⟩
  | append_singleton steps step ih =>
    have happend : inserted (steps ++ [step]) = inserted steps ++ inserted [step] :=
      List.filterMap_append
    have hsub : (inserted steps).Sublist (inserted (steps ++ [step])) := by
      rw [happend]
      exact List.sublist_append_left ..
    obtain ⟨done, todo, h⟩ :=
      ih ((hsub.map _).nodup hids) fun rec hrec => hgood rec (hsub.subset hrec)
    rw [run_concat]
    cases step with
    | insert record =>
      rw [happend]
      exact ⟨done, todo ++ [record], h.insert record⟩
    | fetch limit =>
      rw [happend]
      refine ⟨done, todo, ?_⟩
      simpa [inserted] using h.fetch limit
    | next =>
      have hsame : inserted (steps ++ [.next]) = inserted steps := by simp [inserted]
      rw [hsame] at hids hgood ⊢
      exact h.next hids hgood

/-! ### How far a call comes -/

/-- Where a call stands that began with `n` published and `fetched` to look at, after `k` rounds. -/
structure CallAfter (st st' : PublisherState Json) (n : ℕ) (fetched : List (OutboxEventRecord Json))
    (k : ℕ) : Prop where
  published : st'.sink.published.length = st.sink.published.length + min k fetched.length
  going : k ≤ fetched.length → st'.call = some (n + k, fetched.drop k) ∧ st'.results = st.results
  ended : fetched.length < k → st'.call = none ∧ st'.results = st.results ++ [.ok (n + fetched.length)]

theorem CallAfter.step {st st' : PublisherState Json} {n k : ℕ} {fetched : List (OutboxEventRecord Json)}
    (hgood : ∀ rec ∈ fetched, Deliverable serde rec) (h : CallAfter st st' n fetched k)
    {step : OutboxStep Json} (hstep : step.isFetch = false) :
    CallAfter st (outboxStep serde st' step) n fetched (k + if step.isNext then 1 else 0) := by
  cases step with
  | fetch limit => cases hstep
  | insert record => exact ⟨h.published, h.going, h.ended⟩
  | next =>
    show CallAfter st (nextRecord serde st') n fetched (k + 1)
    have hpublished := h.published
    rcases Nat.lt_trichotomy k fetched.length with hlt | heq | hgt
    · obtain ⟨hcall, hresults⟩ := h.going hlt.le
      rw [List.drop_eq_getElem_cons hlt] at hcall
      obtain ⟨envelope, hread⟩ := hgood fetched[k] (List.getElem_mem hlt)
      rw [nextRecord_publish hcall hread]
      refine ⟨?_, fun _ => ⟨rfl, hresults⟩, fun hend => absurd hlt (by omega)⟩
      show (st'.sink.published ++ [envelope]).length = _
      rw [List.length_append, List.length_singleton]
      omega
    · obtain ⟨hcall, hresults⟩ := h.going heq.le
      rw [heq, List.drop_length] at hcall
      rw [nextRecord_end hcall]
      refine ⟨?_, fun hle => absurd hle (by omega), fun _ => ⟨rfl, ?_⟩⟩
      · show st'.sink.published.length = _
        omega
      · show st'.results ++ _ = _
        rw [hresults]
    · obtain ⟨hcall, hresults⟩ := h.ended hgt
      rw [nextRecord_idle hcall]
      exact ⟨by omega, fun hle => absurd hle (by omega), fun _ => ⟨hcall, hresults⟩⟩

/-- **A call with insertions in between**: each round publishes one of the records that were fetched. -/
theorem callAfter_run {st st' : PublisherState Json} {n : ℕ} {fetched : List (OutboxEventRecord Json)}
    (hgood : ∀ rec ∈ fetched, Deliverable serde rec) : ∀ {steps : List (OutboxStep Json)} {k : ℕ},
    CallAfter st st' n fetched k → (∀ step ∈ steps, step.isFetch = false) →
    CallAfter st (run (outboxStep serde) st' steps) n fetched (k + steps.countP OutboxStep.isNext) := by
  intro steps k h hsteps
  induction steps generalizing st' k with
  | nil => exact h
  | cons step steps ih =>
    rw [run_cons, List.countP_cons, Nat.add_comm (steps.countP _), ← Nat.add_assoc]
    exact ih (h.step hgood (hsteps step List.mem_cons_self))
      fun s hs => hsteps s (List.mem_cons_of_mem step hs)

variable (serde)

/-- **Deliveries are in order and happen once.** Whatever was inserted, in whatever interleaving with the
calls of the publisher: the published envelopes are those of the first of the records that were inserted
to be delivered, each of them once. A call publishes one record with every round, up to its limit and
the number of records that were pending when it began, and then returns that number. -/
theorem outbox_delivers_in_order (steps : List (OutboxStep Json))
    (hids : ((inserted steps).map OutboxEventRecord.outboxEventId).Nodup)
    (hgood : ∀ rec ∈ inserted steps, Deliverable serde rec) :
    (∃ sent, sent <+: pendingRecords (inserted steps) ∧
      (sent.map OutboxEventRecord.outboxEventId).Nodup ∧
      sent.map (readRecord serde) =
        (run (outboxStep serde) {} steps).sink.published.map fun envelope => .ok (some envelope)) ∧
    ∀ before limit during, steps = before ++ .fetch limit :: during →
      (run (outboxStep serde) {} before).call = none → (∀ step ∈ during, step.isFetch = false) →
      let st := run (outboxStep serde) {} before
      let st' := run (outboxStep serde) {} steps
      let batch := min limit (pendingRecords st.sink.repo.outboxEvents).length
      st'.sink.published.length =
          st.sink.published.length + min (during.countP OutboxStep.isNext) batch ∧
        (batch < during.countP OutboxStep.isNext →
          st'.call = none ∧ st'.results = st.results ++ [.ok batch]) := by
  constructor
  · obtain ⟨done, todo, h⟩ := delivering_run steps hids hgood
    have hsent : pendingRecords done <+: pendingRecords (inserted steps) := by
      rw [h.records, pendingRecords_append]
      exact List.prefix_append ..
    refine ⟨pendingRecords done, hsent, ?_, h.sent⟩
    exact ((hsent.sublist.trans List.filter_sublist).map _).nodup hids
  · rintro before limit during rfl hidle hduring st st' batch
    have happend : inserted (before ++ .fetch limit :: during) = inserted before ++ inserted during := by
      simp [inserted]
    obtain ⟨done, todo, h⟩ := delivering_run before
      (by rw [happend, List.map_append] at hids; exact hids.of_append_left)
      fun rec hrec => hgood rec (by rw [happend]; exact List.mem_append_left _ hrec)
    have hfetch : outboxStep serde st (.fetch limit) =
        { st with call := some (0, st.sink.repo.fetchPendingOutboxEvents limit) } := by
      simp only [outboxStep, show st.call = none from hidle]
    have hlen : (st.sink.repo.fetchPendingOutboxEvents limit).length = batch := List.length_take
    have hfetched : ∀ rec ∈ st.sink.repo.fetchPendingOutboxEvents limit, Deliverable serde rec := by
      intro rec hrec
      have hpending : rec ∈ pendingRecords st.sink.repo.outboxEvents := List.mem_of_mem_take hrec
      rw [h.pending] at hpending
      refine hgood rec ?_
      rw [happend, h.records]
      exact List.mem_append_left _ (List.mem_append_right _ (List.mem_of_mem_filter hpending))
    have hstart : CallAfter st (outboxStep serde st (.fetch limit)) 0
        (st.sink.repo.fetchPendingOutboxEvents limit) 0 := by
      rw [hfetch]
      exact ⟨by simp, fun _ => ⟨rfl, rfl⟩, fun hlt => absurd hlt (Nat.not_lt_zero _)⟩
    have hend := callAfter_run hfetched hstart hduring
    rw [Nat.zero_add] at hend
    have hrun : st' = run (outboxStep serde) (outboxStep serde st (.fetch limit)) during :=
      run_append ..
    rw [hrun]
    refine ⟨by rw [hend.published, hlen], fun hlt => ?_⟩
    have hended := hend.ended (by rwa [hlen])
    rwa [hlen, Nat.zero_add] at hended

end

/-! ### Two calls, with an insertion during the first -/

def handRecord (outboxEventId : String) (eventSeq : ℕ) :
    OutboxEventRecord (HandEvent ⊕ SeatPrivateEvent ⊕ AuditBehaviorEventKind) where
  outboxEventId := outboxEventId
  topic := "hand.events"
  partitionKey := "0"
  payloadJson := .inl ⟨⟨0⟩, ⟨0⟩, eventSeq, .handStarted⟩
  status := .pending

def twoCalls : List (OutboxStep (HandEvent ⊕ SeatPrivateEvent ⊕ AuditBehaviorEventKind)) :=
  [.insert (handRecord "a" 1), .insert (handRecord "b" 2), .fetch 2, .next, .insert (handRecord "c" 3),
    .next, .next, .fetch 5, .next, .next]

theorem twoCalls_in_order :
    (run (outboxStep plainSerde) {} twoCalls).results = [.ok 2, .ok 1] ∧
      ∃ sent, sent <+: pendingRecords (inserted twoCalls) ∧
        (sent.map OutboxEventRecord.outboxEventId).Nodup ∧
        sent.map (readRecord plainSerde) =
          (run (outboxStep plainSerde) {} twoCalls).sink.published.map
            fun envelope => .ok (some envelope) := by
  have hids : ((inserted twoCalls).map OutboxEventRecord.outboxEventId).Nodup := by decide
  have hgood : ∀ rec ∈ inserted twoCalls, Deliverable plainSerde rec := by
    have hinserted : inserted twoCalls = [handRecord "a" 1, handRecord "b" 2, handRecord "c" 3] := rfl
    simp only [hinserted, List.forall_mem_cons]
    exact ⟨⟨_, rfl⟩, ⟨_, rfl⟩, ⟨_, rfl⟩, nofun⟩
  exact ⟨rfl, (outbox_delivers_in_order plainSerde twoCalls hids hgood).1⟩

/-! ### Records in the way -/

section

variable (serde : Serde Json)

theorem published_le_publishRecords (records : List (OutboxEventRecord Json)) (sink : SinkState Json)
    (n : ℕ) : sink.published.length ≤ (publishRecords serde sink n records).1.published.length := by
  induction records generalizing sink n with
  | nil => exact le_rfl
  | cons rec rest ih =>
    cases hread : readRecord serde rec with
    | error e => rw [publishRecords_error serde hread]
    | ok found =>
      cases found with
      | none =>
        rw [publishRecords_skip serde hread]
        exact ih sink n
      | some envelope =>
        rw [publishRecords_publish serde hread]
        refine le_trans ?_ (ih _ _)
        show sink.published.length ≤ (sink.published ++ [envelope]).length
        rw [List.length_append]
        exact Nat.le_add_right ..

/-- To be first after others of a kind is to be at the head, or to be so behind a head of that kind. -/
theorem exists_split_cons {α : Type} {P Q : α → Prop} {first : α} {rest : List α} :
    (∃ before a after, first :: rest = before ++ a :: after ∧ (∀ b ∈ before, P b) ∧ Q a) ↔
      Q first ∨ P first ∧
        ∃ before a after, rest = before ++ a :: after ∧ (∀ b ∈ before, P b) ∧ Q a := by
  constructor
  · rintro ⟨before, a, after, hsplit, hbefore, ha⟩
    cases before with
    | nil =>
      obtain ⟨rfl, -⟩ := List.cons.inj hsplit
      exact .inl ha
    | cons b before =>
      obtain ⟨rfl, hrest⟩ := List.cons.inj hsplit
      obtain ⟨hfirst, hbefore⟩ := List.forall_mem_cons.1 hbefore
      exact .inr ⟨hfirst, before, a, after, hrest, hbefore, ha⟩
  · rintro (hfirst | ⟨hfirst, before, a, after, rfl, hbefore, ha⟩)
    · exact ⟨[], first, rest, rfl, List.forall_mem_nil _, hfirst⟩
    · exact ⟨first :: before, a, after, rfl, List.forall_mem_cons.2 ⟨hfirst, hbefore⟩, ha⟩

/-- The loop publishes something iff it comes to a record it can read with only unknown topics before. -/
theorem publishRecords_publishes_iff (records : List (OutboxEventRecord Json)) (sink : SinkState Json)
    (n : ℕ) : sink.published.length < (publishRecords serde sink n records).1.published.length ↔
      ∃ before rec after, records = before ++ rec :: after ∧
        (∀ r ∈ before, readRecord serde r = .ok none) ∧ Deliverable serde rec := by
  induction records with
  | nil => simp [publishRecords]
  | cons first rest ih =>
    rw [exists_split_cons, Deliverable]
    cases hread : readRecord serde first with
    | error e =>
      rw [publishRecords_error serde hread]
      exact iff_of_false (lt_irrefl _) (by simp)
    | ok found =>
      cases found with
      | none =>
        rw [publishRecords_skip serde hread, ih]
        simp
      | some envelope =>
        rw [publishRecords_publish serde hread]
        refine iff_of_true ?_ (.inl ⟨envelope, rfl⟩)
        refine lt_of_lt_of_le ?_ (published_le_publishRecords serde rest _ _)
        show sink.published.length < (sink.published ++ [envelope]).length
        rw [List.length_append]
        exact Nat.lt_succ_self _

/-- **A call publishes something** exactly when, of the records it fetches, one can be read and those
before it all have an unknown topic. A malformed record before it, or unknown topics up to the limit, keep
it back; as they stay pending, they do so in every call. -/
theorem publishes_iff_unblocked (st : SinkState Json) (limit : ℕ) :
    st.published.length < (publishPendingOutboxOnce serde st limit).1.published.length ↔
      ∃ before rec after, st.repo.fetchPendingOutboxEvents limit = before ++ rec :: after ∧
        (∀ r ∈ before, readRecord serde r = .ok none) ∧ Deliverable serde rec :=
  publishRecords_publishes_iff serde _ st 0

end

/-- An outbox with a first record under a topic and a second one that can be read. -/
def behind (topic : String)
    (payloadJson : HandEvent ⊕ SeatPrivateEvent ⊕ AuditBehaviorEventKind) :
    SinkState (HandEvent ⊕ SeatPrivateEvent ⊕ AuditBehaviorEventKind) where
  repo := { outboxEvents :=
    [{ handRecord "a" 1 with topic := topic, payloadJson := payloadJson }, handRecord "b" 2] }

/-- Behind a malformed record nothing is published with a limit of fifty; behind one of an unknown topic
nothing is with the limit one. -/
theorem blocked_outbox :
    handRecord "b" 2 ∈ pendingRecords (behind "hand.events" (.inr (.inr (.seatLeft 0)))).repo.outboxEvents ∧
      Deliverable plainSerde (handRecord "b" 2) ∧
      (publishPendingOutboxOnce plainSerde (behind "hand.events" (.inr (.inr (.seatLeft 0)))) 50).1 =
        behind "hand.events" (.inr (.inr (.seatLeft 0))) ∧
      handRecord "b" 2 ∈ pendingRecords (behind "room.events" (.inr (.inr (.seatLeft 0)))).repo.outboxEvents ∧
      (publishPendingOutboxOnce plainSerde (behind "room.events" (.inr (.inr (.seatLeft 0)))) 1).1 =
        behind "room.events" (.inr (.inr (.seatLeft 0))) := by
  refine ⟨?_, ⟨_, rfl⟩, rfl, ?_, rfl⟩
  · exact List.mem_filter.2 ⟨by simp [behind], rfl⟩
  · exact List.mem_filter.2 ⟨by simp [behind], rfl⟩

end HoldemPlatform.Audit.Outbox
