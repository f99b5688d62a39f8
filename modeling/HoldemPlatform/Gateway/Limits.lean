import HoldemPlatform.Gateway.Requests
import HoldemPlatform.Lib.FiniteMap
import HoldemPlatform.Lib.Run

/-!
# The Limits of a Connection

A connection may have a number of requests under way and may make a number of requests in a window of
time. The requests under way are counted by permits, which give their place back when they are released or
dropped, once (`Accounted`). A window begins with the first request after the one before has ended; so an
interval of its length meets two windows at most, and what may still be admitted in it is bounded by a
potential that every admitted request pays for (`potential_step`).
-/

namespace HoldemPlatform.Gateway.Limits

open HoldemPlatform.Lib.FiniteMap HoldemPlatform.Lib.Run HoldemPlatform.Gateway.Requests

/-! ### Requests under way -/

structure ConnectionConcurrencyLimiter where
  perConnectionLimit : ℕ
  counts : HashMap String ℕ := ∅

structure ConnectionConcurrencyPermit where
  connectionId : String
  released : Bool := false
deriving DecidableEq

namespace ConnectionConcurrencyLimiter

def new (perConnectionLimit : ℕ) : ConnectionConcurrencyLimiter where
  perConnectionLimit := max perConnectionLimit 1

variable (limiter : ConnectionConcurrencyLimiter) (connectionId : String)

def tryAcquire :
    ConnectionConcurrencyLimiter × Except RpcGatewayError ConnectionConcurrencyPermit :=
  let counts := match limiter.counts.lookup connectionId with
    | some _ => limiter.counts
    | none => limiter.counts.insert connectionId 0
  let count := (counts.lookup connectionId).getD 0
  if limiter.perConnectionLimit ≤ count then
    ({ limiter with counts }, .error .tooManyConcurrentRequests)
  else ({ limiter with counts := counts.insert connectionId (count + 1) }, .ok { connectionId })

def activeFor : ℕ := (limiter.counts.lookup connectionId).getD 0

def release : ConnectionConcurrencyLimiter :=
  match limiter.counts.lookup connectionId with
  | none => limiter
  | some count =>
    if count - 1 = 0 then { limiter with counts := limiter.counts.erase connectionId }
    else { limiter with counts := limiter.counts.insert connectionId (count - 1) }

end ConnectionConcurrencyLimiter

/-- The body of both `release` and `drop`. -/
def ConnectionConcurrencyPermit.giveBack (permit : ConnectionConcurrencyPermit)
    (limiter : ConnectionConcurrencyLimiter) :
    ConnectionConcurrencyLimiter × ConnectionConcurrencyPermit :=
  if permit.released then (limiter, permit)
  else (limiter.release permit.connectionId, { permit with released := true })

def ConnectionConcurrencyPermit.drop := ConnectionConcurrencyPermit.giveBack

/-- `release` takes the permit, so that it is dropped at its end. -/
def ConnectionConcurrencyPermit.release (permit : ConnectionConcurrencyPermit)
    (limiter : ConnectionConcurrencyLimiter) :
    ConnectionConcurrencyLimiter × ConnectionConcurrencyPermit :=
  let (limiter, permit) := permit.giveBack limiter
  permit.drop limiter

/-- The limiter and the permits it has given out. -/
structure PermitState where
  limiter : ConnectionConcurrencyLimiter
  permits : List ConnectionConcurrencyPermit := []

inductive PermitOp where
  | tryAcquire (connectionId : String)
  | release (i : ℕ)
  | drop (i : ℕ)

def permitStep (st : PermitState) : PermitOp → PermitState
  | .tryAcquire connectionId =>
    match st.limiter.tryAcquire connectionId with
    | (limiter, .ok permit) => { limiter, permits := st.permits ++ [permit] }
    | (limiter, .error _) => { st with limiter }
  | .release i =>
    match st.permits[i]? with
    | none => st
    | some permit =>
      { limiter := (permit.release st.limiter).1, permits := st.permits.set i (permit.release st.limiter).2 }
  | .drop i =>
    match st.permits[i]? with
    | none => st
    | some permit =>
      { limiter := (permit.drop st.limiter).1, permits := st.permits.set i (permit.drop st.limiter).2 }

def isLive (connectionId : String) (permit : ConnectionConcurrencyPermit) : Bool :=
  permit.connectionId = connectionId ∧ permit.released = false

def livePermits (permits : List ConnectionConcurrencyPermit) (connectionId : String) : ℕ :=
  permits.countP (isLive connectionId)

/-- Every connection with live permits has their number on record, the others have no record. -/
structure Accounted (limit : ℕ) (st : PermitState) : Prop where
  positive : 0 < limit
  limiter : st.limiter.perConnectionLimit = limit
  stored : ∀ connectionId, st.limiter.counts.lookup connectionId =
    if livePermits st.permits connectionId = 0 then none
    else some (livePermits st.permits connectionId)
  bounded : ∀ connectionId, livePermits st.permits connectionId ≤ limit

theorem release_eq_drop (permit : ConnectionConcurrencyPermit) (limiter : ConnectionConcurrencyLimiter) :
    permit.release limiter = permit.drop limiter := by
  show (permit.giveBack limiter).2.giveBack (permit.giveBack limiter).1 = permit.giveBack limiter
  cases hreleased : permit.released with
  | true => simp [ConnectionConcurrencyPermit.giveBack, hreleased]
  | false => simp [ConnectionConcurrencyPermit.giveBack, hreleased]

theorem limit_release (limiter : ConnectionConcurrencyLimiter) (connectionId : String) :
    (limiter.release connectionId).perConnectionLimit = limiter.perConnectionLimit := by
  unfold ConnectionConcurrencyLimiter.release
  cases limiter.counts.lookup connectionId with
  | none => rfl
  | some count =>
    simp only
    split_ifs <;> rfl

/-! Live permits, as they are given out and given back. -/

theorem isLive_iff {connectionId : String} {permit : ConnectionConcurrencyPermit}
    (hreleased : permit.released = false) :
    isLive connectionId permit = decide (connectionId = permit.connectionId) := by
  simp only [isLive, hreleased, and_true, eq_comm (a := connectionId)]

theorem livePermits_concat (permits : List ConnectionConcurrencyPermit) (connectionId other : String) :
    livePermits (permits ++ [⟨connectionId, false⟩]) other =
      livePermits permits other + if other = connectionId then 1 else 0 := by
  rw [livePermits, List.countP_append, List.countP_singleton, ← livePermits, isLive_iff rfl]
  simp only [decide_eq_true_eq]

theorem livePermits_set {permits : List ConnectionConcurrencyPermit} {i : ℕ}
    {permit : ConnectionConcurrencyPermit} (hi : permits[i]? = some permit)
    (hreleased : permit.released = false) (other : String) :
    livePermits (permits.set i { permit with released := true }) other =
      livePermits permits other - if other = permit.connectionId then 1 else 0 := by
  obtain ⟨hlt, hget⟩ := List.getElem?_eq_some_iff.1 hi
  have hnot : isLive other { permit with released := true } = false := by simp [isLive]
  rw [livePermits, List.countP_set hlt, hget, hnot, isLive_iff hreleased, ← livePermits]
  simp

theorem livePermits_pos {permits : List ConnectionConcurrencyPermit} {i : ℕ}
    {permit : ConnectionConcurrencyPermit} (hi : permits[i]? = some permit)
    (hreleased : permit.released = false) : 0 < livePermits permits permit.connectionId :=
  List.countP_pos_iff.2 ⟨permit, List.mem_of_getElem? hi, by rw [isLive_iff hreleased]; simp⟩

namespace Accounted

variable {limit : ℕ} {st : PermitState} (h : Accounted limit st)
include h

theorem activeFor (connectionId : String) :
    st.limiter.activeFor connectionId = livePermits st.permits connectionId := by
  rw [ConnectionConcurrencyLimiter.activeFor, h.stored]
  split_ifs with hzero
  · exact hzero.symm
  · rfl

theorem tryAcquire_refused {connectionId : String}
    (hfull : livePermits st.permits connectionId = limit) :
    st.limiter.tryAcquire connectionId = (st.limiter, .error .tooManyConcurrentRequests) := by
  have hpositive := h.positive
  have hlookup := h.stored connectionId
  rw [if_neg (by omega)] at hlookup
  simp only [ConnectionConcurrencyLimiter.tryAcquire, hlookup, Option.getD_some]
  rw [if_pos (by rw [h.limiter]; omega)]

theorem tryAcquire_granted {connectionId : String}
    (hroom : livePermits st.permits connectionId < limit) :
    ∃ counts, st.limiter.tryAcquire connectionId = ({ st.limiter with counts }, .ok { connectionId }) ∧
      counts.lookup connectionId = some (livePermits st.permits connectionId + 1) ∧
      ∀ other, other ≠ connectionId → counts.lookup other = st.limiter.counts.lookup other := by
  have hpositive := h.positive
  have hlookup := h.stored connectionId
  split_ifs at hlookup with hzero
  · refine ⟨(st.limiter.counts.insert connectionId 0).insert connectionId 1, ?_, ?_, fun other hne => ?_⟩
    · simp only [ConnectionConcurrencyLimiter.tryAcquire, hlookup, AList.lookup_insert, Option.getD_some]
      rw [if_neg (by rw [h.limiter]; omega)]
    · rw [AList.lookup_insert, hzero]
    · rw [AList.lookup_insert_ne hne, AList.lookup_insert_ne hne]
  · refine ⟨st.limiter.counts.insert connectionId (livePermits st.permits connectionId + 1), ?_, ?_,
      fun other hne => ?_⟩
    · simp only [ConnectionConcurrencyLimiter.tryAcquire, hlookup, Option.getD_some]
      rw [if_neg (by rw [h.limiter]; omega)]
    · exact AList.lookup_insert _
    · exact AList.lookup_insert_ne hne

theorem lookup_release {connectionId : String} {n : ℕ}
    (hlive : livePermits st.permits connectionId = n + 1) :
    (st.limiter.release connectionId).counts.lookup connectionId = (if n = 0 then none else some n) ∧
      ∀ other, other ≠ connectionId → (st.limiter.release connectionId).counts.lookup other =
        st.limiter.counts.lookup other := by
  have hlookup := h.stored connectionId
  rw [hlive, if_neg (Nat.succ_ne_zero n)] at hlookup
  simp only [ConnectionConcurrencyLimiter.release, hlookup, Nat.add_sub_cancel]
  split_ifs with hzero
  · exact ⟨AList.lookup_erase _ _, fun other hne => AList.lookup_erase_ne hne⟩
  · exact ⟨AList.lookup_insert _, fun other hne => AList.lookup_insert_ne hne⟩

theorem tryAcquire (connectionId : String) : Accounted limit (permitStep st (.tryAcquire connectionId)) := by
  rcases (h.bounded connectionId).eq_or_lt with hfull | hroom
  · simp only [permitStep, h.tryAcquire_refused hfull]
    exact h
  · obtain ⟨counts, hacquire, hself, hother⟩ := h.tryAcquire_granted hroom
    simp only [permitStep, hacquire]
    have hlive := livePermits_concat st.permits connectionId
    refine ⟨h.positive, h.limiter, fun other => ?_, fun other => ?_⟩
    · show counts.lookup other = _
      rw [hlive]
      by_cases hne : other = connectionId
      · rw [hne, hself, if_pos rfl, if_neg (Nat.succ_ne_zero _)]
      · rw [hother other hne, h.stored, if_neg hne, Nat.add_zero]
    · rw [hlive]
      have hbounded := h.bounded other
      split_ifs with heq
      · rw [heq]
        exact hroom
      · exact hbounded

theorem giveBack {i : ℕ} {permit : ConnectionConcurrencyPermit} (hi : st.permits[i]? = some permit) :
    Accounted limit ⟨(permit.giveBack st.limiter).1, st.permits.set i (permit.giveBack st.limiter).2⟩ := by
  obtain ⟨hlt, hget⟩ := List.getElem?_eq_some_iff.1 hi
  unfold ConnectionConcurrencyPermit.giveBack
  split_ifs with hreleased
  · have hsame : st.permits.set i permit = st.permits := by rw [← hget, List.set_getElem_self]
    rw [hsame]
    exact h
  · have hunreleased : permit.released = false := by simpa using hreleased
    obtain ⟨n, hn⟩ := Nat.exists_eq_add_one.2 (livePermits_pos hi hunreleased)
    have hlive := livePermits_set hi hunreleased
    obtain ⟨hself, hother⟩ := h.lookup_release hn
    refine ⟨h.positive, (limit_release ..).trans h.limiter, fun other => ?_, fun other => ?_⟩
    · show (st.limiter.release permit.connectionId).counts.lookup other = _
      rw [hlive]
      by_cases heq : other = permit.connectionId
      · rw [heq, hself, hn, if_pos rfl, Nat.add_sub_cancel]
      · rw [hother other heq, h.stored, if_neg heq, Nat.sub_zero]
    · rw [hlive]
      exact (Nat.sub_le _ _).trans (h.bounded other)

end Accounted

theorem accounted_step {limit : ℕ} {st : PermitState} (h : Accounted limit st) (op : PermitOp) :
    Accounted limit (permitStep st op) := by
  cases op with
  | tryAcquire connectionId => exact h.tryAcquire connectionId
  | release i =>
    simp only [permitStep, release_eq_drop]
    cases hi : st.permits[i]? with
    | none => exact h
    | some permit => exact h.giveBack hi
  | drop i =>
    simp only [permitStep]
    cases hi : st.permits[i]? with
    | none => exact h
    | some permit => exact h.giveBack hi

theorem accounted_run (limit : ℕ) (ops : List PermitOp) :
    Accounted (max limit 1) (run permitStep ⟨.new limit, []⟩ ops) := by
  refine run_inv (Accounted (max limit 1)) (fun _ op h => accounted_step h op) ops
    ⟨?_, rfl, fun _ => rfl, fun _ => ?_⟩
  · exact lt_max_of_lt_right Nat.zero_lt_one
  · exact Nat.zero_le _

/-! ### Requests in a window -/

/-- Times and the window are in nanoseconds. A connection is stored with the beginning of its window and
the requests in it. -/
structure ConnectionRateLimiter where
  maxRequestsPerWindow : ℕ
  window : ℕ
  state : HashMap String (ℕ × ℕ) := ∅

namespace ConnectionRateLimiter

def new (maxRequestsPerWindow window : ℕ) : ConnectionRateLimiter where
  maxRequestsPerWindow := max maxRequestsPerWindow 1
  window := if window = 0 then 1000000000 else window

variable (limiter : ConnectionRateLimiter)

/-- The entry of a connection after a request, and whether the request is admitted. -/
def recordEntry (now : ℕ) (stored : Option (ℕ × ℕ)) : (ℕ × ℕ) × Bool :=
  let entry := stored.getD (now, 0)
  let entry := if limiter.window ≤ now - entry.1 then (now, 0) else entry
  if limiter.maxRequestsPerWindow ≤ entry.2 then (entry, false)
  else ((entry.1, entry.2 + 1), true)

def checkAndRecord (now : ℕ) (connectionId : String) :
    ConnectionRateLimiter × Except RpcGatewayError Unit :=
  let (entry, admitted) := limiter.recordEntry now (limiter.state.lookup connectionId)
  ({ limiter with state := limiter.state.insert connectionId entry },
    if admitted then .ok () else .error .tooManyRequests)

end ConnectionRateLimiter

/-- The calls that are admitted, with their times and connections. -/
def admittedCalls : ConnectionRateLimiter → List (ℕ × String) → List (ℕ × String)
  | _, [] => []
  | limiter, (now, connectionId) :: calls =>
    let (limiter, result) := limiter.checkAndRecord now connectionId
    match result with
    | .ok () => (now, connectionId) :: admittedCalls limiter calls
    | .error _ => admittedCalls limiter calls

/-- How many requests of a connection can still be admitted in the interval of the length of the window
that begins at `t`: in a window that began in it, what is left of it; in one that began before and reaches
into it, one more window; and two windows otherwise. -/
def potential (limiter : ConnectionRateLimiter) (t : ℕ) : Option (ℕ × ℕ) → ℕ
  | none => 2 * limiter.maxRequestsPerWindow
  | some (start, count) =>
    if t + limiter.window ≤ start then 0
    else if t < start then limiter.maxRequestsPerWindow - count
    else if t < start + limiter.window then
      (limiter.maxRequestsPerWindow - count) + limiter.maxRequestsPerWindow
    else 2 * limiter.maxRequestsPerWindow

theorem potential_le (limiter : ConnectionRateLimiter) (t : ℕ) (stored : Option (ℕ × ℕ)) :
    potential limiter t stored ≤ 2 * limiter.maxRequestsPerWindow := by
  unfold potential
  cases stored with
  | none => exact le_rfl
  | some entry =>
    simp only
    split_ifs <;> omega

/-- The window of the connection has not ended. -/
def InWindow (limiter : ConnectionRateLimiter) (now : ℕ) (stored : Option (ℕ × ℕ)) : Prop :=
  ∃ entry ∈ stored, now - entry.1 < limiter.window

theorem recordEntry_inWindow {limiter : ConnectionRateLimiter} {now start count : ℕ}
    (hwindow : now - start < limiter.window) :
    limiter.recordEntry now (some (start, count)) =
      if limiter.maxRequestsPerWindow ≤ count then ((start, count), false)
      else ((start, count + 1), true) := by
  simp only [ConnectionRateLimiter.recordEntry, Option.getD_some]
  rw [if_neg (Nat.not_le.2 hwindow)]

theorem recordEntry_newWindow {limiter : ConnectionRateLimiter} {now : ℕ} {stored : Option (ℕ × ℕ)}
    (hnew : ¬ InWindow limiter now stored) :
    limiter.recordEntry now stored =
      if limiter.maxRequestsPerWindow = 0 then ((now, 0), false) else ((now, 1), true) := by
  have hentry : (if limiter.window ≤ now - (stored.getD (now, 0)).1 then (now, 0)
      else stored.getD (now, 0)) = (now, 0) := by
    cases stored with
    | none => exact ite_self _
    | some entry => exact if_pos (Nat.not_lt.1 fun hlt => hnew ⟨entry, rfl, hlt⟩)
  simp only [ConnectionRateLimiter.recordEntry, hentry, Nat.le_zero, Nat.zero_add]

/-- **An admitted request in the interval is paid for by the potential.** -/
theorem potential_step (limiter : ConnectionRateLimiter) (t now : ℕ) (stored : Option (ℕ × ℕ))
    (hnow : ∀ entry ∈ stored, entry.1 ≤ now) :
    potential limiter t (some (limiter.recordEntry now stored).1) +
        (if (limiter.recordEntry now stored).2 = true ∧ t ≤ now ∧ now < t + limiter.window then 1 else 0) ≤
      potential limiter t stored := by
  by_cases hwindow : InWindow limiter now stored
  · -- the request uses up one place of the window, if there is one left
    obtain ⟨⟨start, count⟩, rfl, hlt⟩ := hwindow
    have hstart : start ≤ now := hnow _ rfl
    rw [recordEntry_inWindow hlt]
    by_cases hfull : limiter.maxRequestsPerWindow ≤ count
    · rw [if_pos hfull, if_neg fun hadmitted => Bool.false_ne_true hadmitted.1]
      exact le_rfl
    · rw [if_neg hfull]
      simp only [potential, true_and]
      split_ifs <;> omega
  · rw [recordEntry_newWindow hwindow]
    by_cases hzero : limiter.maxRequestsPerWindow = 0
    · rw [if_pos hzero, if_neg fun hadmitted => Bool.false_ne_true hadmitted.1]
      have hle := potential_le limiter t (some (now, 0))
      rw [hzero] at hle
      exact hle.trans (Nat.zero_le _)
    · rw [if_neg hzero]
      cases stored with
      | none =>
        simp only [potential, true_and]
        split_ifs <;> omega
      | some entry =>
        -- a window that began in the interval reaches beyond it
        have hended : limiter.window ≤ now - entry.1 :=
          Nat.not_lt.1 fun hlt => hwindow ⟨entry, rfl, hlt⟩
        have hstart : entry.1 ≤ now := hnow _ rfl
        simp only [potential, true_and]
        split_ifs <;> omega

def recorded (limiter : ConnectionRateLimiter) (now : ℕ) (connectionId : String) :
    ConnectionRateLimiter :=
  (limiter.checkAndRecord now connectionId).1

theorem admittedCalls_cons (limiter : ConnectionRateLimiter) (now : ℕ) (connectionId : String)
    (calls : List (ℕ × String)) :
    admittedCalls limiter ((now, connectionId) :: calls) =
      if (limiter.recordEntry now (limiter.state.lookup connectionId)).2 then
        (now, connectionId) :: admittedCalls (recorded limiter now connectionId) calls
      else admittedCalls (recorded limiter now connectionId) calls := by
  simp only [admittedCalls, ConnectionRateLimiter.checkAndRecord, recorded]
  cases (limiter.recordEntry now (limiter.state.lookup connectionId)).2 <;> rfl

theorem potential_recorded (limiter : ConnectionRateLimiter) (now : ℕ) (connectionId : String) (t : ℕ) :
    potential (recorded limiter now connectionId) t = potential limiter t := by
  funext stored
  cases stored <;> rfl

theorem recordEntry_start_le {limiter : ConnectionRateLimiter} {now : ℕ} {stored : Option (ℕ × ℕ)}
    (hnow : ∀ entry ∈ stored, entry.1 ≤ now) : (limiter.recordEntry now stored).1.1 ≤ now := by
  by_cases hwindow : InWindow limiter now stored
  · obtain ⟨⟨start, count⟩, rfl, hlt⟩ := hwindow
    have hstart : start ≤ now := hnow (start, count) rfl
    rw [recordEntry_inWindow hlt]
    split_ifs <;> exact hstart
  · rw [recordEntry_newWindow hwindow]
    split_ifs <;> exact le_rfl

/-- **The admitted requests of an interval**: there are no more of them than the potential allows. -/
theorem countP_admittedCalls_le (t : ℕ) (connectionId : String) {calls : List (ℕ × String)}
    {limiter : ConnectionRateLimiter} (hsorted : calls.Pairwise fun a b => a.1 ≤ b.1)
    (hlater : ∀ entry ∈ limiter.state.lookup connectionId, ∀ call ∈ calls, entry.1 ≤ call.1) :
    (admittedCalls limiter calls).countP
        (fun call => call.2 = connectionId ∧ t ≤ call.1 ∧ call.1 < t + limiter.window) ≤
      potential limiter t (limiter.state.lookup connectionId) := by
  induction calls generalizing limiter with
  | nil => exact Nat.zero_le _
  | cons call calls ih =>
    obtain ⟨now, other⟩ := call
    obtain ⟨hfirst, hsorted⟩ := List.pairwise_cons.1 hsorted
    have hnow : ∀ entry ∈ limiter.state.lookup connectionId, entry.1 ≤ now :=
      fun entry hentry => hlater entry hentry _ List.mem_cons_self
    rw [admittedCalls_cons]
    by_cases hsame : other = connectionId
    · subst hsame
      have hlookup : (recorded limiter now other).state.lookup other =
          some (limiter.recordEntry now (limiter.state.lookup other)).1 := AList.lookup_insert _
      have hrest := @ih (recorded limiter now other) hsorted (by
        intro entry hentry call hcall
        rw [hlookup] at hentry
        cases hentry
        exact (recordEntry_start_le hnow).trans (hfirst call hcall))
      rw [hlookup, potential_recorded] at hrest
      have hstep := potential_step limiter t now (limiter.state.lookup other) hnow
      cases hadmitted : (limiter.recordEntry now (limiter.state.lookup other)).2 with
      | false => exact hrest.trans ((Nat.le_add_right _ _).trans hstep)
      | true =>
        rw [if_pos rfl, List.countP_cons]
        refine (Nat.add_le_add hrest (le_of_eq ?_)).trans hstep
        simp [hadmitted]
    · have hlookup : (recorded limiter now other).state.lookup connectionId =
          limiter.state.lookup connectionId := AList.lookup_insert_ne (Ne.symm hsame)
      have hrest := @ih (recorded limiter now other) hsorted (by
        intro entry hentry call hcall
        rw [hlookup] at hentry
        exact hlater entry hentry call (List.mem_cons_of_mem _ hcall))
      rw [hlookup, potential_recorded] at hrest
      split_ifs
      · rw [List.countP_cons, if_neg (by simp [hsame])]
        exact hrest
      · exact hrest

/-- **The limits of a connection hold.** After any acquiring, releasing and dropping of permits, the count
on record is the number of live permits and within the limit, and the next request is refused exactly if
the limit is reached. Of requests at times that do not decrease, no half-open interval of the length of the
window has more than two windows' worth admitted. -/
theorem connection_limits_hold (limit : ℕ) (ops : List PermitOp) (m w : ℕ) (calls : List (ℕ × String)) :
    (∀ connectionId,
      let st := run permitStep ⟨.new limit, []⟩ ops
      st.limiter.activeFor connectionId = livePermits st.permits connectionId ∧
        livePermits st.permits connectionId ≤ max limit 1 ∧
        ((st.limiter.tryAcquire connectionId).2 = .error .tooManyConcurrentRequests ↔
          livePermits st.permits connectionId = max limit 1)) ∧
    (calls.Pairwise (fun a b => a.1 ≤ b.1) → ∀ connectionId t,
      (admittedCalls { maxRequestsPerWindow := m, window := w } calls).countP
          (fun call => call.2 = connectionId ∧ t ≤ call.1 ∧ call.1 < t + w) ≤ 2 * m ∧
        (admittedCalls { maxRequestsPerWindow := m, window := w } calls).countP
          (fun call => call.2 = connectionId ∧ t < call.1 ∧ call.1 ≤ t + w) ≤ 2 * m) := by
  constructor
  · intro connectionId st
    have h : Accounted (max limit 1) st := accounted_run limit ops
    refine ⟨h.activeFor connectionId, h.bounded connectionId, fun hrefused => ?_, fun hfull => ?_⟩
    · by_contra hne
      have hroom := lt_of_le_of_ne (h.bounded connectionId) hne
      obtain ⟨counts, hgranted, -⟩ := h.tryAcquire_granted hroom
      rw [hgranted] at hrefused
      cases hrefused
    · rw [h.tryAcquire_refused hfull]
  · intro hsorted connectionId t
    have hbound : ∀ t, (admittedCalls { maxRequestsPerWindow := m, window := w } calls).countP
        (fun call => call.2 = connectionId ∧ t ≤ call.1 ∧ call.1 < t + w) ≤ 2 * m := by
      intro t
      exact @countP_admittedCalls_le t connectionId calls { maxRequestsPerWindow := m, window := w }
        hsorted fun entry hentry => by cases hentry
    refine ⟨hbound t, ?_⟩
    -- times are whole numbers, so the interval begins and ends one later
    have hshift : (fun call : ℕ × String => decide (call.2 = connectionId ∧ t < call.1 ∧ call.1 ≤ t + w)) =
        fun call => decide (call.2 = connectionId ∧ t + 1 ≤ call.1 ∧ call.1 < t + 1 + w) := by
      funext call
      exact decide_eq_decide.2 (and_congr_right fun _ => by omega)
    rw [hshift]
    exact hbound (t + 1)

/-- Two permits of one connection, the second refused, and the first released and dropped. -/
def onePermit : List PermitOp :=
  [.tryAcquire "a", .tryAcquire "a", .release 0, .drop 0, .tryAcquire "a"]

def fiveCalls : List (ℕ × String) := [(0, "a"), (5, "a"), (9, "a"), (10, "a"), (12, "a")]

theorem fiveCalls_within_limits :
    (run permitStep ⟨.new 1, []⟩ onePermit).permits = [⟨"a", true⟩, ⟨"a", false⟩] ∧
      admittedCalls { maxRequestsPerWindow := 2, window := 10 } fiveCalls =
        [(0, "a"), (5, "a"), (10, "a"), (12, "a")] ∧
      (run permitStep ⟨.new 1, []⟩ onePermit).limiter.activeFor "a" = 1 ∧
      (admittedCalls { maxRequestsPerWindow := 2, window := 10 } fiveCalls).countP
        (fun call => call.2 = "a" ∧ 5 ≤ call.1 ∧ call.1 < 5 + 10) ≤ 2 * 2 := by
  have hlimits := connection_limits_hold 1 onePermit 2 10 fiveCalls
  refine ⟨by decide +kernel, by decide +kernel, ?_, (hlimits.2 (by decide) "a" 5).1⟩
  have hlive : livePermits (run permitStep ⟨.new 1, []⟩ onePermit).permits "a" = 1 := by decide +kernel
  exact (hlimits.1 "a").1.trans hlive

end HoldemPlatform.Gateway.Limits
