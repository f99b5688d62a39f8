import HoldemPlatform.Room.ActionBinding

/-!
# The Event Log of a Room

The hand events a room emits are numbered from one without gaps, and the closing of a hand is its
last event. Events come from many commands: the start of a hand, accepted actions, reminders, folds
made by the clock, aborted and settled hands. With nobody to act a room emits nothing unless it starts
or closes a hand (`silent_of_noTurn`), and a hand that was closed has nobody to act; so only a new hand
with the identifier of an old one could go on after a closing.
-/

namespace HoldemPlatform.Room.EventLog

open HoldemPlatform.Lib.Run HoldemPlatform.Domain.Game
open HoldemPlatform.Engine.State HoldemPlatform.Engine.Deal HoldemPlatform.Engine.Action
open HoldemPlatform.Engine.Round HoldemPlatform.Engine.Run
open HoldemPlatform.Room.Actor HoldemPlatform.Room.Effect HoldemPlatform.Room.HandLog
open HoldemPlatform.Room.Alternation HoldemPlatform.Room.ActionBinding

variable {Card : Type}

def closingsOf (handId : HandId) (log : List HandEvent) : List HandEvent :=
  (closings log).filter fun e => e.handId = handId

/-- No event of a hand follows its closing. -/
def ClosedLast (log : List HandEvent) : Prop :=
  ∀ before c after, log = before ++ c :: after → c.kind = .handClosed →
    ∀ e ∈ after, e.handId ≠ c.handId

/-- The events are numbered from one, and every hand has at most one closing and ends with it. -/
structure WellFormed (log : List HandEvent) : Prop where
  numbered : log.map HandEvent.eventSeq = List.range' 1 log.length
  closedOnce : ∀ handId, (closingsOf handId log).length ≤ 1
  closedLast : ClosedLast log

/-- The identifier of the hand a command starts. -/
def dealtHandId [RsPoker Card] (st : RoomState Card) (input : RoomInput Card) : List HandId :=
  match input.2 with
  | .ready seatId => if StartsHand input.1 st seatId then [input.1.newHandId] else []
  | _ => []

def dealtHandIds [RsPoker Card] (config : RoomActorConfig) :
    RoomState Card → List (RoomInput Card) → List HandId
  | _, [] => []
  | st, input :: rest =>
    dealtHandId st input ++ dealtHandIds config (roomRunStep config st input) rest

/-- The hand was dealt and has not been closed. -/
def HandOpen (snapshot : HandSnapshot) : Prop :=
  snapshot.status = .running ∨ snapshot.status = .showdown ∨ snapshot.status = .settling

/-- The `k`-th event has the number `k`, counted from one, and the next number is the one after the
last; numbers saturate. -/
structure Stamped (log : List HandEvent) (next : ℕ) : Prop where
  next_eq : next = saturatingAdd 32 log.length 1
  eventSeq : ∀ (k : ℕ) (e : HandEvent), log[k]? = some e → e.eventSeq = saturatingAdd 32 k 1

/-! ### The numbers -/

theorem Stamped.concat {log : List HandEvent} {next : ℕ} (h : Stamped log next) {e : HandEvent}
    (he : e.eventSeq = next) : Stamped (log ++ [e]) (saturatingAdd 32 next 1) := by
  constructor
  · rw [h.next_eq, List.length_append, List.length_singleton]
    exact saturatingAdd_saturatingAdd _
  · intro k e' hk
    rw [List.getElem?_append] at hk
    split_ifs at hk with hlt
    · exact h.eventSeq k e' hk
    · rw [List.getElem?_singleton] at hk
      split_ifs at hk with hzero
      obtain rfl := Option.some.inj hk
      rw [he, h.next_eq, show k = log.length by omega]

/-- The events of the room so far are numbered. -/
def StampedRoom (st : RoomState Card) : Prop := Stamped st.sink.handEvents st.nextHandEventSeq

theorem stamped_append (st : RoomState Card) (h : StampedRoom st) (kinds : List HandEventKind) :
    StampedRoom (appendHandEvents st kinds) := by
  induction kinds generalizing st with
  | nil => exact h
  | cons kind kinds ih => exact ih (appendHandEvent st kind) (h.concat rfl)

theorem stamped_emit (st : RoomState Card) (h : StampedRoom st) (action : PlayerAction)
    (result : EngineActionResult) : StampedRoom (emitPostActionHandEvents st action result) := by
  have happend := stamped_append st h (emittedKinds st.state action result)
  unfold emitPostActionHandEvents
  dsimp only
  split_ifs
  · exact happend
  · exact happend

theorem stamped_close (st : RoomState Card) (h : StampedRoom st) (status : HandStatus) :
    StampedRoom (closeRoomHand st status) :=
  stamped_append { st with state := endHand st.state status } h [.handClosed]

/-- Without saturation the numbers are `1, 2, 3, …`. -/
theorem Stamped.numbered {log : List HandEvent} {next : ℕ} (h : Stamped log next)
    (hshort : log.length < 2 ^ 32 - 1) :
    log.map HandEvent.eventSeq = List.range' 1 log.length := by
  refine List.ext_getElem (by simp) fun k hk _ => ?_
  rw [List.length_map] at hk
  have hseq := h.eventSeq k log[k] (List.getElem?_eq_getElem hk)
  rw [saturatingAdd_of_lt (by omega)] at hseq
  rw [List.getElem_map, List.getElem_range', hseq]
  omega

section

variable [RsPoker Card] {env : RoomEnv Card} {st : RoomState Card}

theorem stamped_apply (st : RoomState Card) (h : StampedRoom st) (action : PlayerAction) :
    StampedRoom (applyAndEmit st action).1 := by
  unfold applyAndEmit
  split
  · exact h
  · rename_i state result _
    exact stamped_emit (upsertHandSnapshot { st with state }) h action result

theorem stamped_autoFold (h : StampedRoom st) (seatId : SeatId) :
    StampedRoom (autoFold st seatId) := by
  have happly := stamped_apply st h (autoFoldAction st seatId)
  unfold autoFold
  dsimp only
  generalize applyAndEmit st (autoFoldAction st seatId) = r at happly
  obtain ⟨st', _ | _⟩ := r
  · exact happly
  · exact happly

theorem stamped_clock {cmd : RoomCommand} {st' : RoomState Card} (h : StampedRoom st)
    (hclock : ClockResult env st cmd st') : StampedRoom st' := by
  cases hclock with
  | waits => exact h
  | reminds turnScheduler seatId => exact stamped_append { st with turnScheduler } h _
  | folds seatId => exact stamped_autoFold h seatId

theorem stamped_markReady (h : StampedRoom st) (seatId : SeatId) :
    StampedRoom (markReady env st seatId) := by
  unfold markReady
  split_ifs
  swap
  · exact h
  dsimp only
  split_ifs
  swap
  · exact h
  split
  · exact h
  · refine stamped_append _ ?_ _
    exact h

theorem stamped_chainTxVerified (h : StampedRoom st) (callback : ChainTxVerifiedCallback) :
    StampedRoom (chainTxVerified st callback) := by
  have hmatched : StampedRoom (applyMatched st callback) := by
    unfold applyMatched
    split_ifs
    · split
      · exact h
      · refine stamped_apply _ ?_ _
        exact h
    · exact h
  show StampedRoom (abortOnFailure (applyMatched st callback) callback)
  unfold abortOnFailure
  split_ifs
  · exact stamped_close _ hmatched .aborted
  · exact hmatched

/-- **Every command numbers its events on from the last one.** -/
theorem stamped_step (config : RoomActorConfig) (cmd : RoomCommand) (h : StampedRoom st) :
    StampedRoom (roomStep config env st cmd).1 := by
  cases cmd with
  | join seatId => exact h
  | leave seatId => exact h
  | bindAddress seatId address =>
    show StampedRoom (bindAddress st seatId address)
    unfold bindAddress
    split_ifs <;> exact h
  | bindSessionKeys seatId card request algo proof =>
    show StampedRoom (bindSessionKeys st seatId card request algo)
    unfold bindSessionKeys
    split_ifs <;> exact h
  | ready seatId => exact stamped_markReady h seatId
  | getState => exact h
  | getEngineState => exact h
  | getLegalActions seatId => exact h
  | getPrivateEvents seatId handId => exact h
  | act action => exact stamped_apply st h action
  | queuePendingChainAction txHash action => exact h
  | chainTxVerified callback => exact stamped_chainTxVerified h callback
  | completeSettlement handId =>
    show StampedRoom (completeSettlement st handId)
    unfold completeSettlement
    split_ifs
    · exact stamped_close st h .settled
    · exact h
  | turnTimeoutElapsed generation =>
    have hclock : ClockResult env st (.turnTimeoutElapsed generation) _ :=
      turnTimeoutElapsed_clock generation
    exact stamped_clock h hclock
  | turnReminderElapsed generation =>
    have hclock : ClockResult env st (.turnReminderElapsed generation) _ :=
      turnReminderElapsed_clock generation
    exact stamped_clock h hclock
  | schedulerTick =>
    have hclock : ClockResult env st .schedulerTick _ := tickTurn_clock
    exact stamped_clock h hclock

/-! ### Silence -/

theorem apply_silent (hinv : EngineInv st.state) (st₀ : RoomState Card)
    (hstate : st₀.state = st.state) (hnone : st.state.snapshot.actingSeatId = none)
    (action : PlayerAction) :
    (applyAndEmit st₀ action).1.sink.handEvents = st₀.sink.handEvents := by
  have hno : ¬ Acceptable st₀.state action := by
    intro hok
    have hturn := hok.turn
    rw [hstate, hnone] at hturn
    cases hturn
  have hpot := hinv.pot
  rw [← hstate] at hpot
  rw [applyAndEmit]
  rcases applyAction_refused hpot hno with ⟨-, e, happ⟩ | ⟨-, e, happ⟩
  · rw [happ]
  · rw [happ]

/-- With nobody to act the clock does nothing but forget the turn it counted. -/
theorem clock_silent (env : RoomEnv Card) (hnone : st.state.snapshot.actingSeatId = none)
    (generation : ℕ) :
    turnTimeoutElapsed st generation = st ∧ turnReminderElapsed st generation = st ∧
      tickTurn env st = clearScheduler st := by
  refine ⟨?_, ?_, ?_⟩
  · rw [turnTimeoutElapsed, hnone, ite_self]
  · rw [turnReminderElapsed, hnone, ite_self]
  · rw [tickTurn, hnone]

/-- **With nobody to act a room emits nothing**, unless it starts a hand or closes one. -/
theorem silent_of_noTurn (config : RoomActorConfig) (hinv : EngineInv st.state)
    (hnone : st.state.snapshot.actingSeatId = none) (cmd : RoomCommand) :
    (roomStep config env st cmd).1.sink.handEvents = st.sink.handEvents ∨
      (∃ seatId, cmd = .ready seatId ∧ StartsHand env st seatId) ∨ HandOpen st.state.snapshot := by
  cases cmd with
  | join seatId => exact .inl rfl
  | leave seatId => exact .inl rfl
  | bindAddress seatId address =>
    refine .inl (?_ : (bindAddress st seatId address).sink.handEvents = _)
    unfold bindAddress
    split_ifs <;> rfl
  | bindSessionKeys seatId card request algo proof =>
    refine .inl (?_ : (bindSessionKeys st seatId card request algo).sink.handEvents = _)
    unfold bindSessionKeys
    split_ifs <;> rfl
  | ready seatId =>
    by_cases hstarts : StartsHand env st seatId
    · exact .inr (.inl ⟨seatId, rfl, hstarts⟩)
    · exact .inl (markReady_silent hstarts).2.2
  | getState => exact .inl rfl
  | getEngineState => exact .inl rfl
  | getLegalActions seatId => exact .inl rfl
  | getPrivateEvents seatId handId => exact .inl rfl
  | act action => exact .inl (apply_silent hinv st rfl hnone action)
  | queuePendingChainAction txHash action => exact .inl rfl
  | chainTxVerified callback =>
    by_cases hmatch : callback.status = "matched" ∧ callback.handId = some st.state.snapshot.handId
    · -- a matched callback does not abort the hand
      have habort : abortOnFailure (applyMatched st callback) callback = applyMatched st callback :=
        if_neg fun h => by rcases h.1 with h | h <;> simp [hmatch.1] at h
      refine .inl (?_ : (abortOnFailure (applyMatched st callback) callback).sink.handEvents = _)
      rw [habort, applyMatched, if_pos hmatch]
      split
      · rfl
      · refine apply_silent hinv _ ?_ hnone _
        rfl
    · have hsame : applyMatched st callback = st := if_neg hmatch
      by_cases hopen : HandOpen st.state.snapshot
      · exact .inr (.inr hopen)
      · refine .inl (?_ : (abortOnFailure (applyMatched st callback) callback).sink.handEvents = _)
        rw [hsame, abortOnFailure, if_neg fun h => hopen h.2.2]
  | completeSettlement handId =>
    by_cases hcomplete : handId = st.state.snapshot.handId ∧
        (st.state.snapshot.status = .showdown ∨ st.state.snapshot.status = .settling)
    · exact .inr (.inr (.inr hcomplete.2))
    · refine .inl (?_ : (completeSettlement st handId).sink.handEvents = _)
      rw [completeSettlement, if_neg hcomplete]
  | turnTimeoutElapsed generation =>
    exact .inl (congrArg (fun st => st.sink.handEvents) (clock_silent env hnone generation).1)
  | turnReminderElapsed generation =>
    exact .inl (congrArg (fun st => st.sink.handEvents) (clock_silent env hnone generation).2.1)
  | schedulerTick =>
    exact .inl (congrArg (fun st => st.sink.handEvents) (clock_silent env hnone 0).2.2)

end

/-! ### Closed hands -/

/-- What holds of the log in every room, if the hands it has dealt are `ids`. -/
structure EventLogInv (ids : List HandId) (st : RoomState Card) : Prop where
  room : RoomInv st
  stamped : StampedRoom st
  /-- Every event is about a hand that was dealt. -/
  dealt : ∀ e ∈ st.sink.handEvents, e.handId ∈ ids
  current : HandOpen st.state.snapshot → st.state.snapshot.handId ∈ ids
  closedLast : ClosedLast st.sink.handEvents
  notClosed : HandOpen st.state.snapshot → ∀ e ∈ st.sink.handEvents, e.kind = .handClosed →
    e.handId ≠ st.state.snapshot.handId

/-- New events go on with the log if they are not about a closed hand, and close a hand with the last
of them only. -/
theorem ClosedLast.append {log new : List HandEvent} (h : ClosedLast log)
    (hold : ∀ c ∈ log, c.kind = .handClosed → ∀ e ∈ new, e.handId ≠ c.handId)
    (hnew : ∀ c ∈ new.dropLast, c.kind ≠ .handClosed) : ClosedLast (log ++ new) := by
  intro before c after heq hc
  rcases List.append_eq_append_iff.1 heq with ⟨cs, -, hcs⟩ | ⟨cs, hlog, hcs⟩
  · -- the closing is one of the new events
    cases after with
    | nil => exact fun e he => absurd he List.not_mem_nil
    | cons a after =>
      refine absurd hc (hnew c ?_)
      rw [hcs, List.dropLast_append_of_ne_nil (by simp)]
      simp
  · cases cs with
    | nil =>
      cases after with
      | nil => exact fun e he => absurd he List.not_mem_nil
      | cons a after =>
        refine absurd hc (hnew c ?_)
        rw [List.nil_append] at hcs
        rw [← hcs]
        simp
    | cons d cs =>
      obtain ⟨rfl, rfl⟩ := List.cons.inj hcs
      intro e he
      rcases List.mem_append.1 he with he | he
      · exact h before c cs hlog hc e he
      · exact hold c (by rw [hlog]; simp) hc e he

theorem ClosedLast.closedOnce {log : List HandEvent} (h : ClosedLast log) (handId : HandId) :
    (closingsOf handId log).length ≤ 1 := by
  induction log with
  | nil => simp [closingsOf, closings]
  | cons e log ih =>
    have htail : ClosedLast log := fun before c after heq hc =>
      h (e :: before) c after (by rw [heq]; rfl) hc
    by_cases he : e.kind = .handClosed ∧ e.handId = handId
    · have hnone : closingsOf handId log = [] := by
        refine List.filter_eq_nil_iff.2 fun e' he' hid => ?_
        exact h [] e log rfl he.1 e' (List.mem_filter.1 he').1
          ((of_decide_eq_true hid).trans he.2.symm)
      have hcons : closingsOf handId (e :: log) = e :: closingsOf handId log := by
        simp [closingsOf, closings, he.1, he.2]
      rw [hcons, hnone]
      simp
    · have hcons : closingsOf handId (e :: log) = closingsOf handId log := by
        by_cases hkind : e.kind = .handClosed
        · have hid : e.handId ≠ handId := fun hid => he ⟨hkind, hid⟩
          simp [closingsOf, closings, hkind, hid]
        · simp [closingsOf, closings, hkind]
      rw [hcons]
      exact ih htail

/-- The announcement of an action closes the hand with its last event only. -/
theorem dropLast_emittedKinds (st : EngineState Card) (action : PlayerAction)
    (result : EngineActionResult) : .handClosed ∉ (emittedKinds st action result).dropLast := by
  unfold emittedKinds
  by_cases hclosed : st.snapshot.status = .settled ∨ st.snapshot.status = .aborted
  · cases result.streetChanged <;> cases st.snapshot.actingSeatId <;> simp [hclosed]
  · cases result.streetChanged <;> cases st.snapshot.actingSeatId <;> simp [hclosed]

section

variable {st st' : RoomState Card} {ids : List HandId}

/-- Events about the current hand keep the invariant while the hand is open. -/
theorem EventLogInv.append (h : EventLogInv ids st) (hroom : RoomInv st') (hstamped : StampedRoom st')
    {new : List HandEvent} (hnew : st'.sink.handEvents = st.sink.handEvents ++ new)
    (hid : st'.state.snapshot.handId = st.state.snapshot.handId)
    (hids : ∀ e ∈ new, e.handId = st'.state.snapshot.handId)
    (hopen : ∀ e ∈ new, HandOpen st.state.snapshot)
    (hstill : HandOpen st'.state.snapshot →
      HandOpen st.state.snapshot ∧ ∀ e ∈ new, e.kind ≠ .handClosed)
    (hlast : ∀ c ∈ new.dropLast, c.kind ≠ .handClosed) : EventLogInv ids st' := by
  refine ⟨hroom, hstamped, ?_, ?_, ?_, ?_⟩
  · intro e he
    rw [hnew] at he
    rcases List.mem_append.1 he with he | he
    · exact h.dealt e he
    · rw [hids e he, hid]
      exact h.current (hopen e he)
  · intro hopen'
    rw [hid]
    exact h.current (hstill hopen').1
  · rw [hnew]
    refine h.closedLast.append (fun c hc hclosed e he => ?_) hlast
    rw [hids e he, hid]
    exact (h.notClosed (hopen e he) c hc hclosed).symm
  · intro hopen' e he hclosed
    rw [hnew] at he
    rcases List.mem_append.1 he with he | he
    · rw [hid]
      exact h.notClosed (hstill hopen').1 e he hclosed
    · exact absurd hclosed ((hstill hopen').2 e he)

/-- A hand with a new identifier starts on a clean page. -/
theorem EventLogInv.start (h : EventLogInv ids st) (hroom : RoomInv st') (hstamped : StampedRoom st')
    {handId : HandId} (hfresh : handId ∉ ids) {new : List HandEvent}
    (hnew : st'.sink.handEvents = st.sink.handEvents ++ new)
    (hid : st'.state.snapshot.handId = handId) (hids : ∀ e ∈ new, e.handId = handId)
    (hnone : ∀ e ∈ new, e.kind ≠ .handClosed) : EventLogInv (ids ++ [handId]) st' := by
  have hother : ∀ e ∈ st.sink.handEvents, e.handId ≠ handId := by
    rintro e he rfl
    exact hfresh (h.dealt e he)
  refine ⟨hroom, hstamped, ?_, fun _ => by simp [hid], ?_, ?_⟩
  · intro e he
    rw [hnew] at he
    rcases List.mem_append.1 he with he | he
    · exact List.mem_append_left _ (h.dealt e he)
    · simp [hids e he]
  · rw [hnew]
    refine h.closedLast.append (fun c hc _ e he => ?_)
      fun c hc => hnone c (List.mem_of_mem_dropLast hc)
    rw [hids e he]
    exact (hother c hc).symm
  · intro _ e he hclosed
    rw [hnew] at he
    rcases List.mem_append.1 he with he | he
    · rw [hid]
      exact hother e he
    · exact absurd hclosed (hnone e he)

theorem noClosed_of_kinds {events : List HandEvent} {kinds : List HandEventKind}
    (hkinds : events.map HandEvent.kind = kinds) (hno : .handClosed ∉ kinds) :
    ∀ e ∈ events, e.kind ≠ .handClosed := by
  intro e he hclosed
  refine hno ?_
  rw [← hkinds, ← hclosed]
  exact List.mem_map_of_mem he

variable [RsPoker Card] {env : RoomEnv Card} {cmd : RoomCommand}

theorem eventLogInv_start (config : RoomActorConfig) (h : EventLogInv ids st) {seatId : SeatId}
    (hstarts : StartsHand env st seatId) (hfresh : env.newHandId ∉ ids) :
    EventLogInv (ids ++ [env.newHandId]) (roomRunStep config st (env, .ready seatId)) := by
  obtain ⟨acting, hstate, -, new, hnew, hkinds, hids⟩ := explained_start hstarts
  obtain ⟨_, _, _, _, hd, -, -⟩ := deal_ok (eq_of_snd_ok hstarts.dealt)
  have hid : (markReady env st seatId).state.snapshot.handId = env.newHandId := by
    rw [hstate, hd]
    rfl
  refine h.start (roomInv_step config st (env, .ready seatId) h.room)
    (stamped_step config (.ready seatId) h.stamped) hfresh hnew hid ?_
    (noClosed_of_kinds hkinds (by simp))
  intro e he
  rw [← hid]
  exact (hids e he).2

theorem eventLogInv_goOn (config : RoomActorConfig) (h : EventLogInv ids st)
    (hno : ¬ ∃ seatId, cmd = .ready seatId ∧ StartsHand env st seatId) :
    EventLogInv ids (roomRunStep config st (env, cmd)) := by
  have hroom := roomInv_step config st (env, cmd) h.room
  have hstamped : StampedRoom (roomRunStep config st (env, cmd)) :=
    stamped_step config cmd h.stamped
  have hexp : Explained env st cmd (roomRunStep config st (env, cmd)) :=
    roomStep_announced config h.room.engine cmd
  have hsilent : (roomRunStep config st (env, cmd)).sink.handEvents = st.sink.handEvents ∨
      HandOpen st.state.snapshot := by
    cases hact : st.state.snapshot.actingSeatId with
    | none =>
      rcases silent_of_noTurn config h.room.engine hact cmd with hsame | hstarts | hopen
      · exact .inl hsame
      · exact absurd hstarts hno
      · exact .inr hopen
    | some seatId => exact .inr (.inl (h.room.copies.status_of_acting hact))
  generalize roomRunStep config st (env, cmd) = st' at hroom hstamped hexp hsilent
  obtain ⟨kinds, hann, -, new, hnew, hkinds, hids⟩ := hexp
  have hopen : ∀ e ∈ new, HandOpen st.state.snapshot := by
    intro e he
    rcases hsilent with hsame | hopen
    · rw [hnew, List.append_right_eq_self] at hsame
      simp [hsame] at he
    · exact hopen
  have hids' : ∀ e ∈ new, e.handId = st'.state.snapshot.handId := fun e he => (hids e he).2
  have hlast : .handClosed ∉ kinds.dropLast → ∀ c ∈ new.dropLast, c.kind ≠ .handClosed :=
    noClosed_of_kinds (by rw [List.map_dropLast, hkinds])
  generalize hstate' : st'.state = state' at hann
  cases hann with
  | quiet _ hsnap _ hturns =>
    have hnone := (noMark_of_turns hturns).2
    refine h.append hroom hstamped hnew (by rw [hstate', hsnap]) hids' hopen ?_
      (hlast fun hmem => hnone (List.mem_of_mem_dropLast hmem))
    rw [hstate', hsnap]
    exact fun hstill => ⟨hstill, noClosed_of_kinds hkinds hnone⟩
  | started seatId _ hcmd hstarts => exact absurd ⟨seatId, hcmd, hstarts⟩ hno
  | accepted action _ hok _ result happ =>
    have hrun := h.room.copies.status_of_acting hok.turn
    have hid : st'.state.snapshot.handId = st.state.snapshot.handId := by
      rcases applyAction_cases h.room.engine.pot action with ⟨-, _, _, happ', hacc⟩ | ⟨hno, -⟩
      · rw [happ] at happ'
        cases happ'
        rw [hstate']
        exact hacc.handId
      · exact absurd hok hno
    refine h.append hroom hstamped hnew hid hids' hopen ?_
      (hlast (dropLast_emittedKinds state' action result))
    rw [hstate']
    refine fun hstill => ⟨.inl hrun, fun e he hclosed => ?_⟩
    have hnone := (closings_accepted hkinds).1
      (by rcases hstill with h | h | h <;> simp [h]) (by rcases hstill with h | h | h <;> simp [h])
    exact List.filter_eq_nil_iff.1 hnone e he (decide_eq_true hclosed)
  | closed status _ hstatus =>
    refine h.append hroom hstamped hnew (by rw [hstate']; rfl) hids' hopen ?_ (hlast (by simp))
    rw [hstate']
    intro hstill
    have hended : status = .running ∨ status = .showdown ∨ status = .settling := hstill
    rcases hstatus with ⟨rfl, -⟩ | ⟨rfl, -⟩ <;> simp at hended

/-- **The log stays well formed with every command**, as long as hand identifiers are new. -/
theorem eventLogInv_step (config : RoomActorConfig) (input : RoomInput Card) (h : EventLogInv ids st)
    (hfresh : (ids ++ dealtHandId st input).Nodup) :
    EventLogInv (ids ++ dealtHandId st input) (roomRunStep config st input) := by
  obtain ⟨env, cmd⟩ := input
  by_cases hstarts : ∃ seatId, cmd = .ready seatId ∧ StartsHand env st seatId
  · obtain ⟨seatId, rfl, hstarts⟩ := hstarts
    have hid : dealtHandId st (env, .ready seatId) = [env.newHandId] := if_pos hstarts
    rw [hid] at hfresh ⊢
    refine eventLogInv_start config h hstarts fun hmem => ?_
    exact List.disjoint_of_nodup_append hfresh hmem (List.mem_singleton_self _)
  · have hnone : dealtHandId st (env, cmd) = [] := by
      unfold dealtHandId
      split
      · rename_i seatId hcmd
        exact if_neg fun h => hstarts ⟨seatId, hcmd, h⟩
      · rfl
    rw [hnone, List.append_nil]
    exact eventLogInv_goOn config h hstarts

theorem eventLogInv_run (config : RoomActorConfig) (inputs : List (RoomInput Card)) :
    ∀ {ids : List HandId} {st : RoomState Card}, EventLogInv ids st →
      (ids ++ dealtHandIds config st inputs).Nodup →
      EventLogInv (ids ++ dealtHandIds config st inputs) (run (roomRunStep config) st inputs) := by
  induction inputs with
  | nil =>
    intro ids st h _
    rw [dealtHandIds, List.append_nil]
    exact h
  | cons input rest ih =>
    intro ids st h hfresh
    rw [dealtHandIds, ← List.append_assoc] at hfresh ⊢
    exact ih (eventLogInv_step config input h (List.Nodup.of_append_left hfresh)) hfresh

end

/-- **The event log of a room is well formed**: in every run with fewer than `2 ^ 32 - 1` events in
which the identifiers of the hands are distinct, the events are numbered `1, 2, 3, …`, and a hand has at
most one closing, which is its last event. -/
theorem event_log_wellFormed [RsPoker Card] (config : RoomActorConfig) (roomId : RoomId)
    (handId : HandId) (inputs : List (RoomInput Card))
    (hfresh : (dealtHandIds config (RoomState.spawn roomId handId) inputs).Nodup)
    (hshort : (run (roomRunStep config) (RoomState.spawn roomId handId) inputs).sink.handEvents.length <
      2 ^ 32 - 1) :
    WellFormed (run (roomRunStep config) (RoomState.spawn roomId handId) inputs).sink.handEvents := by
  have hspawn : EventLogInv [] (RoomState.spawn roomId handId : RoomState Card) := by
    refine ⟨roomInv_spawn roomId handId, ⟨rfl, nofun⟩, nofun, nofun, ?_, nofun⟩
    intro before c after heq
    simp [RoomState.spawn] at heq
  have hinv := eventLogInv_run config inputs hspawn hfresh
  exact ⟨hinv.stamped.numbered hshort, hinv.closedLast.closedOnce, hinv.closedLast⟩

/-- The log of a hand that is folded out and of the next one, with seven events. -/
theorem folded_hand_log_wellFormed :
    (tableLog (twoHands [tableAction 1 0 .fold none])).length = 7 ∧
      WellFormed (tableLog (twoHands [tableAction 1 0 .fold none])) := by
  have heval : dealtHandIds {} (RoomState.spawn ⟨0⟩ ⟨0⟩)
        (twoHands [tableAction 1 0 .fold none]) = [⟨1⟩, ⟨2⟩] ∧
      (tableLog (twoHands [tableAction 1 0 .fold none])).length = 7 := by
    decide +kernel
  refine ⟨heval.2, event_log_wellFormed {} ⟨0⟩ ⟨0⟩ (twoHands [tableAction 1 0 .fold none]) ?_ ?_⟩
  · rw [heval.1]
    decide
  · exact heval.2 ▸ by norm_num

end HoldemPlatform.Room.EventLog
