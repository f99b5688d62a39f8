import HoldemPlatform.Lib.Stretches
import HoldemPlatform.Room.Moves

/-!
# The Clock of a Turn

A tick of the room's scheduler reads the clock, and the clock of a turn starts at the first tick that
sees it. In every run the clock that is set is the clock of the current turn (`ClockInv`), so a tick
folds a seat exactly if the seat has had its turn since a tick that lies the whole timeout back
(`tick_folds_iff`). Until then the seat is reminded, and the reminders are far enough apart that a turn
is announced a bounded number of times (`turn_calls_le`).
-/

namespace HoldemPlatform.Room.TurnClock

open HoldemPlatform.Lib.Run HoldemPlatform.Lib.Stretches HoldemPlatform.Domain.Game
open HoldemPlatform.Engine.State HoldemPlatform.Engine.Deal HoldemPlatform.Engine.Turn
open HoldemPlatform.Engine.Action HoldemPlatform.Engine.Round HoldemPlatform.Engine.Run
open HoldemPlatform.Room.Actor HoldemPlatform.Room.Effect HoldemPlatform.Room.HandLog
open HoldemPlatform.Room.TimerGeneration HoldemPlatform.Room.Moves

variable {Card : Type}

/-- The clock that is set is the clock of the current turn. -/
structure ClockInv (st : RoomState Card) : Prop where
  room : RoomInv st
  turn : ∀ s, st.turnScheduler = some s → currentTurn st = some (clockTurn s)

theorem clockInv_spawn (roomId : RoomId) (handId : HandId) :
    ClockInv (RoomState.spawn roomId handId : RoomState Card) :=
  ⟨roomInv_spawn roomId handId, nofun⟩

theorem saturatingAdd_one_ne {w n : ℕ} (h : n < 2 ^ w - 1) : saturatingAdd w n 1 ≠ n := by
  rw [saturatingAdd]
  omega

section

variable [RsPoker Card] {env : RoomEnv Card} {st st' : RoomState Card} {cmd : RoomCommand}

theorem clockInv_step (config : RoomActorConfig) (st : RoomState Card) (input : RoomInput Card)
    (h : ClockInv st) : ClockInv (roomRunStep config st input) := by
  have hmove : TableMove input.1 st input.2 (roomRunStep config st input) :=
    tableMove config h.room input.2
  refine ⟨roomInv_step config st input h.room, fun s hs => ?_⟩
  generalize roomRunStep config st input = st' at hmove hs
  cases hmove with
  | idle _ hsnap hclock => exact (currentTurn_congr hsnap).trans (h.turn s (hclock ▸ hs))
  | dealt _ _ _ _ hclock => rw [hclock] at hs; cases hs
  | accepted _ _ _ _ _ hclock => rw [hclock] at hs; cases hs
  | closed _ _ _ _ hclock => rw [hclock] at hs; cases hs
  | called _ _ _ _ hsnap hclock => exact (currentTurn_congr hsnap).trans (h.turn s (hclock ▸ hs))
  | stopped _ _ _ hclock => rw [hclock] at hs; cases hs
  | started turn _ hturn _ hsnap hclock =>
    obtain rfl := Option.some.inj (hclock.symm.trans hs)
    exact (currentTurn_congr hsnap).trans hturn
  | reminded s' _ _ hturn _ _ hsnap hclock =>
    obtain rfl := Option.some.inj (hclock.symm.trans hs)
    exact (currentTurn_congr hsnap).trans hturn
  | waited s' _ _ hturn _ hsnap hclock =>
    obtain rfl := Option.some.inj (hclock.symm.trans hs)
    exact (currentTurn_congr hsnap).trans hturn

/-! ### How long a turn has been held -/

/-- The clock of the turn was started at this time. -/
def Clocked (turn : Turn) (startedAt : Instant) (st : RoomState Card) : Prop :=
  ∃ s, st.turnScheduler = some s ∧ clockTurn s = turn ∧ s.startedAt = startedAt

/-- A tick at this time found the turn and left it there, and it has been held ever since. -/
def HeldSince (config : RoomActorConfig) (st : RoomState Card) (inputs : List (RoomInput Card))
    (turn : Turn) (time : Instant) : Prop :=
  SinceStep (roomRunStep config)
    (fun st input => input.2 = .schedulerTick ∧ input.1.now = time ∧ currentTurn st = some turn ∧
      currentTurn (roomRunStep config st input) = some turn)
    (fun st input => currentTurn (roomRunStep config st input) = some turn) st inputs

/-- The times of the ticks do not go back. -/
def TicksForward (inputs : List (RoomInput Card)) : Prop :=
  inputs.Pairwise fun i j => i.2 = .schedulerTick → j.2 = .schedulerTick → i.1.now ≤ j.1.now

/-- The clock of a turn comes from a tick that saw it, or from before. -/
theorem clocked_of_step {turn : Turn} {time : Instant} (hmove : TableMove env st cmd st')
    (h : Clocked turn time st') :
    (cmd = .schedulerTick ∧ env.now = time ∧ currentTurn st = some turn) ∨ Clocked turn time st := by
  obtain ⟨s, hs, rfl, rfl⟩ := h
  cases hmove with
  | idle _ _ hclock => exact .inr ⟨s, hclock ▸ hs, rfl, rfl⟩
  | dealt _ _ _ _ hclock => rw [hclock] at hs; cases hs
  | accepted _ _ _ _ _ hclock => rw [hclock] at hs; cases hs
  | closed _ _ _ _ hclock => rw [hclock] at hs; cases hs
  | called _ _ _ _ _ hclock => exact .inr ⟨s, hclock ▸ hs, rfl, rfl⟩
  | stopped _ _ _ hclock => rw [hclock] at hs; cases hs
  | started turn hcmd hturn _ _ hclock =>
    obtain rfl := Option.some.inj (hclock.symm.trans hs)
    exact .inl ⟨hcmd, rfl, hturn⟩
  | reminded s' _ hs' _ _ _ _ hclock =>
    obtain rfl := Option.some.inj (hclock.symm.trans hs)
    exact .inr ⟨s', hs', rfl, rfl⟩
  | waited s' _ hs' _ _ _ hclock =>
    obtain rfl := Option.some.inj (hclock.symm.trans hs)
    exact .inr ⟨s', hs', rfl, rfl⟩

theorem heldSince_of_clocked (config : RoomActorConfig) {turn : Turn} {time : Instant}
    (hst : ClockInv st) (hno : st.turnScheduler = none) (inputs : List (RoomInput Card))
    (h : Clocked turn time (run (roomRunStep config) st inputs)) :
    HeldSince config st inputs turn time := by
  refine sinceStep_of_run ClockInv (Clocked turn time) (clockInv_step config) ?_ hst ?_ inputs h
  · intro st input hinv hclocked
    have hturn : currentTurn (roomRunStep config st input) = some turn := by
      obtain ⟨s, hs, rfl, -⟩ := hclocked
      exact (clockInv_step config st input hinv).turn s hs
    rcases clocked_of_step (tableMove config hinv.room input.2) hclocked with h | h
    · exact .inl ⟨h.1, h.2.1, h.2.2, hturn⟩
    · exact .inr ⟨h, hturn⟩
  · rintro ⟨s, hs, -⟩
    rw [hno] at hs
    cases hs

/-- While the turn stays its clock stays, and a tick finds the clock set or sets it. -/
theorem clock_kept {turn : Turn} (hlt : turn.actionSeq < 2 ^ 32 - 1)
    (hmove : TableMove env st cmd st') (hturn : currentTurn st = some turn)
    (hturn' : currentTurn st' = some turn) :
    (∀ time, Clocked turn time st → Clocked turn time st') ∧
      (cmd = .schedulerTick → (∃ time, Clocked turn time st) ∨ Clocked turn env.now st') := by
  have hact := (of_currentTurn hturn).1
  cases hmove with
  | idle hcmd _ hclock =>
    exact ⟨fun time ⟨s, hs, h⟩ => ⟨s, hclock.trans hs, h⟩, fun h => absurd h hcmd⟩
  | dealt _ hnone => rw [hnone] at hact; cases hact
  | accepted action mid hok hmid hstate =>
    exfalso
    have hseq := (of_currentTurn hturn').2
    rw [hstate, (turn_cases mid action.seatId).frame.nextActionSeq, hmid.snapshot] at hseq
    dsimp only at hseq
    rw [(of_currentTurn hturn).2] at hseq
    exact saturatingAdd_one_ne hlt hseq
  | closed status _ _ hstate =>
    have hact' := (of_currentTurn hturn').1
    rw [hstate] at hact'
    cases hact'
  | called _ hcmd _ _ _ hclock =>
    exact ⟨fun time ⟨s, hs, h⟩ => ⟨s, hclock.trans hs, h⟩, fun h => by rw [hcmd] at h; cases h⟩
  | stopped _ hnone => rw [hnone] at hact; cases hact
  | started turn' _ hcurrent hnew _ hclock =>
    obtain rfl := Option.some.inj (hturn.symm.trans hcurrent)
    refine ⟨?_, fun _ => .inr ⟨_, hclock, rfl, rfl⟩⟩
    rintro time ⟨s, hs, hs', -⟩
    exact absurd hs' (hnew s hs)
  | reminded s _ hs hcurrent _ _ _ hclock =>
    obtain rfl := Option.some.inj (hcurrent.symm.trans hturn)
    refine ⟨?_, fun _ => .inl ⟨_, s, hs, rfl, rfl⟩⟩
    rintro time ⟨s', hs', -, rfl⟩
    obtain rfl := Option.some.inj (hs.symm.trans hs')
    exact ⟨_, hclock, rfl, rfl⟩
  | waited s _ hs hcurrent _ _ hclock =>
    obtain rfl := Option.some.inj (hcurrent.symm.trans hturn)
    refine ⟨?_, fun _ => .inl ⟨_, s, hs, rfl, rfl⟩⟩
    rintro time ⟨s', hs', -, rfl⟩
    obtain rfl := Option.some.inj (hs.symm.trans hs')
    exact ⟨_, hclock, rfl, rfl⟩

/-- A turn that has been held has a clock, and it was not started later. -/
theorem clocked_of_heldSince (config : RoomActorConfig) {turn : Turn} {time : Instant}
    (hlt : turn.actionSeq < 2 ^ 32 - 1) (hst : ClockInv st) (hno : st.turnScheduler = none)
    {inputs : List (RoomInput Card)} (htimes : TicksForward inputs)
    (h : HeldSince config st inputs turn time) :
    ∃ startedAt ≤ time, Clocked turn startedAt (run (roomRunStep config) st inputs) := by
  obtain ⟨before, tick, after, rfl, ⟨hcmd, rfl, hturn, hturn'⟩, hafter⟩ := h
  have hinv := run_inv ClockInv (clockInv_step config) before hst
  have hfirst : ∃ startedAt ≤ tick.1.now,
      Clocked turn startedAt (roomRunStep config (run (roomRunStep config) st before) tick) := by
    obtain ⟨hkeep, hset⟩ := clock_kept hlt (tableMove config hinv.room tick.2) hturn hturn'
    rcases hset hcmd with ⟨startedAt, hclocked⟩ | hclocked
    · -- the clock was set at an earlier tick
      obtain ⟨before', tick', after', rfl, ⟨hcmd', htime, -⟩, -⟩ :=
        heldSince_of_clocked config hst hno before hclocked
      refine ⟨startedAt, ?_, hkeep startedAt hclocked⟩
      rw [← htime]
      refine (List.pairwise_append.1 htimes).2.2 tick' ?_ tick List.mem_cons_self hcmd' hcmd
      exact List.mem_append_right _ List.mem_cons_self
    · exact ⟨_, le_rfl, hclocked⟩
  obtain ⟨startedAt, hle, hclocked⟩ := hfirst
  refine ⟨startedAt, hle, ?_⟩
  rw [run_append, run_cons]
  have hlater := hafter.run_inv
    (fun st => ClockInv st ∧ currentTurn st = some turn ∧ Clocked turn startedAt st)
    (fun st input hturn' ⟨hinv, hturn, hclocked⟩ => ⟨clockInv_step config st input hinv, hturn',
      (clock_kept hlt (tableMove config hinv.room input.2) hturn hturn').1 startedAt hclocked⟩)
    ⟨clockInv_step config _ tick hinv, hturn', hclocked⟩
  exact hlater.2.2

theorem autoFold_nextActionSeq (hinv : EngineInv st.state) {seatId : SeatId}
    (hact : st.state.snapshot.actingSeatId = some seatId) :
    (autoFold st seatId).state.snapshot.nextActionSeq =
      saturatingAdd 32 st.state.snapshot.nextActionSeq 1 := by
  have hok : Acceptable st.state (autoFoldAction st seatId) := acceptable_fold rfl hact rfl
  obtain ⟨mid, hmid, happ⟩ := applyAction_accepted hinv.pot hok
  rw [autoFold_state, happ, (turn_cases mid _).frame.nextActionSeq, hmid.snapshot]

theorem tickTurn_folds_iff {turn : Turn} (hlt : turn.actionSeq < 2 ^ 32 - 1) (hroom : RoomInv st)
    (hturn : currentTurn st = some turn) :
    tickTurn env st = autoFold st turn.seatId ↔
      ∃ startedAt, startedAt + DEFAULT_STEP_TIMEOUT ≤ env.now ∧ Clocked turn startedAt st := by
  obtain ⟨hact, hseq⟩ := of_currentTurn hturn
  constructor
  · intro hfold
    have hmoves : (tickTurn env st).state ≠ st.state := by
      intro hsame
      have hnext := autoFold_nextActionSeq hroom.engine hact
      rw [← hfold, hsame, hseq] at hnext
      exact saturatingAdd_one_ne hlt hnext.symm
    have hclock : ClockResult env st .schedulerTick (tickTurn env st) := tickTurn_clock
    generalize tickTurn env st = st' at hclock hmoves
    cases hclock with
    | waits => exact absurd rfl hmoves
    | reminds => exact absurd (appendHandEvents_state _ _) hmoves
    | folds seatId happl =>
      rw [appliedAction, hact] at happl
      dsimp only at happl
      split_ifs at happl with hexpired
      rw [turnExpired, Bool.and_eq_true] at hexpired
      cases hs : st.turnScheduler with
      | none => rw [hs] at hexpired; cases hexpired.2
      | some s =>
        rw [hs] at hexpired
        simp only [Bool.and_eq_true, decide_eq_true_eq] at hexpired
        obtain ⟨-, ⟨⟨hid, hseq'⟩, hseat⟩, htime⟩ := hexpired
        refine ⟨s.startedAt, ?_, s, hs, ?_, rfl⟩
        · rw [DEFAULT_STEP_TIMEOUT] at htime ⊢
          omega
        · rw [clockTurn, hid, hseq', hseat]
          obtain ⟨seatId, hact', rfl⟩ := Option.map_eq_some_iff.1 hturn
          rfl
  · rintro ⟨startedAt, htime, s, hs, rfl, rfl⟩
    unfold tickTurn
    rw [hact]
    dsimp only
    rw [if_neg (not_not_intro (hroom.copies.status_of_acting hact)), hs]
    dsimp only
    rw [if_neg, if_pos (Nat.le_sub_of_add_le' htime)]
    obtain ⟨seatId, -, hclock⟩ := Option.map_eq_some_iff.1 hturn
    obtain ⟨hid, hseq', hseat⟩ := Turn.mk.inj hclock
    rw [← hid, ← hseq']
    simp [clockTurn]

end

/-- **A tick folds a seat exactly after a whole timeout**: in every run of a room whose ticks come
in the order of their times, a tick folds for the current turn if and only if the turn has been held since a tick
that lies at least the timeout back. -/
theorem tick_folds_iff [RsPoker Card] (config : RoomActorConfig) (roomId : RoomId) (handId : HandId)
    (inputs : List (RoomInput Card)) (htimes : TicksForward inputs)
    (env : RoomEnv Card) (turn : Turn) (hlt : turn.actionSeq < 2 ^ 32 - 1)
    (hturn : currentTurn (run (roomRunStep config) (RoomState.spawn roomId handId) inputs) = some turn) :
    let room := run (roomRunStep config) (RoomState.spawn roomId handId) inputs
    roomRunStep config room (env, .schedulerTick) = autoFold room turn.seatId ↔
      ∃ time, time + DEFAULT_STEP_TIMEOUT ≤ env.now ∧
        HeldSince config (RoomState.spawn roomId handId) inputs turn time := by
  intro room
  have hspawn : ClockInv (RoomState.spawn roomId handId : RoomState Card) :=
    clockInv_spawn roomId handId
  have hroom := (run_inv ClockInv (clockInv_step config) inputs hspawn).room
  refine (tickTurn_folds_iff hlt hroom hturn).trans ⟨?_, ?_⟩
  · rintro ⟨startedAt, htime, hclocked⟩
    exact ⟨startedAt, htime, heldSince_of_clocked config hspawn rfl inputs hclocked⟩
  · rintro ⟨time, htime, hheld⟩
    obtain ⟨startedAt, hle, hclocked⟩ := clocked_of_heldSince config hlt hspawn rfl htimes hheld
    exact ⟨startedAt, (Nat.add_le_add_right hle _).trans htime, hclocked⟩

def tickAt (now : Instant) : RoomInput ByteCard := ({ tableEnv with now }, .schedulerTick)

/-- The clock of seat `0` starts at `5` and it is folded at `360005`. -/
theorem tick_folds_seat_zero :
    roomRunStep {} (run (roomRunStep {}) (RoomState.spawn ⟨0⟩ ⟨0⟩) (opened ++ [tickAt 5]))
        (tickAt 360005) =
      autoFold (run (roomRunStep {}) (RoomState.spawn ⟨0⟩ ⟨0⟩) (opened ++ [tickAt 5])) 0 := by
  refine (tick_folds_iff {} ⟨0⟩ ⟨0⟩ (opened ++ [tickAt 5]) ?_ { tableEnv with now := 360005 }
    ⟨⟨1⟩, 1, 0⟩ ?_ ?_).2 ⟨5, by decide, opened, tickAt 5, [], rfl, ?_, trivial⟩
  · simp [TicksForward, opened, openTable, tickAt, tableEnv]
  · decide
  · decide +kernel
  · refine ⟨rfl, rfl, ?_, ?_⟩ <;> decide +kernel

/-! ### Reminders -/

/-- The event announces a turn. -/
def IsCall (kind : HandEventKind) : Prop := ∃ seatId, kind = .turnStarted seatId

/-- How far the last reminder of a clock lies behind its start. -/
def remindedAfter (s : TurnSchedulerState) : ℕ := s.lastReminderAt.getD s.startedAt - s.startedAt

/-- The announcements of the current turn so far, at most: the one that opened it and the reminders. -/
def callsSoFar : Option TurnSchedulerState → ℕ
  | none => 1
  | some s => 1 + remindedAfter s / TURN_REMINDER_INTERVAL

/-- The reminders so far lie the interval apart, and within the timeout. -/
structure RemindInv (st : RoomState Card) : Prop where
  clock : ClockInv st
  order : ∀ s, st.turnScheduler = some s → s.startedAt ≤ s.lastReminderAt.getD s.startedAt
  time : ∀ s, st.turnScheduler = some s → remindedAfter s < DEFAULT_STEP_TIMEOUT
  calls : StretchBound IsCall (st.sink.handEvents.map HandEvent.kind) (callsSoFar st.turnScheduler)
    (DEFAULT_STEP_TIMEOUT / TURN_REMINDER_INTERVAL)

theorem kinds_of_logged {st st' : RoomState Card} {kinds : List HandEventKind}
    (h : Logged st st' kinds) : st'.sink.handEvents.map HandEvent.kind =
      st.sink.handEvents.map HandEvent.kind ++ kinds := by
  obtain ⟨-, new, hnew, rfl, -⟩ := h
  rw [hnew, List.map_append]

/-- The announcement of an accepted action calls at most one seat, at its end. -/
theorem stretchBound_emitted {kinds : List HandEventKind} {m n : ℕ} (hn : 1 ≤ n)
    (h : StretchBound IsCall kinds m n) (state : EngineState Card) (action : PlayerAction)
    (result : EngineActionResult) :
    StretchBound IsCall (kinds ++ emittedKinds state action result) 1 n := by
  have hhead : StretchBound IsCall (kinds ++ ([.actionAccepted action, .potUpdated state.snapshot.potTotal] ++
      (result.streetChanged.map HandEventKind.streetChanged).toList)) 0 n := by
    have hpot : StretchBound IsCall
        (kinds ++ [.actionAccepted action] ++ [.potUpdated state.snapshot.potTotal]) 0 n :=
      (h.cut (by rintro ⟨_, ⟨⟩⟩)).cut (by rintro ⟨_, ⟨⟩⟩)
    cases result.streetChanged with
    | none => simpa using hpot
    | some street =>
      have hstreet : ¬ IsCall (.streetChanged street) := by rintro ⟨_, ⟨⟩⟩
      simpa using hpot.cut hstreet
  unfold emittedKinds
  rw [← List.append_assoc]
  generalize kinds ++ ([.actionAccepted action, .potUpdated state.snapshot.potTotal] ++
    (result.streetChanged.map HandEventKind.streetChanged).toList) = head at hhead
  split
  · exact hhead.grow hn _
  · split_ifs
    · have hclosed : ¬ IsCall .handClosed := by rintro ⟨_, ⟨⟩⟩
      exact (hhead.cut hclosed).mono (Nat.zero_le 1)
    · rw [List.append_nil]
      exact hhead.mono (Nat.zero_le 1)

section

variable {st st' : RoomState Card}

/-- A command that sets no clock and calls no seat twice keeps the bound. -/
theorem remindInv_of_none (hclock : ClockInv st') (hnone : st'.turnScheduler = none)
    (hcalls : StretchBound IsCall (st'.sink.handEvents.map HandEvent.kind) 1
      (DEFAULT_STEP_TIMEOUT / TURN_REMINDER_INTERVAL)) : RemindInv st' := by
  refine ⟨hclock, by rw [hnone]; nofun, by rw [hnone]; nofun, ?_⟩
  rw [hnone]
  exact hcalls

theorem remindInv_silent (h : RemindInv st) (hclock : ClockInv st')
    (hsame : st'.turnScheduler = st.turnScheduler) (hlog : Logged st st' []) : RemindInv st' := by
  refine ⟨hclock, hsame ▸ h.order, hsame ▸ h.time, ?_⟩
  rw [kinds_of_logged hlog, List.append_nil, hsame]
  exact h.calls

/-- A reminder that is due within the timeout leaves room for one more announcement. -/
theorem reminder_room {start last now : ℕ} (horder : start ≤ last)
    (hdue : TURN_REMINDER_INTERVAL ≤ now - last) (htime : now - start < DEFAULT_STEP_TIMEOUT) :
    start ≤ now ∧
      1 + (last - start) / TURN_REMINDER_INTERVAL < DEFAULT_STEP_TIMEOUT / TURN_REMINDER_INTERVAL ∧
      1 + (last - start) / TURN_REMINDER_INTERVAL + 1 ≤ 1 + (now - start) / TURN_REMINDER_INTERVAL := by
  rw [TURN_REMINDER_INTERVAL] at *
  rw [DEFAULT_STEP_TIMEOUT] at *
  omega

/-- A reminder takes its time, so there is room for one more announcement. -/
theorem remindInv_reminded (h : RemindInv st) (hclock : ClockInv st') {s : TurnSchedulerState}
    {now : Instant} (hs : st.turnScheduler = some s) (htime : now - s.startedAt < DEFAULT_STEP_TIMEOUT)
    (hdue : remindDue now s)
    (hs' : st'.turnScheduler = some { s with lastReminderAt := some now })
    (hlog : Logged st st' [.turnStarted s.seatId]) : RemindInv st' := by
  obtain ⟨hle, hlt, hmore⟩ := reminder_room (h.order s hs) hdue htime
  have hcalls := h.calls
  rw [hs] at hcalls
  refine ⟨hclock, ?_, ?_, ?_⟩
  · rw [hs']
    rintro _ ⟨⟩
    exact hle
  · rw [hs']
    rintro _ ⟨⟩
    exact htime
  · rw [kinds_of_logged hlog, hs']
    exact (hcalls.grow hlt _).mono hmore

theorem remindInv_step [RsPoker Card] (config : RoomActorConfig) (st : RoomState Card) (input : RoomInput Card)
    (hno : ∀ generation, input.2 ≠ .turnReminderElapsed generation) (h : RemindInv st) :
    RemindInv (roomRunStep config st input) := by
  have hclock := clockInv_step config st input h.clock
  have hmove : TableMove input.1 st input.2 (roomRunStep config st input) :=
    tableMove config h.clock.room input.2
  generalize roomRunStep config st input = st' at hclock hmove
  have hcut : ∀ {kind}, ¬ IsCall kind → StretchBound IsCall
      (st.sink.handEvents.map HandEvent.kind ++ [kind]) 0
      (DEFAULT_STEP_TIMEOUT / TURN_REMINDER_INTERVAL) := fun hkind => h.calls.cut hkind
  cases hmove with
  | idle _ _ hsame hlog => exact remindInv_silent h hclock hsame hlog
  | dealt acting _ _ _ hnone hlog =>
    refine remindInv_of_none hclock hnone ?_
    rw [kinds_of_logged hlog, List.append_cons]
    exact (hcut (by rintro ⟨_, ⟨⟩⟩)).grow (by decide) _
  | accepted action mid _ _ _ hnone hlog =>
    refine remindInv_of_none hclock hnone ?_
    rw [kinds_of_logged hlog]
    exact stretchBound_emitted (by decide) h.calls _ _ _
  | closed _ _ _ _ hnone hlog =>
    refine remindInv_of_none hclock hnone ?_
    rw [kinds_of_logged hlog]
    exact (hcut (by rintro ⟨_, ⟨⟩⟩)).mono (Nat.zero_le 1)
  | called generation hcmd => exact absurd hcmd (hno generation)
  | stopped _ hact _ hnone hlog =>
    -- nobody had the turn, so no clock was set
    have hbefore : st.turnScheduler = none := by
      refine Option.eq_none_iff_forall_not_mem.2 fun s hs => ?_
      rw [(of_currentTurn (h.clock.turn s hs)).1] at hact
      cases hact
    exact remindInv_silent h hclock (hnone.trans hbefore.symm) hlog
  | started turn _ hturn hnew _ hs' hlog =>
    have hbefore : st.turnScheduler = none := by
      refine Option.eq_none_iff_forall_not_mem.2 fun s hs => hnew s hs ?_
      exact Option.some.inj ((h.clock.turn s hs).symm.trans hturn)
    have hcalls := h.calls
    rw [hbefore] at hcalls
    refine ⟨hclock, ?_, ?_, ?_⟩
    · rw [hs']
      rintro _ ⟨⟩
      exact le_rfl
    · rw [hs']
      rintro _ ⟨⟩
      show input.1.now - input.1.now < DEFAULT_STEP_TIMEOUT
      rw [Nat.sub_self]
      decide
    · rw [kinds_of_logged hlog, List.append_nil, hs']
      exact hcalls.mono (Nat.le_add_right 1 _)
  | reminded s _ hs _ htime hdue _ hs' hlog => exact remindInv_reminded h hclock hs htime hdue hs' hlog
  | waited s _ hs _ _ _ hs' hlog => exact remindInv_silent h hclock (hs'.trans hs.symm) hlog

end

/-- **A turn is announced a bounded number of times**: in every run in which the room's scheduler gives
the reminders, no more than `DEFAULT_STEP_TIMEOUT / TURN_REMINDER_INTERVAL` announcements of a turn
follow each other in the log. -/
theorem turn_calls_le [RsPoker Card] (config : RoomActorConfig) (roomId : RoomId) (handId : HandId)
    (inputs : List (RoomInput Card))
    (hno : ∀ input ∈ inputs, ∀ generation, input.2 ≠ .turnReminderElapsed generation)
    (block : List HandEventKind)
    (hblock : block <:+: (run (roomRunStep config)
      (RoomState.spawn roomId handId) inputs).sink.handEvents.map HandEvent.kind)
    (hcalls : ∀ kind ∈ block, IsCall kind) :
    block.length ≤ DEFAULT_STEP_TIMEOUT / TURN_REMINDER_INTERVAL := by
  have hspawn : RemindInv (RoomState.spawn roomId handId : RoomState Card) :=
    ⟨clockInv_spawn roomId handId, nofun, nofun, stretchBound_nil _ _⟩
  have hall : AllSteps (roomRunStep config)
      (fun _ input => ∀ generation, input.2 ≠ .turnReminderElapsed generation)
      (RoomState.spawn roomId handId) inputs := allSteps_of_forall hno
  exact (hall.run_inv RemindInv (remindInv_step config) hspawn).calls.all block hblock hcalls

/-- Seat `0` is called when the hand is dealt, and once more after twenty seconds. -/
theorem turn_calls_le_two :
    [HandEventKind.turnStarted 0, .turnStarted 0] <:+: (run (roomRunStep {})
        (RoomState.spawn ⟨0⟩ ⟨0⟩) (opened ++ [tickAt 5, tickAt 20005])).sink.handEvents.map
          HandEvent.kind ∧
      [HandEventKind.turnStarted 0, .turnStarted 0].length ≤
        DEFAULT_STEP_TIMEOUT / TURN_REMINDER_INTERVAL := by
  have hblock : [HandEventKind.turnStarted 0, .turnStarted 0] <:+: (run (roomRunStep {})
      (RoomState.spawn ⟨0⟩ ⟨0⟩) (opened ++ [tickAt 5, tickAt 20005])).sink.handEvents.map
        HandEvent.kind := by
    refine ⟨[.handStarted], [], ?_⟩
    decide +kernel
  refine ⟨hblock, turn_calls_le {} ⟨0⟩ ⟨0⟩ (opened ++ [tickAt 5, tickAt 20005]) ?_ _ hblock ?_⟩
  · simp [opened, openTable, tickAt]
  · simp [IsCall]

end HoldemPlatform.Room.TurnClock
