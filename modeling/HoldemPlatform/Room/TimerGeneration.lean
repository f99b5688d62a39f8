import HoldemPlatform.Room.HandLog

/-!
# Timers and Turns

A timer carries the generation at which it was set, and a room ignores the timers of other
generations. Not every command that ends a turn moves the generation on: the action that leads to the
showdown does not. But then nobody is left to act, and the next turn comes with a deal, which does. So
one generation belongs to one turn (`turn_of_generation`), and a late timer cannot fold a later one.
-/

namespace HoldemPlatform.Room.TimerGeneration

open HoldemPlatform.Lib.Run HoldemPlatform.Domain.Game
open HoldemPlatform.Engine.State HoldemPlatform.Engine.Deal HoldemPlatform.Engine.Action
open HoldemPlatform.Engine.Round HoldemPlatform.Engine.Run HoldemPlatform.Engine.Turn
open HoldemPlatform.Room.Actor HoldemPlatform.Room.Effect HoldemPlatform.Room.HandLog

variable {Card : Type}

/-- A turn: the seat to act, and the place of its action in the hand. -/
structure Turn where
  handId : HandId
  actionSeq : ActionSeq
  seatId : SeatId
deriving DecidableEq

def currentTurn (st : RoomState Card) : Option Turn :=
  st.state.snapshot.actingSeatId.map fun seatId =>
    ⟨st.state.snapshot.handId, st.state.snapshot.nextActionSeq, seatId⟩

/-- What a command does to the generation: it moves on, or the turn stays or ends. -/
inductive GenerationStep (st st' : RoomState Card) : Prop
  | moves (h : st'.timeoutGeneration = saturatingAdd 64 st.timeoutGeneration 1)
  | stays (h : st'.timeoutGeneration = st.timeoutGeneration)
      (hturn : currentTurn st' = currentTurn st ∨ currentTurn st' = none)

theorem currentTurn_eq_none {st : RoomState Card} :
    currentTurn st = none ↔ st.state.snapshot.actingSeatId = none :=
  Option.map_eq_none_iff

theorem currentTurn_congr {st st' : RoomState Card} (h : st'.state.snapshot = st.state.snapshot) :
    currentTurn st' = currentTurn st := by
  rw [currentTurn, h]
  rfl

@[simp] theorem appendHandEvents_timeoutGeneration (st : RoomState Card) :
    ∀ kinds : List HandEventKind,
      (appendHandEvents st kinds).timeoutGeneration = st.timeoutGeneration := by
  intro kinds
  induction kinds generalizing st with
  | nil => rfl
  | cons kind kinds ih => exact ih (appendHandEvent st kind)

theorem generation_same {st st' : RoomState Card} (hsnap : st'.state.snapshot = st.state.snapshot)
    (hgen : st'.timeoutGeneration = st.timeoutGeneration) : GenerationStep st st' :=
  .stays hgen (.inl (currentTurn_congr hsnap))

theorem generation_close (st : RoomState Card) (status : HandStatus) :
    GenerationStep st (closeRoomHand st status) := by
  refine .moves ?_
  show saturatingAdd 64 (appendHandEvents { st with state := endHand st.state status }
    [.handClosed]).timeoutGeneration 1 = _
  rw [appendHandEvents_timeoutGeneration]

/-- After an accepted action the generation stays only if nobody is left to act. -/
theorem generation_emit (st : RoomState Card) (action : PlayerAction) (result : EngineActionResult) :
    (emitPostActionHandEvents st action result).timeoutGeneration =
        saturatingAdd 64 st.timeoutGeneration 1 ∨
      ((emitPostActionHandEvents st action result).timeoutGeneration = st.timeoutGeneration ∧
        st.state.snapshot.actingSeatId = none) := by
  unfold emitPostActionHandEvents
  dsimp only
  split_ifs with h
  · refine .inl ?_
    rw [bumpGeneration, appendHandEvents_timeoutGeneration]
  · refine .inr ⟨appendHandEvents_timeoutGeneration st _, ?_⟩
    exact Option.not_isSome_iff_eq_none.1 fun hact => h (.inl hact)

section

variable [RsPoker Card] {env : RoomEnv Card} {st : RoomState Card}

theorem generation_apply (hinv : EngineInv st.state) (st₀ : RoomState Card)
    (hstate : st₀.state = st.state) (hgen : st₀.timeoutGeneration = st.timeoutGeneration)
    (action : PlayerAction) : GenerationStep st (applyAndEmit st₀ action).1 := by
  have hpot := hinv.pot
  rw [← hstate] at hpot
  by_cases hok : Acceptable st₀.state action
  · obtain ⟨mid, -, happ⟩ := applyAction_accepted hpot hok
    rw [applyAndEmit, happ]
    dsimp only
    generalize (⟨(advanceTurn mid action.seatId).2⟩ : EngineActionResult) = result
    generalize (advanceTurn mid action.seatId).1 = state
    rcases generation_emit (upsertHandSnapshot { st₀ with state }) action result with h | ⟨h, hnone⟩
    · refine .moves (h.trans ?_)
      rw [← hgen]
      rfl
    · refine .stays (h.trans hgen) (.inr ?_)
      rw [currentTurn_eq_none]
      exact (congrArg (fun s => s.snapshot.actingSeatId)
        (emitPostActionHandEvents_state (upsertHandSnapshot { st₀ with state }) action result)).trans
        hnone
  · rw [applyAndEmit]
    rcases applyAction_refused hpot hok with ⟨-, e, happ⟩ | ⟨-, e, happ⟩
    · rw [happ]
      exact generation_same (by rw [← hstate]) hgen
    · rw [happ]
      refine generation_same ?_ hgen
      rw [← hstate, placedBets_eq]

theorem generation_autoFold (hinv : EngineInv st.state) (seatId : SeatId) :
    GenerationStep st (autoFold st seatId) := by
  have happly := generation_apply hinv st rfl rfl (autoFoldAction st seatId)
  unfold autoFold
  dsimp only
  generalize hr : applyAndEmit st (autoFoldAction st seatId) = r at happly
  obtain ⟨st', _ | _⟩ := r
  · -- a fold that is refused moves the generation on, so that the timer is not tried again
    refine .moves ?_
    have hgen : st'.timeoutGeneration = st.timeoutGeneration := by
      rw [applyAndEmit] at hr
      split at hr
      · cases hr
        rfl
      · cases hr
    show saturatingAdd 64 st'.timeoutGeneration 1 = _
    rw [hgen]
  · cases happly with
    | moves h => exact .moves h
    | stays h hturn => exact .stays h hturn

theorem generation_clock (hinv : EngineInv st.state) {cmd : RoomCommand} {st' : RoomState Card}
    (hclock : ClockResult env st cmd st') : GenerationStep st st' := by
  cases hclock with
  | waits => exact generation_same rfl rfl
  | reminds turnScheduler seatId =>
    exact generation_same (by rw [appendHandEvents_state]) (appendHandEvents_timeoutGeneration _ _)
  | folds seatId => exact generation_autoFold hinv seatId

theorem generation_markReady (seatId : SeatId) : GenerationStep st (markReady env st seatId) := by
  unfold markReady
  split_ifs
  swap
  · exact generation_same rfl rfl
  dsimp only
  split_ifs
  swap
  · exact generation_same rfl rfl
  rcases deal_cases st.state env.newHandId env.deck with ⟨e, he⟩ | ⟨_, _, _, _, hd, -, -⟩
  · rw [he]
    exact generation_same rfl rfl
  · rw [hd]
    refine .moves ?_
    dsimp only [startHand, clearScheduler, bumpGeneration]
    rw [appendHandEvents_timeoutGeneration]
    rfl

theorem generation_chainTxVerified (hinv : EngineInv st.state)
    (callback : ChainTxVerifiedCallback) :
    GenerationStep st (chainTxVerified st callback) := by
  suffices h : GenerationStep st (abortOnFailure (applyMatched st callback) callback) by
    cases h with
    | moves h => exact .moves h
    | stays h hturn => exact .stays h hturn
  by_cases hmatch : callback.status = "matched" ∧ callback.handId = some st.state.snapshot.handId
  · have habort : abortOnFailure (applyMatched st callback) callback = applyMatched st callback :=
      if_neg fun h => by rcases h.1 with h | h <;> simp [hmatch.1] at h
    rw [habort, applyMatched, if_pos hmatch]
    split
    · exact generation_same rfl rfl
    · refine generation_apply hinv _ ?_ ?_ _ <;> rfl
  · rw [applyMatched, if_neg hmatch, abortOnFailure]
    split_ifs
    · exact generation_close st .aborted
    · exact generation_same rfl rfl

/-- **A command moves the generation on, or leaves the turn as it is or ends it.** -/
theorem roomStep_generation (config : RoomActorConfig) (hinv : EngineInv st.state)
    (cmd : RoomCommand) : GenerationStep st (roomStep config env st cmd).1 := by
  cases cmd with
  | join seatId => exact generation_same rfl rfl
  | leave seatId => exact generation_same rfl rfl
  | bindAddress seatId address =>
    show GenerationStep st (bindAddress st seatId address)
    unfold bindAddress
    split_ifs <;> exact generation_same rfl rfl
  | bindSessionKeys seatId card request algo proof =>
    show GenerationStep st (bindSessionKeys st seatId card request algo)
    unfold bindSessionKeys
    split_ifs <;> exact generation_same rfl rfl
  | ready seatId => exact generation_markReady seatId
  | getState => exact generation_same rfl rfl
  | getEngineState => exact generation_same rfl rfl
  | getLegalActions seatId => exact generation_same rfl rfl
  | getPrivateEvents seatId handId => exact generation_same rfl rfl
  | act action => exact generation_apply hinv st rfl rfl action
  | queuePendingChainAction txHash action => exact generation_same rfl rfl
  | chainTxVerified callback => exact generation_chainTxVerified hinv callback
  | completeSettlement handId =>
    show GenerationStep st (completeSettlement st handId)
    unfold completeSettlement
    split_ifs
    · exact generation_close st .settled
    · exact generation_same rfl rfl
  | turnTimeoutElapsed generation =>
    have hclock : ClockResult env st (.turnTimeoutElapsed generation) _ :=
      turnTimeoutElapsed_clock generation
    exact generation_clock hinv hclock
  | turnReminderElapsed generation =>
    have hclock : ClockResult env st (.turnReminderElapsed generation) _ :=
      turnReminderElapsed_clock generation
    exact generation_clock hinv hclock
  | schedulerTick =>
    have hclock : ClockResult env st .schedulerTick _ := tickTurn_clock
    exact generation_clock hinv hclock

/-! ### Runs -/

/-- How a room stands to an earlier state: the generation has moved on, or it has the same turn or
none. -/
structure Follows (earlier st : RoomState Card) : Prop where
  room : RoomInv st
  le : earlier.timeoutGeneration ≤ st.timeoutGeneration
  turn : st.timeoutGeneration = earlier.timeoutGeneration →
    currentTurn st = currentTurn earlier ∨ currentTurn st = none

theorem follows_step {earlier : RoomState Card} (hlt : earlier.timeoutGeneration < 2 ^ 64 - 1)
    (config : RoomActorConfig) (st : RoomState Card) (input : RoomInput Card)
    (h : Follows earlier st) : Follows earlier (roomRunStep config st input) := by
  have hroom := roomInv_step config st input h.room
  have hstep : GenerationStep st (roomRunStep config st input) :=
    roomStep_generation config h.room.engine input.2
  generalize roomRunStep config st input = st' at hroom hstep
  have hle := h.le
  cases hstep with
  | moves hgen =>
    have hmore : earlier.timeoutGeneration < st'.timeoutGeneration := by
      rw [hgen, saturatingAdd]
      omega
    exact ⟨hroom, hmore.le, fun heq => absurd heq hmore.ne'⟩
  | stays hgen hturn =>
    refine ⟨hroom, by rwa [hgen], fun heq => ?_⟩
    rcases hturn with hturn | hturn
    · rw [hturn]
      exact h.turn (hgen.symm.trans heq)
    · exact .inr hturn

theorem turn_of_generation (config : RoomActorConfig) {st : RoomState Card} (hinv : RoomInv st)
    (hlt : st.timeoutGeneration < 2 ^ 64 - 1) (inputs : List (RoomInput Card)) :
    Follows st (run (roomRunStep config) st inputs) :=
  run_inv (Follows st) (follows_step hlt config) inputs ⟨hinv, le_rfl, fun _ => .inl rfl⟩

/-- A timer does nothing, or it is of the current generation and folds for the current turn. -/
theorem turnTimeoutElapsed_cases (st : RoomState Card) (generation : ℕ) :
    turnTimeoutElapsed st generation = st ∨
      (st.timeoutGeneration = generation ∧ ∃ turn, currentTurn st = some turn ∧
        turnTimeoutElapsed st generation = autoFold st turn.seatId) := by
  unfold turnTimeoutElapsed
  by_cases hgen : generation = st.timeoutGeneration
  · rw [if_neg (not_not_intro hgen)]
    cases hact : st.state.snapshot.actingSeatId with
    | none => exact .inl rfl
    | some seatId =>
      refine .inr ⟨hgen.symm,
        ⟨st.state.snapshot.handId, st.state.snapshot.nextActionSeq, seatId⟩, ?_, rfl⟩
      rw [currentTurn, hact]
      rfl
  · rw [if_pos hgen]
    exact .inl rfl

end

/-- **A timer folds its own turn or nothing**: in every run of a room, a later state with the same
generation (below the largest) that has an acting seat has the turn of the earlier one, and the timer
set in the earlier state either does nothing in the later one or folds for that turn. -/
theorem timer_folds_own_turn [RsPoker Card] (config : RoomActorConfig) (roomId : RoomId)
    (handId : HandId) (before after : List (RoomInput Card)) (env : RoomEnv Card) {turn : Turn}
    (hturn : currentTurn (run (roomRunStep config) (RoomState.spawn roomId handId) before) = some turn)
    (hlt : (run (roomRunStep config) (RoomState.spawn roomId handId) before).timeoutGeneration <
      2 ^ 64 - 1) :
    let earlier := run (roomRunStep config) (RoomState.spawn roomId handId) before
    let later := run (roomRunStep config) (RoomState.spawn roomId handId) (before ++ after)
    let timer : RoomInput Card := (env, .turnTimeoutElapsed earlier.timeoutGeneration)
    (later.timeoutGeneration = earlier.timeoutGeneration →
      ∀ turn', currentTurn later = some turn' → turn' = turn) ∧
    (roomRunStep config later timer = later ∨
      (currentTurn later = some turn ∧ roomRunStep config later timer = autoFold later turn.seatId)) := by
  intro earlier later timer
  have hinv : RoomInv earlier := roomInv_run config (roomInv_spawn roomId handId) before
  have hfollows : Follows earlier later := by
    have h := turn_of_generation config hinv hlt after
    rwa [← run_append] at h
  have hsame : later.timeoutGeneration = earlier.timeoutGeneration →
      ∀ turn', currentTurn later = some turn' → turn' = turn := by
    intro hgen turn' hturn'
    rcases hfollows.turn hgen with h | h
    · rw [h, show currentTurn earlier = some turn from hturn] at hturn'
      exact (Option.some.inj hturn').symm
    · rw [h] at hturn'
      cases hturn'
  refine ⟨hsame, ?_⟩
  rcases turnTimeoutElapsed_cases later earlier.timeoutGeneration with
    hnothing | ⟨hgen, turn', hcurrent, hfold⟩
  · exact .inl hnothing
  · obtain rfl := hsame hgen turn' hcurrent
    exact .inr ⟨hcurrent, hfold⟩

def opened : List (RoomInput ByteCard) := openTable.map fun cmd => (tableEnv, cmd)

def called : List (RoomInput ByteCard) := [(tableEnv, .act (tableAction 1 0 .call none))]

/-- The timer of the first turn at the table does nothing after the call. -/
theorem late_timer_does_nothing :
    roomRunStep {} (run (roomRunStep {}) (RoomState.spawn ⟨0⟩ ⟨0⟩) (opened ++ called))
        (tableEnv, .turnTimeoutElapsed
          (run (roomRunStep {}) (RoomState.spawn ⟨0⟩ ⟨0⟩) opened).timeoutGeneration) =
      run (roomRunStep {}) (RoomState.spawn ⟨0⟩ ⟨0⟩) (opened ++ called) := by
  have heval : currentTurn (run (roomRunStep {}) (RoomState.spawn ⟨0⟩ ⟨0⟩) opened) =
        some ⟨⟨1⟩, 1, 0⟩ ∧
      (run (roomRunStep {}) (RoomState.spawn ⟨0⟩ ⟨0⟩) opened).timeoutGeneration < 2 ^ 64 - 1 ∧
      currentTurn (run (roomRunStep {}) (RoomState.spawn ⟨0⟩ ⟨0⟩) (opened ++ called)) =
        some ⟨⟨1⟩, 2, 1⟩ := by
    decide +kernel
  rcases (timer_folds_own_turn {} ⟨0⟩ ⟨0⟩ opened called tableEnv heval.1 heval.2.1).2 with
    hnothing | ⟨hturn, -⟩
  · exact hnothing
  · rw [heval.2.2] at hturn
    exact absurd hturn (by decide)

end HoldemPlatform.Room.TimerGeneration
