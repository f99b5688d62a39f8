import HoldemPlatform.Engine.Copies
import HoldemPlatform.Room.Actor

/-!
# What a Command Does to the Hand

Every command of the room touches the engine state in one of a few ways: it seats a player, deals the
next hand, applies one action, or ends the hand. `appliedAction` names the action a command applies,
if any; `roomStep_effect` says that nothing else can happen. The engine's invariants hold in every
state a room can reach, and with them the copies of the turn agree there (`turn_copies_agree`).
-/

namespace HoldemPlatform.Room.Effect

open HoldemPlatform.Lib.FiniteMap HoldemPlatform.Lib.Run
open HoldemPlatform.Domain.Money HoldemPlatform.Domain.Game
open HoldemPlatform.Engine.State HoldemPlatform.Engine.Deal HoldemPlatform.Engine.Action
open HoldemPlatform.Engine.Run HoldemPlatform.Engine.Copies HoldemPlatform.Room.Actor

variable {Card : Type}

/-- The turn of the acting seat has run out at this tick. -/
def turnExpired (env : RoomEnv Card) (st : RoomState Card) (seatId : SeatId) : Bool :=
  st.state.snapshot.status = .running &&
    match st.turnScheduler with
    | none => false
    | some s =>
      s.handId = st.state.snapshot.handId && s.actionSeq = st.state.snapshot.nextActionSeq &&
        s.seatId = seatId && DEFAULT_STEP_TIMEOUT ≤ env.now - s.startedAt

/-- The action a command applies to the engine, accepted or not. -/
def appliedAction (env : RoomEnv Card) (st : RoomState Card) : RoomCommand → Option PlayerAction
  | .act action => some action
  | .chainTxVerified callback =>
    if callback.status = "matched" ∧ callback.handId = some st.state.snapshot.handId then
      st.pendingChainActions.lookup callback.txHash
    else none
  | .turnTimeoutElapsed expectedGeneration =>
    if expectedGeneration = st.timeoutGeneration then
      st.state.snapshot.actingSeatId.map (autoFoldAction st)
    else none
  | .schedulerTick =>
    match st.state.snapshot.actingSeatId with
    | none => none
    | some seatId => if turnExpired env st seatId then some (autoFoldAction st seatId) else none
  | _ => none

/-- The commands that change the pending actions. -/
def touchesPending : RoomCommand → Bool
  | .queuePendingChainAction _ _ | .chainTxVerified _ => true
  | _ => false

/-- The ways a command can change the engine state. -/
inductive HandEffect [RsPoker Card] (env : RoomEnv Card) (st : RoomState Card) (cmd : RoomCommand) :
    EngineState Card → Prop
  | same (h : appliedAction env st cmd = none) : HandEffect env st cmd st.state
  | seat (seatId : SeatId) (h : cmd = .join seatId) : HandEffect env st cmd (st.state.seatPlayer seatId)
  | deal (seatId : SeatId) (h : cmd = .ready seatId)
      (hact : st.state.snapshot.actingSeatId = none) :
      HandEffect env st cmd (dealNewHandInternalWithDeck st.state env.newHandId env.deck).1
  | applied (action : PlayerAction) (h : appliedAction env st cmd = some action) :
      HandEffect env st cmd (applyAction st.state action).1
  | aborted (callback : ChainTxVerifiedCallback) (h : cmd = .chainTxVerified callback)
      (hstatus : callback.status = "failed" ∨ callback.status = "unmatched")
      (hhand : callback.handId = some st.state.snapshot.handId) :
      HandEffect env st cmd (endHand st.state .aborted)
  | completed (h : cmd = .completeSettlement st.state.snapshot.handId)
      (hstatus : st.state.snapshot.status = .showdown ∨ st.state.snapshot.status = .settling) :
      HandEffect env st cmd (endHand st.state .settled)

theorem engineInv_endHand {st : EngineState Card} (h : EngineInv st) (status : HandStatus) :
    EngineInv (endHand st status) :=
  ⟨⟨h.pot.mainPot, h.pot.potTotal⟩, nofun⟩

theorem turnCopies_endHand {st : EngineState Card} (h : TurnCopies st) {status : HandStatus}
    (hstatus : status ≠ .running) : TurnCopies (endHand st status) :=
  ⟨rfl, rfl, h.street, h.nextActionSeq, h.handId, by simp [endHand, EngineState.setActing, hstatus]⟩

theorem engineInv_spawn (roomId : RoomId) (handId : HandId) :
    EngineInv (RoomState.spawn roomId handId : RoomState Card).state :=
  engineInv_new roomId 1 handId

/-- The rooms have the same addresses and card keys. -/
structure SameSeats (st st' : RoomState Card) : Prop where
  boundAddresses : st'.boundAddresses = st.boundAddresses
  cardPubkeys : st'.cardPubkeys = st.cardPubkeys

theorem sameSeats_of_books {st st' : RoomState Card} (h : st'.books = st.books) :
    SameSeats st st' :=
  ⟨congrArg (fun b : Books => b.registers.boundAddresses) h,
    congrArg (fun b : Books => b.registers.cardPubkeys) h⟩

/-- The seats of a room as a machine of their own. -/
def registerStep (r : Registers) : RoomCommand → Registers
  | .join seatId => { r with seated := insert seatId r.seated, ready := r.ready.erase seatId }
  | .leave seatId =>
    { r with
      seated := r.seated.erase seatId
      ready := r.ready.erase seatId
      boundAddresses := r.boundAddresses.erase seatId }
  | .bindAddress seatId seatAddress =>
    if seatId ∈ r.seated then
      { r with boundAddresses := r.boundAddresses.insert seatId seatAddress }
    else r
  | .bindSessionKeys seatId cardEncryptPubkey requestVerifyPubkey _ _ =>
    if seatId ∈ r.seated then
      { r with
        cardPubkeys := r.cardPubkeys.insert seatId cardEncryptPubkey
        requestPubkeys := r.requestPubkeys.insert seatId requestVerifyPubkey }
    else r
  | .ready seatId => if seatId ∈ r.seated then { r with ready := insert seatId r.ready } else r
  | _ => r

/-- The pending actions after a command, while `handId` is the current hand. -/
def pendingStep (handId : HandId) (pending : HashMap String PlayerAction) :
    RoomCommand → HashMap String PlayerAction
  | .queuePendingChainAction txHash action => pending.insert txHash action
  | .chainTxVerified callback =>
    if callback.status = "matched" ∧ callback.handId = some handId then
      pending.erase callback.txHash
    else pending
  | _ => pending

section

variable [RsPoker Card] {env : RoomEnv Card} {st : RoomState Card}

theorem markReady_effect (seatId : SeatId) :
    HandEffect env st (.ready seatId) (markReady env st seatId).state := by
  unfold markReady
  split_ifs with hseat
  · dsimp only
    split_ifs with hdeal
    · have hstate : HandEffect env st (.ready seatId)
          (dealNewHandInternalWithDeck st.state env.newHandId env.deck).1 :=
        .deal seatId rfl hdeal.1
      split
      · rename_i h
        rwa [h] at hstate
      · rename_i h
        rw [startHand_state]
        rwa [h] at hstate
    · exact .same rfl
  · exact .same rfl

/-- A matched callback of the current hand applies its pending action. -/
theorem chainTxVerified_state {callback : ChainTxVerifiedCallback} {action : PlayerAction}
    (hmatch : callback.status = "matched" ∧ callback.handId = some st.state.snapshot.handId)
    (hpend : st.pendingChainActions.lookup callback.txHash = some action) :
    (chainTxVerified st callback).state = (applyAction st.state action).1 := by
  show (abortOnFailure (applyMatched st callback) callback).state = _
  have habort : abortOnFailure (applyMatched st callback) callback = applyMatched st callback :=
    if_neg fun h => by rcases h.1 with h | h <;> simp [hmatch.1] at h
  rw [habort, applyMatched, if_pos hmatch, hpend]
  exact applyAndEmit_state _ action

/-- Any other callback can only abort the hand. -/
theorem chainTxVerified_state_of_none {callback : ChainTxVerifiedCallback}
    (hnone : appliedAction env st (.chainTxVerified callback) = none) :
    (chainTxVerified st callback).state = (abortOnFailure st callback).state := by
  have hsame : applyMatched st callback = st := by
    rw [appliedAction] at hnone
    rw [applyMatched]
    split_ifs at hnone ⊢ with hmatch
    · rw [hnone]
    · rfl
  show (abortOnFailure (applyMatched st callback) callback).state = _
  rw [hsame]

theorem chainTxVerified_effect (callback : ChainTxVerifiedCallback) :
    HandEffect env st (.chainTxVerified callback) (chainTxVerified st callback).state := by
  cases happl : appliedAction env st (.chainTxVerified callback) with
  | none =>
    rw [chainTxVerified_state_of_none happl, abortOnFailure]
    split_ifs with hfail
    · rw [closeRoomHand_state]
      exact .aborted callback rfl hfail.1 hfail.2.1
    · exact .same happl
  | some action =>
    have hpend := happl
    rw [appliedAction] at hpend
    split_ifs at hpend with hmatch
    rw [chainTxVerified_state hmatch hpend]
    exact .applied action happl

theorem completeSettlement_effect (handId : HandId) :
    HandEffect env st (.completeSettlement handId) (completeSettlement st handId).state := by
  unfold completeSettlement
  split_ifs with h
  · rw [closeRoomHand_state]
    exact .completed (by rw [h.1]) h.2
  · exact .same rfl

/-- What a command of the room's clock can do: set the clock of the turn, repeat the turn, or fold for
the seat whose time is up. -/
inductive ClockResult (env : RoomEnv Card) (st : RoomState Card) (cmd : RoomCommand) :
    RoomState Card → Prop
  | waits (turnScheduler : Option TurnSchedulerState) (hnone : appliedAction env st cmd = none) :
      ClockResult env st cmd { st with turnScheduler }
  | reminds (turnScheduler : Option TurnSchedulerState) (seatId : SeatId)
      (hnone : appliedAction env st cmd = none) :
      ClockResult env st cmd (appendHandEvents { st with turnScheduler } [.turnStarted seatId])
  | folds (seatId : SeatId) (happl : appliedAction env st cmd = some (autoFoldAction st seatId)) :
      ClockResult env st cmd (autoFold st seatId)

theorem turnTimeoutElapsed_clock (generation : ℕ) :
    ClockResult env st (.turnTimeoutElapsed generation) (turnTimeoutElapsed st generation) := by
  unfold turnTimeoutElapsed
  by_cases hgen : generation = st.timeoutGeneration
  · rw [if_neg (not_not_intro hgen)]
    cases hact : st.state.snapshot.actingSeatId with
    | none => exact .waits st.turnScheduler (by simp [appliedAction, hgen, hact])
    | some seatId => exact .folds seatId (by simp [appliedAction, hgen, hact])
  · rw [if_pos hgen]
    exact .waits st.turnScheduler (if_neg hgen)

theorem turnReminderElapsed_clock (generation : ℕ) :
    ClockResult env st (.turnReminderElapsed generation) (turnReminderElapsed st generation) := by
  unfold turnReminderElapsed
  split_ifs
  · exact .waits st.turnScheduler rfl
  · split
    · exact .waits st.turnScheduler rfl
    · exact .reminds st.turnScheduler _ rfl

theorem tickTurn_clock : ClockResult env st .schedulerTick (tickTurn env st) := by
  unfold tickTurn
  cases hact : st.state.snapshot.actingSeatId with
  | none => exact .waits none (by simp [appliedAction, hact])
  | some seatId =>
    have hsame : turnExpired env st seatId = false →
        appliedAction env st .schedulerTick = none := by
      intro h
      simp [appliedAction, hact, h]
    dsimp only
    by_cases hrun : st.state.snapshot.status = .running
    swap
    · rw [if_pos hrun]
      exact .waits none (hsame (by simp [turnExpired, hrun]))
    rw [if_neg (not_not_intro hrun)]
    cases hsched : st.turnScheduler with
    | none => exact .waits _ (hsame (by simp [turnExpired, hsched]))
    | some s =>
      dsimp only
      split_ifs with hstale hexpired hremind
      · refine .waits _ (hsame ?_)
        rcases hstale with h | h | h <;> simp [turnExpired, hsched, h]
      · refine .folds seatId ?_
        have hexp : turnExpired env st seatId = true := by
          simp only [not_or, not_not] at hstale
          simp [turnExpired, hrun, hsched, hstale, hexpired]
        simp [appliedAction, hact, hexp]
      · exact .reminds _ seatId (hsame (by simp [turnExpired, hsched, hexpired]))
      · exact .waits st.turnScheduler (hsame (by simp [turnExpired, hsched, hexpired]))

theorem ClockResult.effect {cmd : RoomCommand} {st' : RoomState Card}
    (h : ClockResult env st cmd st') : HandEffect env st cmd st'.state := by
  cases h with
  | waits _ hnone => exact .same hnone
  | reminds _ _ hnone =>
    rw [appendHandEvents_state]
    exact .same hnone
  | folds seatId happl =>
    rw [autoFold_state]
    exact .applied _ happl

theorem ClockResult.books {cmd : RoomCommand} {st' : RoomState Card}
    (h : ClockResult env st cmd st') : st'.books = st.books := by
  cases h with
  | waits => rfl
  | reminds => exact appendHandEvents_books _ _
  | folds seatId => exact autoFold_books st seatId

/-- **A command seats, deals, applies one action, ends the hand, or leaves the engine alone.** -/
theorem roomStep_effect (config : RoomActorConfig) (cmd : RoomCommand) :
    HandEffect env st cmd (roomStep config env st cmd).1.state := by
  cases cmd with
  | join seatId => exact .seat seatId rfl
  | leave seatId => exact .same rfl
  | bindAddress seatId address =>
    refine (?_ : (bindAddress st seatId address).state = st.state) ▸ .same rfl
    unfold bindAddress
    split_ifs <;> rfl
  | bindSessionKeys seatId card request algo proof =>
    refine (?_ : (bindSessionKeys st seatId card request algo).state = st.state) ▸ .same rfl
    unfold bindSessionKeys
    split_ifs <;> rfl
  | ready seatId => exact markReady_effect seatId
  | getState => exact .same rfl
  | getEngineState => exact .same rfl
  | getLegalActions seatId => exact .same rfl
  | getPrivateEvents seatId handId => exact .same rfl
  | act action =>
    rw [roomStep, applyAndEmit_state]
    exact .applied action rfl
  | queuePendingChainAction txHash action => exact .same rfl
  | chainTxVerified callback => exact chainTxVerified_effect callback
  | completeSettlement handId => exact completeSettlement_effect handId
  | turnTimeoutElapsed generation => exact (turnTimeoutElapsed_clock generation).effect
  | turnReminderElapsed generation => exact (turnReminderElapsed_clock generation).effect
  | schedulerTick => exact tickTurn_clock.effect

/-! ### The seats and the pending actions -/

theorem chainTxVerified_books (callback : ChainTxVerifiedCallback) :
    (chainTxVerified st callback).books = ⟨st.registers,
      pendingStep st.state.snapshot.handId st.pendingChainActions (.chainTxVerified callback)⟩ := by
  have habort : ∀ st : RoomState Card, (abortOnFailure st callback).books = st.books := by
    intro st
    unfold abortOnFailure
    split_ifs
    · exact closeRoomHand_books st .aborted
    · rfl
  show (abortOnFailure (applyMatched st callback) callback).books = _
  rw [habort, applyMatched, pendingStep]
  split_ifs with hmatch
  · cases hpend : st.pendingChainActions.lookup callback.txHash with
    | none =>
      refine congrArg (Books.mk st.registers) (AList.ext ?_)
      exact (List.kerase_of_notMem_keys (AList.lookup_eq_none.1 hpend)).symm
    | some action => exact applyAndEmit_books _ action
  · rfl

theorem markReady_books (seatId : SeatId) : (markReady env st seatId).books =
    ⟨registerStep st.registers (.ready seatId), st.pendingChainActions⟩ := by
  have hseats : st.registers.seated = st.seated := rfl
  rw [markReady, registerStep, hseats]
  split_ifs with hseat
  swap
  · rfl
  dsimp only
  split_ifs
  swap
  · rfl
  split
  · rfl
  · exact startHand_books env _ seatId

/-- **The seats of a room follow the commands alone**, and the pending actions the commands and the
current hand. -/
theorem roomStep_books (config : RoomActorConfig) (cmd : RoomCommand) :
    (roomStep config env st cmd).1.books = ⟨registerStep st.registers cmd,
      pendingStep st.state.snapshot.handId st.pendingChainActions cmd⟩ := by
  cases cmd with
  | join seatId => rfl
  | leave seatId => rfl
  | bindAddress seatId address =>
    show (bindAddress st seatId address).books = _
    have hseats : st.registers.seated = st.seated := rfl
    rw [bindAddress, registerStep, hseats]
    split_ifs <;> rfl
  | bindSessionKeys seatId card request algo proof =>
    show (bindSessionKeys st seatId card request algo).books = _
    have hseats : st.registers.seated = st.seated := rfl
    rw [bindSessionKeys, registerStep, hseats]
    split_ifs <;> rfl
  | ready seatId => exact markReady_books seatId
  | getState => rfl
  | getEngineState => rfl
  | getLegalActions seatId => rfl
  | getPrivateEvents seatId handId => rfl
  | act action => exact applyAndEmit_books st action
  | queuePendingChainAction txHash action => rfl
  | chainTxVerified callback => exact chainTxVerified_books callback
  | completeSettlement handId =>
    show (completeSettlement st handId).books = st.books
    unfold completeSettlement
    split_ifs
    · exact closeRoomHand_books st .settled
    · rfl
  | turnTimeoutElapsed generation =>
    have hclock : ClockResult env st (.turnTimeoutElapsed generation) _ :=
      turnTimeoutElapsed_clock generation
    exact hclock.books
  | turnReminderElapsed generation =>
    have hclock : ClockResult env st (.turnReminderElapsed generation) _ :=
      turnReminderElapsed_clock generation
    exact hclock.books
  | schedulerTick => exact tickTurn_clock.books

theorem roomStep_registers (config : RoomActorConfig) (cmd : RoomCommand) :
    (roomStep config env st cmd).1.registers = registerStep st.registers cmd :=
  congrArg Books.registers (roomStep_books config cmd)

/-- A matched callback of the current hand takes its pending action out, accepted or not. -/
theorem chainTxVerified_pending (callback : ChainTxVerifiedCallback) :
    (chainTxVerified st callback).pendingChainActions =
      if callback.status = "matched" ∧ callback.handId = some st.state.snapshot.handId then
        st.pendingChainActions.erase callback.txHash
      else st.pendingChainActions :=
  congrArg Books.pendingChainActions (chainTxVerified_books callback)

/-- The other commands leave the pending actions alone. -/
theorem roomStep_pending (config : RoomActorConfig) {cmd : RoomCommand}
    (htouch : touchesPending cmd = false) :
    (roomStep config env st cmd).1.pendingChainActions = st.pendingChainActions := by
  have hpending : (roomStep config env st cmd).1.pendingChainActions =
      pendingStep st.state.snapshot.handId st.pendingChainActions cmd :=
    congrArg Books.pendingChainActions (roomStep_books config cmd)
  rw [hpending]
  cases cmd <;> first | rfl | cases htouch

theorem applyAndEmit_seats (action : PlayerAction) : SameSeats st (applyAndEmit st action).1 :=
  sameSeats_of_books (applyAndEmit_books st action)

theorem markReady_seats (seatId : SeatId) : SameSeats st (markReady env st seatId) := by
  have hregisters : (markReady env st seatId).registers = registerStep st.registers (.ready seatId) :=
    congrArg Books.registers (markReady_books seatId)
  rw [registerStep] at hregisters
  split_ifs at hregisters
  · exact ⟨congrArg Registers.boundAddresses hregisters, congrArg Registers.cardPubkeys hregisters⟩
  · exact ⟨congrArg Registers.boundAddresses hregisters, congrArg Registers.cardPubkeys hregisters⟩

/-! ### The engine's invariants in a room -/

theorem HandEffect.engineInv {cmd : RoomCommand} {st' : EngineState Card}
    (h : HandEffect env st cmd st') (hinv : EngineInv st.state) : EngineInv st' := by
  cases h with
  | same => exact hinv
  | seat seatId => exact engineInv_step st.state (.seatPlayer seatId) hinv
  | deal seatId => exact engineInv_step st.state (.deal env.newHandId env.deck) hinv
  | applied action => exact engineInv_step st.state (.act action) hinv
  | aborted => exact engineInv_endHand hinv .aborted
  | completed => exact engineInv_endHand hinv .settled

theorem engineInv_roomStep (config : RoomActorConfig) (cmd : RoomCommand)
    (hinv : EngineInv st.state) : EngineInv (roomStep config env st cmd).1.state :=
  (roomStep_effect config cmd).engineInv hinv

theorem HandEffect.turnCopies {cmd : RoomCommand} {st' : EngineState Card}
    (h : HandEffect env st cmd st') (hinv : EngineInv st.state) (hcopies : TurnCopies st.state) :
    TurnCopies st' := by
  cases h with
  | same => exact hcopies
  | seat seatId => exact hcopies.seatPlayer seatId
  | deal seatId => exact hcopies.deal env.newHandId env.deck
  | applied action => exact hcopies.applyAction hinv.pot action
  | aborted => exact turnCopies_endHand hcopies (by simp)
  | completed => exact turnCopies_endHand hcopies (by simp)

end

/-! ### A table of two -/

/-- Commands with what the room reads while it handles them. -/
abbrev RoomInput (Card : Type) := RoomEnv Card × RoomCommand

def roomRunStep [RsPoker Card] (config : RoomActorConfig) (st : RoomState Card)
    (input : RoomInput Card) : RoomState Card :=
  (roomStep config input.1 st input.2).1

/-- What holds of the engine state in every room. -/
structure RoomInv (st : RoomState Card) : Prop where
  engine : EngineInv st.state
  copies : TurnCopies st.state

theorem roomInv_spawn (roomId : RoomId) (handId : HandId) :
    RoomInv (RoomState.spawn roomId handId : RoomState Card) :=
  ⟨engineInv_spawn roomId handId, turnCopies_new roomId 1 handId⟩

theorem roomInv_step [RsPoker Card] (config : RoomActorConfig) (st : RoomState Card)
    (input : RoomInput Card) (h : RoomInv st) : RoomInv (roomRunStep config st input) :=
  ⟨engineInv_roomStep config input.2 h.engine,
    (roomStep_effect config input.2).turnCopies h.engine h.copies⟩

theorem roomInv_run [RsPoker Card] (config : RoomActorConfig) {st : RoomState Card}
    (h : RoomInv st) (inputs : List (RoomInput Card)) :
    RoomInv (run (roomRunStep config) st inputs) :=
  run_inv RoomInv (roomInv_step config) inputs h

/-- **The copies of the turn agree in every state a room can reach**, and a seat has the turn exactly
while the hand runs. -/
theorem turn_copies_agree [RsPoker Card] (config : RoomActorConfig) (roomId : RoomId)
    (handId : HandId) (inputs : List (RoomInput Card)) :
    TurnCopies (run (roomRunStep config) (RoomState.spawn roomId handId) inputs).state :=
  (roomInv_run config (roomInv_spawn roomId handId) inputs).copies

/-- The surroundings of the concrete runs: hands dealt from `royalDeck`, and an empty chain. -/
def tableEnv : RoomEnv ByteCard where
  now := 0
  newHandId := ⟨1⟩
  deck := royalDeck
  sealHoleCards := fun _ _ _ => none
  getTx := fun _ => .ok none

/-- Two seats sit down, bind their addresses and keys and are ready; the hand is dealt. -/
def openTable : List RoomCommand :=
  [.join 0, .join 1, .bindAddress 0 "0xa", .bindAddress 1 "0xb",
    .bindSessionKeys 0 "c0" "r0" "x25519+evm" "p0", .bindSessionKeys 1 "c1" "r1" "x25519+evm" "p1",
    .ready 0, .ready 1]

/-- The room in which the hand was just dealt; seat `0` has the small blind and the turn. -/
def tableRoom : RoomState ByteCard :=
  run (roomRunStep {}) (RoomState.spawn ⟨0⟩ ⟨0⟩) (openTable.map fun cmd => (tableEnv, cmd))

/-- The action a seat of that hand takes. -/
def tableAction (actionSeq : ℕ) (seatId : SeatId) (actionType : ActionType)
    (amount : Option Chips) : PlayerAction :=
  { roomId := ⟨0⟩, handId := ⟨1⟩, actionSeq, seatId, actionType, amount }

end HoldemPlatform.Room.Effect
