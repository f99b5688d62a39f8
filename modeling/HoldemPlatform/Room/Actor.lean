import HoldemPlatform.Chain.Watcher
import HoldemPlatform.Engine.Run

/-!
# The Room Actor

One room is one actor: it owns the engine state and the seat bindings and handles its commands one
after the other. `roomStep` is one turn of its loop. What the actor asks of its surroundings while it
handles a command (the clock, a fresh hand identifier, a shuffled deck, the sealed hole cards, the
node's answer for a transaction) is the argument `RoomEnv`; what the event sink receives is kept in
`SinkLog`, and the callbacks a tick sends to the actor itself are part of the output. Log lines, and
the two time stamps of a pending action that only decide about one, are left out.
-/

namespace HoldemPlatform.Room.Actor

open HoldemPlatform.Lib.FiniteMap HoldemPlatform.Domain.Money HoldemPlatform.Domain.Game
open HoldemPlatform.Engine.State HoldemPlatform.Engine.Deal HoldemPlatform.Engine.Action
open HoldemPlatform.Chain.Watcher

/-- Milliseconds. -/
abbrev Instant := ℕ

def DEFAULT_STEP_TIMEOUT : ℕ := 360000

def TURN_REMINDER_INTERVAL : ℕ := 20000

structure RoomActorConfig where
  chainVerifyRpcEndpoint : Option String := none
  chainVerifyMinConfirmations : ℕ := 1
deriving DecidableEq

structure ChainTxVerifiedCallback where
  txHash : String
  status : String
  confirmations : ℕ
  handId : Option HandId
  seatId : Option SeatId
  actionSeq : Option ActionSeq
  failureReason : Option String
deriving DecidableEq

inductive RoomCommand where
  | join (seatId : SeatId)
  | leave (seatId : SeatId)
  | bindAddress (seatId : SeatId) (seatAddress : String)
  | bindSessionKeys (seatId : SeatId) (cardEncryptPubkey requestVerifyPubkey keyAlgo
      proofSignature : String)
  | ready (seatId : SeatId)
  | getState
  | getEngineState
  | getLegalActions (seatId : SeatId)
  | getPrivateEvents (seatId : SeatId) (handId : Option HandId)
  | act (action : PlayerAction)
  | queuePendingChainAction (txHash : String) (action : PlayerAction)
  | chainTxVerified (callback : ChainTxVerifiedCallback)
  | completeSettlement (handId : HandId)
  | turnTimeoutElapsed (expectedGeneration : ℕ)
  | turnReminderElapsed (expectedGeneration : ℕ)
  | schedulerTick
deriving DecidableEq

structure TurnSchedulerState where
  handId : HandId
  actionSeq : ActionSeq
  seatId : SeatId
  startedAt : Instant
  lastReminderAt : Option Instant
deriving DecidableEq

inductive AuditBehaviorEventKind where
  | seatJoined (seatId : SeatId)
  | seatLeft (seatId : SeatId)
  | seatAddressBound (seatId : SeatId)
  | seatSessionKeysBound (seatId : SeatId) (keyAlgo : String)
  | turnTimeoutAutoFold (seatId : SeatId) (actionSeq : ActionSeq)
  | chainTxVerificationCallback (seatId : Option SeatId) (actionSeq : Option ActionSeq)
      (txHash status : String) (confirmations : ℕ) (failureReason : Option String)
deriving DecidableEq

/-- A private event of a seat; the payload is the text of the sealed cards. -/
structure SeatPrivateEvent where
  roomId : RoomId
  handId : HandId
  seatId : SeatId
  eventName : String
  payload : String
deriving DecidableEq

/-- What a sealed payload is bound to. -/
structure SeatEventAad where
  roomId : RoomId
  handId : HandId
  seatId : SeatId
  eventSeq : ℕ
deriving DecidableEq

/-- What the event sink has received. -/
structure SinkLog where
  snapshots : List HandSnapshot := []
  handEvents : List HandEvent := []
  behaviorEvents : List AuditBehaviorEventKind := []
  privateEvents : List SeatPrivateEvent := []
deriving DecidableEq

structure RoomState (Card : Type) where
  roomId : RoomId
  state : EngineState Card
  seated : Finset SeatId := ∅
  ready : Finset SeatId := ∅
  boundAddresses : HashMap SeatId String := ∅
  requestPubkeys : HashMap SeatId String := ∅
  cardPubkeys : HashMap SeatId String := ∅
  pendingChainActions : HashMap String PlayerAction := ∅
  privateEvents : List SeatPrivateEvent := []
  timeoutGeneration : ℕ := 0
  nextHandEventSeq : ℕ := 1
  turnScheduler : Option TurnSchedulerState := none
  sink : SinkLog := {}

/-- The surroundings of one command. -/
structure RoomEnv (Card : Type) where
  now : Instant
  newHandId : HandId
  deck : List Card
  /-- The sealed cards for a registered key, if the key is well formed. -/
  sealHoleCards : String → SeatEventAad → ℕ × ℕ → Option String
  getTx : String → Except String (Option ObservedTx)

inductive RoomReply (Card : Type) where
  | state (snapshot : HandSnapshot)
  | engineState (state : EngineState Card)
  | legalActions (actions : List LegalAction)
  | privateEvents (events : List SeatPrivateEvent)
  | acted (result : Except String EngineActionResult)
  | queued

/-- What a command gives back: a reply, and the callbacks sent to the actor itself. -/
structure RoomOutput (Card : Type) where
  reply : Option (RoomReply Card) := none
  callbacks : List ChainTxVerifiedCallback := []

variable {Card : Type}

def RoomState.spawn (roomId : RoomId) (handId : HandId) : RoomState Card where
  roomId := roomId
  state := EngineState.new roomId 1 handId

/-! ### Events -/

def recordBehaviorEvent (st : RoomState Card) (kind : AuditBehaviorEventKind) : RoomState Card :=
  { st with sink := { st.sink with behaviorEvents := st.sink.behaviorEvents ++ [kind] } }

def upsertHandSnapshot (st : RoomState Card) : RoomState Card :=
  { st with sink := { st.sink with snapshots := st.sink.snapshots ++ [st.state.snapshot] } }

/-- `new_hand_event` and its place in the log: the sequence number moves on by one. -/
def appendHandEvent (st : RoomState Card) (kind : HandEventKind) : RoomState Card :=
  { st with
    nextHandEventSeq := saturatingAdd 32 st.nextHandEventSeq 1
    sink := { st.sink with
      handEvents := st.sink.handEvents ++
        [{ roomId := st.roomId, handId := st.state.snapshot.handId,
           eventSeq := st.nextHandEventSeq, kind }] } }

def appendHandEvents (st : RoomState Card) (kinds : List HandEventKind) : RoomState Card :=
  kinds.foldl appendHandEvent st

def bumpGeneration (st : RoomState Card) : RoomState Card :=
  { st with timeoutGeneration := saturatingAdd 64 st.timeoutGeneration 1 }

def clearScheduler (st : RoomState Card) : RoomState Card := { st with turnScheduler := none }

def emittedKinds (st : EngineState Card) (submittedAction : PlayerAction)
    (engineResult : EngineActionResult) : List HandEventKind :=
  [.actionAccepted submittedAction, .potUpdated st.snapshot.potTotal] ++
    (engineResult.streetChanged.map .streetChanged).toList ++
    (match st.snapshot.actingSeatId with
      | some nextSeatId => [.turnStarted nextSeatId]
      | none =>
        if st.snapshot.status = .settled ∨ st.snapshot.status = .aborted then [.handClosed] else [])

def emitPostActionHandEvents (st : RoomState Card) (submittedAction : PlayerAction)
    (engineResult : EngineActionResult) : RoomState Card :=
  let emitted := appendHandEvents st (emittedKinds st.state submittedAction engineResult)
  if st.state.snapshot.actingSeatId.isSome ∨ st.state.snapshot.status = .settled ∨
      st.state.snapshot.status = .aborted then bumpGeneration emitted
  else emitted

def buildHoleCardsPrivateEvents [RsPoker Card] (env : RoomEnv Card) (st : EngineState Card)
    (cardPubkeys : HashMap SeatId String) (eventSeq : ℕ) : List SeatPrivateEvent :=
  match st.dealing with
  | none => []
  | some dealing =>
    (pairs dealing.holeCards).filterMap fun (seatId, cards) => do
      let pubkeyHex ← cardPubkeys.lookup seatId
      let aad := { roomId := st.snapshot.roomId, handId := st.snapshot.handId, seatId, eventSeq }
      let payload ← env.sealHoleCards pubkeyHex aad (RsPoker.toU8 cards.1, RsPoker.toU8 cards.2)
      some { roomId := st.snapshot.roomId, handId := st.snapshot.handId, seatId,
             eventName := "hole_cards_dealt", payload }

/-! ### The handlers -/

def join (st : RoomState Card) (seatId : SeatId) : RoomState Card :=
  recordBehaviorEvent
    { st with
      seated := insert seatId st.seated
      state := st.state.seatPlayer seatId
      ready := st.ready.erase seatId } (.seatJoined seatId)

def leave (st : RoomState Card) (seatId : SeatId) : RoomState Card :=
  recordBehaviorEvent
    { st with
      seated := st.seated.erase seatId
      ready := st.ready.erase seatId
      boundAddresses := st.boundAddresses.erase seatId } (.seatLeft seatId)

def bindAddress (st : RoomState Card) (seatId : SeatId) (seatAddress : String) : RoomState Card :=
  if seatId ∈ st.seated then
    recordBehaviorEvent { st with boundAddresses := st.boundAddresses.insert seatId seatAddress }
      (.seatAddressBound seatId)
  else st

def bindSessionKeys (st : RoomState Card) (seatId : SeatId)
    (cardEncryptPubkey requestVerifyPubkey keyAlgo : String) : RoomState Card :=
  if seatId ∈ st.seated then
    recordBehaviorEvent
      { st with
        cardPubkeys := st.cardPubkeys.insert seatId cardEncryptPubkey
        requestPubkeys := st.requestPubkeys.insert seatId requestVerifyPubkey }
      (.seatSessionKeysBound seatId keyAlgo)
  else st

/-- The ready seats with an address and both keys. -/
def eligibleReady (st : RoomState Card) : Finset SeatId :=
  st.ready.filter fun s => s ∈ st.boundAddresses ∧ s ∈ st.cardPubkeys ∧ s ∈ st.requestPubkeys

/-- The announcements of a hand that was just dealt. -/
def startHand [RsPoker Card] (env : RoomEnv Card) (st : RoomState Card) (seatId : SeatId) :
    RoomState Card :=
  let newPrivateEvents := buildHoleCardsPrivateEvents env st.state st.cardPubkeys st.nextHandEventSeq
  let recorded :=
    { upsertHandSnapshot st with
      privateEvents := st.privateEvents ++ newPrivateEvents
      sink := { (upsertHandSnapshot st).sink with
        privateEvents := st.sink.privateEvents ++ newPrivateEvents } }
  clearScheduler (bumpGeneration (appendHandEvents recorded
    [.handStarted, .turnStarted (st.state.snapshot.actingSeatId.getD seatId)]))

/-- `Ready`: with two eligible seats and no seat to act the next hand is dealt. -/
def markReady [RsPoker Card] (env : RoomEnv Card) (st : RoomState Card) (seatId : SeatId) :
    RoomState Card :=
  if seatId ∈ st.seated then
    let marked := { st with ready := insert seatId st.ready }
    if marked.state.snapshot.actingSeatId = none ∧ 2 ≤ (eligibleReady marked).card then
      match dealNewHandInternalWithDeck st.state env.newHandId env.deck with
      | (state, .error _) => { marked with state }
      | (state, .ok ()) => startHand env { marked with state } seatId
    else marked
  else st

/-- An action is applied; if it is accepted the room announces it. -/
def applyAndEmit [RsPoker Card] (st : RoomState Card) (action : PlayerAction) :
    RoomState Card × Except String EngineActionResult :=
  match applyAction st.state action with
  | (state, .error e) => ({ st with state }, .error e.text)
  | (state, .ok result) =>
    (clearScheduler
      (emitPostActionHandEvents (upsertHandSnapshot { st with state }) action result), .ok result)

def queuePendingChainAction (st : RoomState Card) (txHash : String) (action : PlayerAction) :
    RoomState Card :=
  recordBehaviorEvent
    { st with pendingChainActions := st.pendingChainActions.insert txHash action }
    (.chainTxVerificationCallback none none txHash "pending_action_queued" 0 none)

/-- The engine state with nobody to act and the hand ended in `status`. -/
def endHand (st : EngineState Card) (status : HandStatus) : EngineState Card :=
  EngineState.setActing { st with snapshot := { st.snapshot with status } } none

def closeRoomHand (st : RoomState Card) (status : HandStatus) : RoomState Card :=
  clearScheduler (bumpGeneration
    (appendHandEvents { st with state := endHand st.state status } [.handClosed]))

/-- The matched half of a callback: the pending action is taken out, then applied. -/
def applyMatched [RsPoker Card] (st : RoomState Card) (callback : ChainTxVerifiedCallback) :
    RoomState Card :=
  if callback.status = "matched" ∧ callback.handId = some st.state.snapshot.handId then
    match st.pendingChainActions.lookup callback.txHash with
    | none => st
    | some action =>
      (applyAndEmit
        { st with pendingChainActions := st.pendingChainActions.erase callback.txHash } action).1
  else st

/-- The failed half of a callback: it aborts a hand that is under way. -/
def abortOnFailure (st : RoomState Card) (callback : ChainTxVerifiedCallback) : RoomState Card :=
  if (callback.status = "failed" ∨ callback.status = "unmatched") ∧
      callback.handId = some st.state.snapshot.handId ∧
      (st.state.snapshot.status = .running ∨ st.state.snapshot.status = .showdown ∨
        st.state.snapshot.status = .settling) then closeRoomHand st .aborted
  else st

def chainTxVerified [RsPoker Card] (st : RoomState Card) (callback : ChainTxVerifiedCallback) :
    RoomState Card :=
  recordBehaviorEvent (abortOnFailure (applyMatched st callback) callback)
    (.chainTxVerificationCallback callback.seatId callback.actionSeq callback.txHash callback.status
      callback.confirmations callback.failureReason)

def completeSettlement (st : RoomState Card) (handId : HandId) : RoomState Card :=
  if handId = st.state.snapshot.handId ∧
      (st.state.snapshot.status = .showdown ∨ st.state.snapshot.status = .settling) then
    closeRoomHand st .settled
  else st

/-- The fold made for a seat whose time is up. -/
def autoFoldAction (st : RoomState Card) (seatId : SeatId) : PlayerAction where
  roomId := st.roomId
  handId := st.state.snapshot.handId
  actionSeq := st.state.snapshot.nextActionSeq
  seatId := seatId
  actionType := .fold
  amount := none

def autoFold [RsPoker Card] (st : RoomState Card) (seatId : SeatId) : RoomState Card :=
  let folded :=
    match applyAndEmit st (autoFoldAction st seatId) with
    | (st', .ok _) => st'
    | (st', .error _) => clearScheduler (bumpGeneration st')
  recordBehaviorEvent folded
    (.turnTimeoutAutoFold seatId (folded.state.snapshot.nextActionSeq - 1))

def turnTimeoutElapsed [RsPoker Card] (st : RoomState Card) (expectedGeneration : ℕ) :
    RoomState Card :=
  if expectedGeneration ≠ st.timeoutGeneration then st
  else
    match st.state.snapshot.actingSeatId with
    | none => st
    | some seatId => autoFold st seatId

def turnReminderElapsed (st : RoomState Card) (expectedGeneration : ℕ) : RoomState Card :=
  if expectedGeneration ≠ st.timeoutGeneration then st
  else
    match st.state.snapshot.actingSeatId with
    | none => st
    | some seatId => appendHandEvents st [.turnStarted seatId]

/-! ### The scheduler tick -/

/-- The room's own verdict on an observed transaction, with the reason of a failure. -/
def inlineVerdict (config : RoomActorConfig) (observed : ObservedTx) : String × Option String :=
  if observed.success = false then ("failed", some "tx_failed")
  else if observed.confirmations < config.chainVerifyMinConfirmations then ("pending", none)
  else ("matched", none)

/-- The callback a tick sends for one pending action. -/
def tickCallback (config : RoomActorConfig) (env : RoomEnv Card) (txHash : String)
    (action : PlayerAction) : Option ChainTxVerifiedCallback :=
  match env.getTx txHash with
  | .error _ => none
  | .ok none => none
  | .ok (some observed) =>
    if (inlineVerdict config observed).1 = "pending" then none
    else some
      { txHash, status := (inlineVerdict config observed).1
        confirmations := observed.confirmations
        handId := some action.handId, seatId := some action.seatId
        actionSeq := some action.actionSeq
        failureReason := (inlineVerdict config observed).2 }

/-- The callbacks of a tick, one for each pending action the node has settled. -/
def tickCallbacks (config : RoomActorConfig) (env : RoomEnv Card) (st : RoomState Card) :
    List ChainTxVerifiedCallback :=
  if config.chainVerifyRpcEndpoint = none then []
  else (pairs st.pendingChainActions).filterMap fun p => tickCallback config env p.1 p.2

def remindDue (now : Instant) (s : TurnSchedulerState) : Prop :=
  TURN_REMINDER_INTERVAL ≤ now - s.lastReminderAt.getD s.startedAt

instance (now : Instant) (s : TurnSchedulerState) : Decidable (remindDue now s) :=
  inferInstanceAs (Decidable (_ ≤ _))

/-- The turn half of a tick: a new turn starts its clock, an old one is reminded or folded. -/
def tickTurn [RsPoker Card] (env : RoomEnv Card) (st : RoomState Card) : RoomState Card :=
  match st.state.snapshot.actingSeatId with
  | none => clearScheduler st
  | some seatId =>
    if st.state.snapshot.status ≠ .running then clearScheduler st
    else
      let fresh : TurnSchedulerState :=
        { handId := st.state.snapshot.handId, actionSeq := st.state.snapshot.nextActionSeq, seatId,
          startedAt := env.now, lastReminderAt := none }
      match st.turnScheduler with
      | none => { st with turnScheduler := some fresh }
      | some s =>
        if s.handId ≠ fresh.handId ∨ s.actionSeq ≠ fresh.actionSeq ∨ s.seatId ≠ seatId then
          { st with turnScheduler := some fresh }
        else if DEFAULT_STEP_TIMEOUT ≤ env.now - s.startedAt then autoFold st seatId
        else if remindDue env.now s then
          appendHandEvents
            { st with turnScheduler := some { s with lastReminderAt := some env.now } }
            [.turnStarted seatId]
        else st

/-- One turn of the actor's loop. -/
def roomStep [RsPoker Card] (config : RoomActorConfig) (env : RoomEnv Card) (st : RoomState Card) :
    RoomCommand → RoomState Card × RoomOutput Card
  | .join seatId => (join st seatId, {})
  | .leave seatId => (leave st seatId, {})
  | .bindAddress seatId seatAddress => (bindAddress st seatId seatAddress, {})
  | .bindSessionKeys seatId cardEncryptPubkey requestVerifyPubkey keyAlgo _ =>
    (bindSessionKeys st seatId cardEncryptPubkey requestVerifyPubkey keyAlgo, {})
  | .ready seatId => (markReady env st seatId, {})
  | .getState => (st, { reply := some (.state st.state.snapshot) })
  | .getEngineState => (st, { reply := some (.engineState st.state) })
  | .getLegalActions seatId => (st, { reply := some (.legalActions (legalActions st.state seatId)) })
  | .getPrivateEvents seatId handId =>
    (st, { reply := some (.privateEvents (st.privateEvents.filter fun ev =>
      ev.seatId = seatId ∧ (handId = none ∨ handId = some ev.handId))) })
  | .act action =>
    ((applyAndEmit st action).1, { reply := some (.acted (applyAndEmit st action).2) })
  | .queuePendingChainAction txHash action =>
    (queuePendingChainAction st txHash action, { reply := some .queued })
  | .chainTxVerified callback => (chainTxVerified st callback, {})
  | .completeSettlement handId => (completeSettlement st handId, {})
  | .turnTimeoutElapsed expectedGeneration => (turnTimeoutElapsed st expectedGeneration, {})
  | .turnReminderElapsed expectedGeneration => (turnReminderElapsed st expectedGeneration, {})
  | .schedulerTick => (tickTurn env st, { callbacks := tickCallbacks config env st })

/-! ### What the handlers leave of the state -/

/-- What a room knows about its seats. -/
structure Registers where
  seated : Finset SeatId := ∅
  ready : Finset SeatId := ∅
  boundAddresses : HashMap SeatId String := ∅
  requestPubkeys : HashMap SeatId String := ∅
  cardPubkeys : HashMap SeatId String := ∅

/-- What a room keeps beside the engine state and the log of its events. -/
structure Books where
  registers : Registers
  pendingChainActions : HashMap String PlayerAction

def RoomState.registers (st : RoomState Card) : Registers :=
  ⟨st.seated, st.ready, st.boundAddresses, st.requestPubkeys, st.cardPubkeys⟩

def RoomState.books (st : RoomState Card) : Books := ⟨st.registers, st.pendingChainActions⟩

@[simp] theorem appendHandEvents_state (st : RoomState Card) :
    ∀ kinds : List HandEventKind, (appendHandEvents st kinds).state = st.state := by
  intro kinds
  induction kinds generalizing st with
  | nil => rfl
  | cons kind kinds ih => exact ih (appendHandEvent st kind)

@[simp] theorem appendHandEvents_books (st : RoomState Card) :
    ∀ kinds : List HandEventKind, (appendHandEvents st kinds).books = st.books := by
  intro kinds
  induction kinds generalizing st with
  | nil => rfl
  | cons kind kinds ih => exact ih (appendHandEvent st kind)

@[simp] theorem emitPostActionHandEvents_state (st : RoomState Card) (action : PlayerAction)
    (result : EngineActionResult) :
    (emitPostActionHandEvents st action result).state = st.state := by
  unfold emitPostActionHandEvents
  dsimp only
  split_ifs
  · exact appendHandEvents_state st _
  · exact appendHandEvents_state st _

@[simp] theorem emitPostActionHandEvents_books (st : RoomState Card) (action : PlayerAction)
    (result : EngineActionResult) :
    (emitPostActionHandEvents st action result).books = st.books := by
  unfold emitPostActionHandEvents
  dsimp only
  split_ifs
  · exact appendHandEvents_books st _
  · exact appendHandEvents_books st _

@[simp] theorem applyAndEmit_state [RsPoker Card] (st : RoomState Card) (action : PlayerAction) :
    (applyAndEmit st action).1.state = (applyAction st.state action).1 := by
  unfold applyAndEmit
  split
  · rename_i h
    rw [h]
  · rename_i h
    rw [h]
    exact emitPostActionHandEvents_state _ _ _

@[simp] theorem applyAndEmit_books [RsPoker Card] (st : RoomState Card) (action : PlayerAction) :
    (applyAndEmit st action).1.books = st.books := by
  unfold applyAndEmit
  split
  · rfl
  · exact emitPostActionHandEvents_books _ _ _

@[simp] theorem closeRoomHand_state (st : RoomState Card) (status : HandStatus) :
    (closeRoomHand st status).state = endHand st.state status :=
  appendHandEvents_state _ _

@[simp] theorem closeRoomHand_books (st : RoomState Card) (status : HandStatus) :
    (closeRoomHand st status).books = st.books :=
  appendHandEvents_books _ _

@[simp] theorem autoFold_state [RsPoker Card] (st : RoomState Card) (seatId : SeatId) :
    (autoFold st seatId).state = (applyAction st.state (autoFoldAction st seatId)).1 := by
  unfold autoFold
  rw [← applyAndEmit_state]
  cases h : applyAndEmit st (autoFoldAction st seatId) with
  | mk st' r => cases r <;> rfl

@[simp] theorem autoFold_books [RsPoker Card] (st : RoomState Card) (seatId : SeatId) :
    (autoFold st seatId).books = st.books := by
  unfold autoFold
  rw [← applyAndEmit_books st (autoFoldAction st seatId)]
  cases h : applyAndEmit st (autoFoldAction st seatId) with
  | mk st' r => cases r <;> rfl

@[simp] theorem startHand_state [RsPoker Card] (env : RoomEnv Card) (st : RoomState Card)
    (seatId : SeatId) : (startHand env st seatId).state = st.state :=
  appendHandEvents_state _ _

@[simp] theorem startHand_books [RsPoker Card] (env : RoomEnv Card) (st : RoomState Card)
    (seatId : SeatId) : (startHand env st seatId).books = st.books :=
  appendHandEvents_books _ _

end HoldemPlatform.Room.Actor
