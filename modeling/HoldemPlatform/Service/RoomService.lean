import HoldemPlatform.Chain.TxRepo
import HoldemPlatform.Gateway.Requests
import HoldemPlatform.Room.Effect

/-!
# The Room Service

`AppRoomService` keeps the rooms, who joined them, the bound addresses and the transaction repository.
A request that reaches a room is handled by the room's actor in the order of its mailbox; here it is
handled at once, and everything the rooms do by themselves (timers, ticks, callbacks of their own
verification, settlement) is a step of its own that may come at any time. The chain callback sink
writes verifications and exception credits and passes the callback on to the room.
-/

namespace HoldemPlatform.Service.RoomService

open HoldemPlatform.Lib.FiniteMap HoldemPlatform.Domain.Money HoldemPlatform.Domain.Game
open HoldemPlatform.Engine.State HoldemPlatform.Chain.Watcher HoldemPlatform.Chain.TxRepo
open HoldemPlatform.Room.Actor HoldemPlatform.Gateway.Requests

variable {Card : Type}

structure AppRoomService (Card : Type) where
  rooms : HashMap RoomId (RoomState Card) := ∅
  joinedSeats : HashMap RoomId (Finset SeatId) := ∅
  boundAddresses : HashMap RoomId (HashMap SeatId String) := ∅
  chainTxRepo : ChainTxRepo := {}

/-- `ensure_room`; `handId` is the identifier a new room starts with. -/
def ensureRoom (svc : AppRoomService Card) (roomId : RoomId) (handId : HandId) :
    AppRoomService Card :=
  if roomId ∈ svc.rooms then svc
  else { svc with rooms := svc.rooms.insert roomId (RoomState.spawn roomId handId) }

def boundSeatAddress (svc : AppRoomService Card) (roomId : RoomId) (seatId : SeatId) :
    Option String :=
  (svc.boundAddresses.lookup roomId).bind fun addresses => addresses.lookup seatId

def ensureJoined (svc : AppRoomService Card) (roomId : RoomId) (seatId : SeatId) :
    Except RpcGatewayError Unit :=
  if seatId ∈ (svc.joinedSeats.lookup roomId).getD ∅ then .ok ()
  else .error (.upstream
    ("seat " ++ toString seatId.val ++ " must call room.join before bind/ready"))

section

variable [RsPoker Card] (config : RoomActorConfig) (env : RoomEnv Card)

def tellRoom (svc : AppRoomService Card) (roomId : RoomId) (room : RoomState Card) (cmd : RoomCommand) :
    AppRoomService Card :=
  { svc with rooms := svc.rooms.insert roomId (roomStep config env room cmd).1 }

def AppRoomService.join (svc : AppRoomService Card) (request : RoomReadyRequest) :
    AppRoomService Card × Except RpcGatewayError Unit :=
  match svc.rooms.lookup request.roomId with
  | none => (svc, .error .roomNotFound)
  | some room =>
    ({ tellRoom config env svc request.roomId room (.join request.seatId) with
        joinedSeats := svc.joinedSeats.insert request.roomId
          (insert request.seatId ((svc.joinedSeats.lookup request.roomId).getD ∅)) }, .ok ())

def AppRoomService.ready (svc : AppRoomService Card) (request : RoomReadyRequest) :
    AppRoomService Card × Except RpcGatewayError Unit :=
  match ensureJoined svc request.roomId request.seatId with
  | .error e => (svc, .error e)
  | .ok () =>
    match svc.rooms.lookup request.roomId with
    | none => (svc, .error .roomNotFound)
    | some room => (tellRoom config env svc request.roomId room (.ready request.seatId), .ok ())

def AppRoomService.bindAddress (svc : AppRoomService Card) (request : RoomBindAddressRequest) :
    AppRoomService Card × Except RpcGatewayError Unit :=
  match ensureJoined svc request.roomId request.seatId with
  | .error e => (svc, .error e)
  | .ok () =>
    match svc.rooms.lookup request.roomId with
    | none => (svc, .error .roomNotFound)
    | some room =>
      ({ tellRoom config env svc request.roomId room
            (.bindAddress request.seatId request.seatAddress) with
          boundAddresses := svc.boundAddresses.insert request.roomId
            (((svc.boundAddresses.lookup request.roomId).getD ∅).insert request.seatId
              request.seatAddress) }, .ok ())

def AppRoomService.bindSessionKeys (svc : AppRoomService Card) (request : RoomBindSessionKeysRequest) :
    AppRoomService Card × Except RpcGatewayError Unit :=
  match ensureJoined svc request.roomId request.seatId with
  | .error e => (svc, .error e)
  | .ok () =>
    match svc.rooms.lookup request.roomId with
    | none => (svc, .error .roomNotFound)
    | some room =>
      (tellRoom config env svc request.roomId room
        (.bindSessionKeys request.seatId request.cardEncryptPubkey request.requestVerifyPubkey
          request.keyAlgo request.proofSignature), .ok ())

/-- The binding `act` records for a transaction. -/
def actBinding (request : GameActRequest) (txHash : String) (action : PlayerAction) :
    TxBindingInsert where
  txHash := txHash
  roomId := request.roomId
  handId := request.handId
  seatId := request.seatId
  actionSeq := request.actionSeq
  expectedAmount := action.amount
  bindingStatus := "submitted"

/-- `act`: with a transaction the action is bound and queued, without one it is applied. -/
def AppRoomService.act (svc : AppRoomService Card) (request : GameActRequest) :
    AppRoomService Card × Except RpcGatewayError Unit :=
  match svc.rooms.lookup request.roomId with
  | none => (svc, .error .roomNotFound)
  | some room =>
    match toPlayerAction request with
    | .error e => (svc, .error e)
    | .ok action =>
      match request.txHash with
      | some txHash =>
        match svc.chainTxRepo.insertTxBinding (actBinding request txHash action) with
        | .error e => (svc, .error (.upstream e.text))
        | .ok chainTxRepo =>
          ({ tellRoom config env svc request.roomId room (.queuePendingChainAction txHash action) with
              chainTxRepo }, .ok ())
      | none =>
        (tellRoom config env svc request.roomId room (.act action),
          match (applyAndEmit room action).2 with
          | .error e => .error (.upstream e)
          | .ok _ => .ok ())

/-! ### The chain callback sink -/

/-- `format!("{:?}", status).to_lowercase()`. -/
def statusText : VerificationStatus → String
  | .pending => "pending"
  | .matched => "matched"
  | .late => "late"
  | .unmatched => "unmatched"
  | .failed => "failed"

/-- The callback the sink passes on. -/
def roomCallback (callback : TxVerificationCallback) : ChainTxVerifiedCallback where
  txHash := callback.txHash
  status := statusText callback.status
  confirmations := callback.confirmations
  handId := callback.handId
  seatId := callback.seatId
  actionSeq := callback.actionSeq
  failureReason := callback.failureReason

/-- The repository after a callback: late and unmatched payments are credited, with amount zero. -/
def recordCallback (repo : ChainTxRepo) (callback : TxVerificationCallback) : ChainTxRepo :=
  let recorded := repo.upsertTxVerification
    { txHash := callback.txHash, roomId := callback.roomId, handId := callback.handId,
      seatId := callback.seatId, actionSeq := callback.actionSeq,
      status := statusText callback.status, confirmations := callback.confirmations,
      failureReason := callback.failureReason }
  if callback.status = .late ∨ callback.status = .unmatched then
    recorded.upsertExceptionCredit
      { roomId := callback.roomId, seatId := callback.seatId, txHash := callback.txHash,
        creditType := statusText callback.status, amount := 0, status := "open",
        reason := callback.failureReason.getD "chain_callback" }
  else recorded

/-- `on_verification_result`; `handId` is the one `ensure_room` would give a new room. -/
def onVerificationResult (svc : AppRoomService Card) (handId : HandId)
    (callback : TxVerificationCallback) : AppRoomService Card :=
  let ensured := ensureRoom
    { svc with chainTxRepo := recordCallback svc.chainTxRepo callback } callback.roomId handId
  match ensured.rooms.lookup callback.roomId with
  | none => ensured
  | some room =>
    tellRoom config env ensured callback.roomId room (.chainTxVerified (roomCallback callback))

end

/-! ### Runs -/

inductive ServiceInput (Card : Type) where
  | createRoom (roomId : RoomId) (handId : HandId)
  | join (env : RoomEnv Card) (request : RoomReadyRequest)
  | ready (env : RoomEnv Card) (request : RoomReadyRequest)
  | bindAddress (env : RoomEnv Card) (request : RoomBindAddressRequest)
  | bindSessionKeys (env : RoomEnv Card) (request : RoomBindSessionKeysRequest)
  | act (env : RoomEnv Card) (request : GameActRequest)
  | callback (env : RoomEnv Card) (handId : HandId) (callback : TxVerificationCallback)
  | internal (env : RoomEnv Card) (roomId : RoomId) (cmd : RoomCommand)

/-- The commands that no request of a seat sends. -/
def isInternal : RoomCommand → Bool
  | .join _ | .bindAddress _ _ | .bindSessionKeys _ _ _ _ _ | .ready _ | .act _
  | .queuePendingChainAction _ _ => false
  | _ => true

def serviceStep [RsPoker Card] (config : RoomActorConfig) (svc : AppRoomService Card) :
    ServiceInput Card → AppRoomService Card
  | .createRoom roomId handId => ensureRoom svc roomId handId
  | .join env request => (AppRoomService.join config env svc request).1
  | .ready env request => (AppRoomService.ready config env svc request).1
  | .bindAddress env request => (AppRoomService.bindAddress config env svc request).1
  | .bindSessionKeys env request => (AppRoomService.bindSessionKeys config env svc request).1
  | .act env request => (AppRoomService.act config env svc request).1
  | .callback env handId callback => onVerificationResult config env svc handId callback
  | .internal env roomId cmd =>
    match svc.rooms.lookup roomId with
    | none => svc
    | some room => if isInternal cmd then tellRoom config env svc roomId room cmd else svc

end HoldemPlatform.Service.RoomService
