import HoldemPlatform.Auth.Signing
import HoldemPlatform.Service.RoomService

/-!
# The Handlers of the Gateway

A request passes its window and its nonce, then the verifier of signatures, and then reaches the room
service. `room.bind_address` and `room.bind_session_keys` are verified against the address they carry,
`room.ready` and `game.act` against the address the service has stored, and `room.join` is not signed.
-/

namespace HoldemPlatform.Gateway.Handlers

open HoldemPlatform.Domain.Game HoldemPlatform.Engine.State HoldemPlatform.Room.Actor
open HoldemPlatform.Gateway.Requests HoldemPlatform.Service.RoomService
open HoldemPlatform.Auth.Json HoldemPlatform.Auth.Signing

/-! ### Messages and verification -/

/-- The session of every message: the nil identifier. -/
def nilSession : SessionId := ⟨0⟩

section

variable {Card : Type} (ext : Externals)

def bindAddressMessage (request : RoomBindAddressRequest) : String :=
  buildSigningMessage ext
    { method := "room.bind_address", sessionId := nilSession, roomId := some request.roomId,
      handId := none, actionSeq := none,
      params := .object
        [("seat_id", .number request.seatId.val), ("seat_address", .string request.seatAddress)],
      requestMeta := request.requestMeta }

def bindSessionKeysMessage (request : RoomBindSessionKeysRequest) : String :=
  buildSigningMessage ext
    { method := "room.bind_session_keys", sessionId := nilSession, roomId := some request.roomId,
      handId := none, actionSeq := none,
      params := .object
        [("seat_id", .number request.seatId.val), ("seat_address", .string request.seatAddress),
          ("card_encrypt_pubkey", .string request.cardEncryptPubkey),
          ("request_verify_pubkey", .string request.requestVerifyPubkey),
          ("key_algo", .string request.keyAlgo),
          ("proof_signature", .string request.proofSignature)],
      requestMeta := request.requestMeta }

def roomReadyMessage (request : RoomReadyRequest) : String :=
  buildSigningMessage ext
    { method := "room.ready", sessionId := nilSession, roomId := some request.roomId,
      handId := none, actionSeq := none,
      params := .object [("seat_id", .number request.seatId.val)],
      requestMeta := request.requestMeta }

def optionalText : Option String → Value
  | none => .null
  | some s => .string s

def gameActMessage (request : GameActRequest) : String :=
  buildSigningMessage ext
    { method := "game.act", sessionId := nilSession, roomId := some request.roomId,
      handId := some (ext.uuidText request.handId.uuid), actionSeq := some request.actionSeq,
      params := .object
        [("seat_id", .number request.seatId.val), ("action_type", .string request.actionType),
          ("amount", optionalText request.amount), ("tx_hash", optionalText request.txHash)],
      requestMeta := request.requestMeta }

/-- The verdict of the verifier on a message against an address. -/
def verifyAgainst (address message signature : String) : Except String Unit :=
  match verifyEvmPersonalSignature ext address message signature with
  | .error e => .error e.text
  | .ok () => .ok ()

/-- The verdict against the address the service has stored for the seat. -/
def verifyAgainstStored (svc : AppRoomService Card) (roomId : RoomId) (seatId : SeatId)
    (message signature : String) : Except String Unit :=
  match boundSeatAddress svc roomId seatId with
  | none => .error "missing bound seat address"
  | some seatAddress => verifyAgainst ext seatAddress message signature

def verifyBindAddress (request : RoomBindAddressRequest) : Except String Unit :=
  verifyAgainst ext request.seatAddress (bindAddressMessage ext request)
    request.requestMeta.signature

def verifyBindSessionKeys (request : RoomBindSessionKeysRequest) : Except String Unit :=
  verifyAgainst ext request.seatAddress (bindSessionKeysMessage ext request)
    request.requestMeta.signature

def verifyRoomReady (svc : AppRoomService Card) (request : RoomReadyRequest) : Except String Unit :=
  verifyAgainstStored ext svc request.roomId request.seatId (roomReadyMessage ext request)
    request.requestMeta.signature

def verifyGameAct (svc : AppRoomService Card) (request : GameActRequest) : Except String Unit :=
  verifyAgainstStored ext svc request.roomId request.seatId (gameActMessage ext request)
    request.requestMeta.signature

def validateBindSessionKeysProof (request : RoomBindSessionKeysRequest) :
    Except RpcGatewayError Unit :=
  let claim : SeatKeyBindingClaim :=
    { agentId := none, sessionId := none, roomId := request.roomId, seatId := request.seatId,
      seatAddress := request.seatAddress, cardEncryptPubkey := request.cardEncryptPubkey,
      requestVerifyPubkey := request.requestVerifyPubkey, keyAlgo := request.keyAlgo,
      issuedAt := request.requestMeta.requestTs, expiresAt := none }
  match verifySeatKeyBindingProofEvm ext claim request.proofSignature with
  | .error _ => .error .invalidKeyBindingProof
  | .ok () => .ok ()

end

/-! ### The gateway -/

inductive ErrorCode where
  | requestInvalid
  | forbidden
  | roomReadyFailed
  | roomBindAddressFailed
  | roomBindKeysFailed
  | gameActFailed
  | keyBindingProofInvalid
deriving DecidableEq

structure ErrorBody where
  code : ErrorCode
  message : String
deriving DecidableEq

inductive RequestRejectReason where
  | requestExpiredOrInvalidWindow
  | missingOrInvalidSignature
  | invalidKeyBindingProof
  | replayRejected
deriving DecidableEq

/-- What the checks read of a request, and what the audit records of it. -/
structure RequestScope where
  method : String
  requestMeta : SignedRequestMeta
  roomId : RoomId
  handId : Option HandId := none
  seatId : SeatId
  actionSeq : Option ActionSeq := none

structure RequestRejectAuditEvent where
  method : String
  reason : RequestRejectReason
  requestId : RequestId
  requestNonce : String
  roomId : RoomId
  handId : Option HandId
  seatId : SeatId
  actionSeq : Option ActionSeq
  detail : String
deriving DecidableEq

/-- The room service with the stores of the gateway, where they are configured. -/
structure RpcGateway (Card : Type) where
  service : AppRoomService Card := {}
  replayNonceStore : Option (Finset ReplayNonceKey) := some ∅
  auditSink : Option (List RequestRejectAuditEvent) := some []

/-- What does not change: the libraries, the configuration of the rooms, and whether there is a
verifier. -/
structure RpcContext where
  ext : Externals
  room : RoomActorConfig := {}
  signatureVerifier : Bool := true

variable {Card : Type}

def auditRequestRejection (gw : RpcGateway Card) (scope : RequestScope)
    (reason : RequestRejectReason) (detail : String) : RpcGateway Card :=
  let event : RequestRejectAuditEvent :=
    { method := scope.method, reason, requestId := scope.requestMeta.requestId,
      requestNonce := scope.requestMeta.requestNonce, roomId := scope.roomId,
      handId := scope.handId, seatId := scope.seatId, actionSeq := scope.actionSeq, detail }
  { gw with auditSink := gw.auditSink.map fun events => events ++ [event] }

/-- A stage of a handler: it may change the gateway also where it refuses the request. -/
abbrev Stage (Card : Type) := RpcGateway Card → RpcGateway Card × Except ErrorBody Unit

/-- The second stage follows if the first does not refuse. -/
def Stage.andThen (first second : Stage Card) : Stage Card := fun gw =>
  match first gw with
  | (gw', .error e) => (gw', .error e)
  | (gw', .ok ()) => second gw'

/-- `validate_request_meta_with_audit`: the window, then the nonce, which is used up here. -/
def validateRequestMetaWithAudit (utcNow : ℤ) (scope : RequestScope) : Stage Card := fun gw =>
  match validateRequestWindow utcNow scope.requestMeta.requestTs scope.requestMeta.requestExpiryMs
      5000 with
  | .error e =>
    (auditRequestRejection gw scope .requestExpiredOrInvalidWindow
      (RpcGatewayError.upstream e.text).text,
      .error ⟨.requestInvalid, (RpcGatewayError.upstream e.text).text⟩)
  | .ok () =>
    match gw.replayNonceStore with
    | none => (gw, .ok ())
    | some seen =>
      -- the agent is not known here, its identifier is that of the request
      match consumeOnce seen
          { agentId := ⟨scope.requestMeta.requestId.uuid⟩, requestId := scope.requestMeta.requestId,
            requestNonce := scope.requestMeta.requestNonce } with
      | (_, .error e) =>
        (auditRequestRejection gw scope .replayRejected e.text,
          .error ⟨.requestInvalid, (RpcGatewayError.upstream e.text).text⟩)
      | (seen', .ok ()) => ({ gw with replayNonceStore := some seen' }, .ok ())

/-- `verify_…_signature_with_audit`: a request is forbidden if the verifier refuses it. -/
def verifySignatureWithAudit (ctx : RpcContext) (scope : RequestScope)
    (verdict : AppRoomService Card → Except String Unit) (code : ErrorCode) : Stage Card := fun gw =>
  if ctx.signatureVerifier then
    match verdict gw.service with
    | .error e =>
      (auditRequestRejection gw scope .missingOrInvalidSignature e,
        .error ⟨code, RpcGatewayError.forbidden.text⟩)
    | .ok () => (gw, .ok ())
  else (gw, .ok ())

/-- The proof of a key binding is checked with or without a verifier. -/
def checkKeyBindingProof (ctx : RpcContext) (scope : RequestScope)
    (request : RoomBindSessionKeysRequest) : Stage Card := fun gw =>
  match validateBindSessionKeysProof ctx.ext request with
  | .error e =>
    (auditRequestRejection gw scope .invalidKeyBindingProof e.text,
      .error ⟨.keyBindingProofInvalid, e.text⟩)
  | .ok () => (gw, .ok ())

def callService (call : AppRoomService Card → AppRoomService Card × Except RpcGatewayError Unit)
    (code : ErrorCode) : Stage Card := fun gw =>
  ({ gw with service := (call gw.service).1 },
    match (call gw.service).2 with
    | .error e => .error ⟨code, e.text⟩
    | .ok () => .ok ())

/-! ### The handlers -/

def joinScope (request : RoomReadyRequest) : RequestScope where
  method := "room.join"
  requestMeta := request.requestMeta
  roomId := request.roomId
  seatId := request.seatId

def bindAddressScope (request : RoomBindAddressRequest) : RequestScope where
  method := "room.bind_address"
  requestMeta := request.requestMeta
  roomId := request.roomId
  seatId := request.seatId

def bindSessionKeysScope (request : RoomBindSessionKeysRequest) : RequestScope where
  method := "room.bind_session_keys"
  requestMeta := request.requestMeta
  roomId := request.roomId
  seatId := request.seatId

def readyScope (request : RoomReadyRequest) : RequestScope where
  method := "room.ready"
  requestMeta := request.requestMeta
  roomId := request.roomId
  seatId := request.seatId

def actScope (request : GameActRequest) : RequestScope where
  method := "game.act"
  requestMeta := request.requestMeta
  roomId := request.roomId
  handId := some request.handId
  seatId := request.seatId
  actionSeq := some request.actionSeq

section

variable [RsPoker Card] (ctx : RpcContext) (utcNow : ℤ) (env : RoomEnv Card)

/-- `handle_room_join_with_audit`: no signature is asked for. -/
def handleRoomJoinWithAudit (request : RoomReadyRequest) : Stage Card :=
  let scope := joinScope request
  (validateRequestMetaWithAudit utcNow scope).andThen
    (callService (fun svc => svc.join ctx.room env request) .roomReadyFailed)

def handleBindAddressWithAudit (request : RoomBindAddressRequest) : Stage Card :=
  let scope := bindAddressScope request
  ((validateRequestMetaWithAudit utcNow scope).andThen
    (verifySignatureWithAudit ctx scope (fun _ => verifyBindAddress ctx.ext request)
      .requestInvalid)).andThen
    (callService (fun svc => svc.bindAddress ctx.room env request) .roomBindAddressFailed)

def handleBindSessionKeysWithAudit (request : RoomBindSessionKeysRequest) : Stage Card :=
  let scope := bindSessionKeysScope request
  (((validateRequestMetaWithAudit utcNow scope).andThen
    (checkKeyBindingProof ctx scope request)).andThen
    (verifySignatureWithAudit ctx scope (fun _ => verifyBindSessionKeys ctx.ext request)
      .forbidden)).andThen
    (callService (fun svc => svc.bindSessionKeys ctx.room env request) .roomBindKeysFailed)

def handleRoomReadyWithAudit (request : RoomReadyRequest) : Stage Card :=
  let scope := readyScope request
  ((validateRequestMetaWithAudit utcNow scope).andThen
    (verifySignatureWithAudit ctx scope (fun svc => verifyRoomReady ctx.ext svc request)
      .forbidden)).andThen
    (callService (fun svc => svc.ready ctx.room env request) .roomReadyFailed)

/-- The funding fields are looked at before anything else, and nothing is recorded. -/
def checkFundingFields (request : GameActRequest) : Stage Card := fun gw =>
  match validateGameActFundingFields request with
  | .error e => (gw, .error ⟨.requestInvalid, e.text⟩)
  | .ok () => (gw, .ok ())

def handleGameActWithAudit (request : GameActRequest) : Stage Card :=
  let scope := actScope request
  (((checkFundingFields request).andThen
    (validateRequestMetaWithAudit utcNow scope)).andThen
    (verifySignatureWithAudit ctx scope (fun svc => verifyGameAct ctx.ext svc request)
      .forbidden)).andThen
    (callService (fun svc => svc.act ctx.room env request) .gameActFailed)

end

/-! ### What a handled request has passed -/

/-- The stage leaves the room service alone. -/
def Stage.KeepsService (stage : Stage Card) : Prop := ∀ gw, (stage gw).1.service = gw.service

theorem Stage.andThen_ok {first second : Stage Card} {gw : RpcGateway Card} :
    (first.andThen second gw).2 = .ok () ↔
      (first gw).2 = .ok () ∧ (second (first gw).1).2 = .ok () := by
  unfold Stage.andThen
  rcases first gw with ⟨gw', _ | _⟩ <;> simp

theorem Stage.andThen_of_error {first second : Stage Card} {gw : RpcGateway Card} {body : ErrorBody}
    (h : (first gw).2 = .error body) : first.andThen second gw = ((first gw).1, .error body) := by
  unfold Stage.andThen
  rcases hpair : first gw with ⟨gw', answer⟩
  rw [hpair] at h
  obtain rfl : answer = .error body := h
  rfl

theorem Stage.andThen_of_ok {first second : Stage Card} {gw gw' : RpcGateway Card}
    (h : first gw = (gw', .ok ())) : first.andThen second gw = second gw' := by
  unfold Stage.andThen
  rw [h]

theorem Stage.andThen_assoc (first second third : Stage Card) :
    (first.andThen second).andThen third = first.andThen (second.andThen third) := by
  funext gw
  unfold Stage.andThen
  rcases first gw with ⟨gw', _ | _⟩ <;> rfl

theorem Stage.KeepsService.andThen {first second : Stage Card} (hfirst : first.KeepsService)
    (hsecond : second.KeepsService) : (first.andThen second).KeepsService := by
  intro gw
  have hgw := hfirst gw
  unfold Stage.andThen
  rcases hpair : first gw with ⟨gw', _ | _⟩ <;> rw [hpair] at hgw
  · exact hgw
  · exact (hsecond gw').trans hgw

theorem keepsService_validateRequestMeta (utcNow : ℤ) (scope : RequestScope) :
    (validateRequestMetaWithAudit utcNow scope : Stage Card).KeepsService := by
  intro gw
  unfold validateRequestMetaWithAudit
  split
  · rfl
  split
  · rfl
  split <;> rfl

theorem keepsService_verifySignature (ctx : RpcContext) (scope : RequestScope)
    (verdict : AppRoomService Card → Except String Unit) (code : ErrorCode) :
    (verifySignatureWithAudit ctx scope verdict code).KeepsService := by
  intro gw
  unfold verifySignatureWithAudit
  split_ifs
  · split <;> rfl
  · rfl

theorem keepsService_checkKeyBindingProof (ctx : RpcContext) (scope : RequestScope)
    (request : RoomBindSessionKeysRequest) :
    (checkKeyBindingProof ctx scope request : Stage Card).KeepsService := by
  intro gw
  unfold checkKeyBindingProof
  split <;> rfl

theorem keepsService_checkFundingFields (request : GameActRequest) :
    (checkFundingFields request : Stage Card).KeepsService := by
  intro gw
  unfold checkFundingFields
  split <;> rfl

theorem verifySignature_ok {ctx : RpcContext} {scope : RequestScope}
    {verdict : AppRoomService Card → Except String Unit} {code : ErrorCode} {gw : RpcGateway Card}
    (henabled : ctx.signatureVerifier = true)
    (hok : (verifySignatureWithAudit ctx scope verdict code gw).2 = .ok ()) :
    verdict gw.service = .ok () := by
  unfold verifySignatureWithAudit at hok
  rw [if_pos henabled] at hok
  cases hverdict : verdict gw.service with
  | error e => rw [hverdict] at hok; cases hok
  | ok u => rfl

/-- A handler that checks and then calls the service either refuses in its checks, with the service as
it was, or has passed them and leaves the service as the call does. -/
theorem Stage.KeepsService.callService_cases {checks : Stage Card} (hkeep : checks.KeepsService)
    (call : AppRoomService Card → AppRoomService Card × Except RpcGatewayError Unit)
    (code : ErrorCode) (gw : RpcGateway Card) :
    ((checks.andThen (callService call code) gw).1.service = gw.service ∧
        (checks.andThen (callService call code) gw).2 ≠ .ok ()) ∨
      ((checks gw).2 = .ok () ∧
        (checks.andThen (callService call code) gw).1.service = (call gw.service).1) := by
  have hgw := hkeep gw
  unfold Stage.andThen
  rcases hpair : checks gw with ⟨gw', _ | _⟩ <;> rw [hpair] at hgw
  · exact .inl ⟨hgw, nofun⟩
  · refine .inr ⟨rfl, ?_⟩
    rw [← hgw]
    rfl

/-- The same for a handler that asks the verifier last: the service is called only after its
agreement. -/
theorem Stage.KeepsService.signed_cases {checks : Stage Card} (hkeep : checks.KeepsService)
    {ctx : RpcContext} (henabled : ctx.signatureVerifier = true) (scope : RequestScope)
    (verdict : AppRoomService Card → Except String Unit) (code : ErrorCode)
    (call : AppRoomService Card → AppRoomService Card × Except RpcGatewayError Unit)
    (failed : ErrorCode) (gw : RpcGateway Card) :
    let handler := (checks.andThen (verifySignatureWithAudit ctx scope verdict code)).andThen
      (callService call failed)
    ((handler gw).1.service = gw.service ∧ (handler gw).2 ≠ .ok ()) ∨
      (verdict gw.service = .ok () ∧ (handler gw).1.service = (call gw.service).1) := by
  have hverify := keepsService_verifySignature ctx scope verdict code
  refine ((hkeep.andThen hverify).callService_cases call failed gw).imp_right ?_
  rintro ⟨hok, hservice⟩
  have hverdict := verifySignature_ok henabled (Stage.andThen_ok.1 hok).2
  rw [hkeep gw] at hverdict
  exact ⟨hverdict, hservice⟩

end HoldemPlatform.Gateway.Handlers
