import HoldemPlatform.Auth.Json
import HoldemPlatform.Gateway.Requests

/-!
# Signed Requests

A request is accepted in a window around its time stamp, once per identifier and nonce, and with a
signature of the message that is built from it. The elliptic curve and the hash behind a signature are
not modelled: `Externals` says which account a signature of a message recovers to.
-/

namespace HoldemPlatform.Auth.Signing

open HoldemPlatform.Domain.Game HoldemPlatform.Gateway.Requests HoldemPlatform.Auth.Json

inductive AuthError where
  | requestExpired
  | requestFromFuture
  | invalidEthereumSignature
  | ethereumSignatureRecoveryFailed
  | ethereumAddressMismatch
  | replayDetected
deriving DecidableEq

def AuthError.text : AuthError → String
  | .requestExpired => "request expired"
  | .requestFromFuture => "request timestamp too far in future"
  | .invalidEthereumSignature => "invalid ethereum signature"
  | .ethereumSignatureRecoveryFailed => "ethereum signature recovery failed"
  | .ethereumAddressMismatch => "ethereum address mismatch"
  | .replayDetected => "replay request detected"

/-- What other libraries compute: the texts of identifiers and times, and the curve. -/
structure Externals where
  uuidText : ℕ → String
  toRfc3339 : ℤ → String
  /-- Whether 64 bytes are a signature. -/
  isSignature : List (Fin 256) → Bool
  /-- The account that a signature of the message and a recovery id belong to. -/
  recoverFromPersonalSign : String → List (Fin 256) → ℕ → Option String

/-- Identifiers and times in decimal. -/
def decimalFormats : Externals where
  uuidText n := toString n
  toRfc3339 t := toString t
  isSignature _ := true
  recoverFromPersonalSign _ _ _ := none

/-! ### The window and the nonces -/

/-- `validate_request_window`; the times count nanoseconds. -/
def validateRequestWindow (now requestTs expiryMs futureSkewToleranceMs : ℤ) :
    Except AuthError Unit :=
  if requestTs - now > futureSkewToleranceMs * 1000000 then .error .requestFromFuture
  else if now - requestTs > expiryMs * 1000000 then .error .requestExpired
  else .ok ()

structure ReplayNonceKey where
  agentId : AgentId
  requestId : RequestId
  requestNonce : String
deriving DecidableEq

/-- `consume_once` of the replay store. -/
def consumeOnce (seen : Finset ReplayNonceKey) (key : ReplayNonceKey) :
    Finset ReplayNonceKey × Except AuthError Unit :=
  if key ∈ seen then (seen, .error .replayDetected) else (insert key seen, .ok ())

/-! ### Messages -/

structure SigningMessageInput where
  method : String
  sessionId : SessionId
  roomId : Option RoomId
  handId : Option String
  actionSeq : Option ActionSeq
  params : Value
  requestMeta : SignedRequestMeta

variable (ext : Externals)

def buildSigningMessage (input : SigningMessageInput) : String :=
  "method=" ++ input.method ++
  "|session_id=" ++ ext.uuidText input.sessionId.uuid ++
  "|room_id=" ++ (input.roomId.map fun v => ext.uuidText v.uuid).getD "" ++
  "|hand_id=" ++ input.handId.getD "" ++
  "|action_seq=" ++ (input.actionSeq.map toString).getD "" ++
  "|params=" ++ canonicalParamsJson input.params ++
  "|request_id=" ++ ext.uuidText input.requestMeta.requestId.uuid ++
  "|request_nonce=" ++ input.requestMeta.requestNonce ++
  "|request_ts=" ++ ext.toRfc3339 input.requestMeta.requestTs ++
  "|request_expiry_ms=" ++ toString input.requestMeta.requestExpiryMs

structure SeatKeyBindingClaim where
  agentId : Option AgentId
  sessionId : Option SessionId
  roomId : RoomId
  seatId : SeatId
  seatAddress : String
  cardEncryptPubkey : String
  requestVerifyPubkey : String
  keyAlgo : String
  issuedAt : ℤ
  expiresAt : Option ℤ
deriving DecidableEq

def buildSeatKeyBindingMessage (claim : SeatKeyBindingClaim) : String :=
  "room_id=" ++ ext.uuidText claim.roomId.uuid ++
  "|seat_id=" ++ toString claim.seatId.val ++
  "|seat_address=" ++ claim.seatAddress ++
  "|card_encrypt_pubkey=" ++ claim.cardEncryptPubkey ++
  "|request_verify_pubkey=" ++ claim.requestVerifyPubkey ++
  "|key_algo=" ++ claim.keyAlgo ++
  "|issued_at=" ++ ext.toRfc3339 claim.issuedAt ++
  "|expires_at=" ++ (claim.expiresAt.map ext.toRfc3339).getD "" ++
  "|agent_id=" ++ (claim.agentId.map fun v => ext.uuidText v.uuid).getD "" ++
  "|session_id=" ++ (claim.sessionId.map fun v => ext.uuidText v.uuid).getD ""

/-! ### Signatures -/

def trim (chars : List Char) : List Char :=
  ((chars.dropWhile isWhitespace).reverse.dropWhile isWhitespace).reverse

def normalizeEvmAddress (address : String) : String :=
  String.ofList ((trim address.toList).map Char.toLower)

/-- `trim_start_matches("0x")`. -/
def trimStartMatches0x : List Char → List Char
  | '0' :: 'x' :: rest => trimStartMatches0x rest
  | chars => chars

def hexValue (c : Char) : Option ℕ :=
  if c.isDigit then some (c.toNat - 48)
  else if 'a' ≤ c ∧ c ≤ 'f' then some (c.toNat - 87)
  else if 'A' ≤ c ∧ c ≤ 'F' then some (c.toNat - 55)
  else none

def fromHex : List Char → Option (List (Fin 256))
  | [] => some []
  | [_] => none
  | hi :: lo :: rest => do
    let h ← hexValue hi
    let l ← hexValue lo
    let bytes ← fromHex rest
    some (Fin.ofNat 256 (16 * h + l) :: bytes)

/-- The account a signature of the message in hex belongs to. -/
def recoverAddress (message signatureHex : String) : Except AuthError String :=
  match fromHex (trimStartMatches0x (trim signatureHex.toList)) with
  | none => .error .invalidEthereumSignature
  | some sigBytes =>
    match sigBytes.drop 64 with
    | [last] =>
      if ext.isSignature (sigBytes.take 64) then
        let v := if 27 ≤ last.val then last.val - 27 else last.val
        if v < 4 then
          match ext.recoverFromPersonalSign message (sigBytes.take 64) v with
          | none => .error .ethereumSignatureRecoveryFailed
          | some recovered => .ok recovered
        else .error .invalidEthereumSignature
      else .error .invalidEthereumSignature
    | _ => .error .invalidEthereumSignature

def verifyEvmPersonalSignature (expectedAddress message signatureHex : String) :
    Except AuthError Unit :=
  match recoverAddress ext message signatureHex with
  | .error e => .error e
  | .ok recovered =>
    if normalizeEvmAddress recovered ≠ normalizeEvmAddress expectedAddress then
      .error .ethereumAddressMismatch
    else .ok ()

def verifySeatKeyBindingProofEvm (claim : SeatKeyBindingClaim) (proofSignatureHex : String) :
    Except AuthError Unit :=
  verifyEvmPersonalSignature ext claim.seatAddress (buildSeatKeyBindingMessage ext claim)
    proofSignatureHex

variable {ext}

theorem recoverAddress_eq_ok {message signatureHex recovered : String}
    (h : recoverAddress ext message signatureHex = .ok recovered) :
    ∃ sig v, ext.recoverFromPersonalSign message sig v = some recovered := by
  unfold recoverAddress at h
  split at h
  · cases h
  split at h
  · dsimp only at h
    split_ifs at h
    all_goals
      split at h
      · cases h
      · cases h
        exact ⟨_, _, by assumption⟩
  · cases h

/-- An accepted signature belongs to the expected account, in whatever case and spacing the address is
written. -/
theorem verifyEvmPersonalSignature_eq_ok {expectedAddress message signatureHex : String} :
    verifyEvmPersonalSignature ext expectedAddress message signatureHex = .ok () ↔
      ∃ recovered, recoverAddress ext message signatureHex = .ok recovered ∧
        normalizeEvmAddress recovered = normalizeEvmAddress expectedAddress := by
  unfold verifyEvmPersonalSignature
  cases recoverAddress ext message signatureHex with
  | error e => simp
  | ok recovered => simp

end HoldemPlatform.Auth.Signing
