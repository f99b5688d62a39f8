import HoldemPlatform.Domain.Game

/-!
# Requests

The signed requests of the gateway, and how the texts of a `game.act` request become an action: the
action type is one of five words, the amount a `u128` in decimal, and the funding fields have to be
there for the actions that pay and absent for those that do not.
-/

namespace HoldemPlatform.Gateway.Requests

open HoldemPlatform.Domain.Money HoldemPlatform.Domain.Game

inductive RpcGatewayError where
  | notImplemented
  | roomNotFound
  | invalidActionType
  | invalidAmount
  | upstream (e : String)
  | forbidden
  | invalidKeyBindingProof
  | jsonRpcRegistration (e : String)
  | tooManyConcurrentRequests
  | tooManyRequests
deriving DecidableEq

def RpcGatewayError.text : RpcGatewayError → String
  | .notImplemented => "method not implemented"
  | .roomNotFound => "room not found"
  | .invalidActionType => "invalid action type"
  | .invalidAmount => "invalid amount"
  | .upstream e => "upstream error: " ++ e
  | .forbidden => "forbidden"
  | .invalidKeyBindingProof => "invalid key binding proof"
  | .jsonRpcRegistration e => "jsonrpc registration failed: " ++ e
  | .tooManyConcurrentRequests => "too many concurrent requests"
  | .tooManyRequests => "too many requests"

/-- `SignedRequestMeta`; the time stamp counts nanoseconds. -/
structure SignedRequestMeta where
  requestId : RequestId
  requestNonce : String
  requestTs : ℤ
  requestExpiryMs : ℤ
  signaturePubkeyId : String
  signature : String
deriving DecidableEq

structure GameActRequest where
  roomId : RoomId
  handId : HandId
  actionSeq : ActionSeq
  seatId : SeatId
  actionType : String
  amount : Option String
  txHash : Option String
  requestMeta : SignedRequestMeta
deriving DecidableEq

structure RoomBindAddressRequest where
  roomId : RoomId
  seatId : SeatId
  seatAddress : String
  requestMeta : SignedRequestMeta
deriving DecidableEq

/-- The request of `room.join` and of `room.ready`. -/
structure RoomReadyRequest where
  roomId : RoomId
  seatId : SeatId
  requestMeta : SignedRequestMeta
deriving DecidableEq

structure RoomBindSessionKeysRequest where
  roomId : RoomId
  seatId : SeatId
  seatAddress : String
  cardEncryptPubkey : String
  requestVerifyPubkey : String
  keyAlgo : String
  proofSignature : String
  requestMeta : SignedRequestMeta
deriving DecidableEq

/-! ### The texts of an action -/

def parseActionType (actionType : String) : Except RpcGatewayError ActionType :=
  if actionType = "fold" then .ok .fold
  else if actionType = "check" then .ok .check
  else if actionType = "call" then .ok .call
  else if actionType = "raise_to" then .ok .raiseTo
  else if actionType = "all_in" then .ok .allIn
  else .error .invalidActionType

/-- `raw.parse::<u128>()`: decimal digits with at most a plus sign before them, below `2 ^ 128`. -/
def parseU128 (raw : String) : Option Chips :=
  let digits := match raw.toList with
    | '+' :: rest => rest
    | chars => chars
  if digits ≠ [] ∧ digits.all Char.isDigit then
    let n := digits.foldl (fun acc c => acc * 10 + (c.toNat - '0'.toNat)) 0
    if h : n < 2 ^ 128 then some ⟨n, h⟩ else none
  else none

def parseAmountU128 : Option String → Except RpcGatewayError (Option Chips)
  | none => .ok none
  | some raw =>
    match parseU128 raw with
    | none => .error .invalidAmount
    | some amount => .ok (some amount)

def toPlayerAction (request : GameActRequest) : Except RpcGatewayError PlayerAction :=
  match parseActionType request.actionType with
  | .error e => .error e
  | .ok actionType =>
    match parseAmountU128 request.amount with
    | .error e => .error e
    | .ok amount =>
      .ok { roomId := request.roomId, handId := request.handId, actionSeq := request.actionSeq,
            seatId := request.seatId, actionType, amount }

/-- The white space `trim` removes. -/
def isWhitespace (c : Char) : Bool :=
  let n := c.toNat
  (0x9 ≤ n && n ≤ 0xd) || n = 0x20 || n = 0x85 || n = 0xa0 || n = 0x1680 ||
    (0x2000 ≤ n && n ≤ 0x200a) || n = 0x2028 || n = 0x2029 || n = 0x202f || n = 0x205f || n = 0x3000

/-- `!v.trim().is_empty()`. -/
def notBlank (v : String) : Bool := v.toList.any fun c => !isWhitespace c

/-- The actions that pay. -/
def monetary : ActionType → Bool
  | .call | .raiseTo | .allIn => true
  | .fold | .check => false

def validateGameActFundingFields (request : GameActRequest) : Except RpcGatewayError Unit :=
  match parseActionType request.actionType with
  | .error e => .error e
  | .ok actionType =>
    match parseAmountU128 request.amount with
    | .error e => .error e
    | .ok amount =>
      if monetary actionType then
        if amount = none then .error (.upstream "amount is required for monetary action")
        else if ¬ request.txHash.any notBlank then
          .error (.upstream "tx_hash is required for monetary action")
        else .ok ()
      else if amount ≠ none ∨ request.txHash.any notBlank then
        .error (.upstream "amount/tx_hash must be absent for non-monetary action")
      else .ok ()

/-! ### Errors and validated requests -/

theorem append_ne_forbidden {c : Char} (hc : c ≠ 'f') {start rest : String} {cs : List Char}
    (hstart : start.toList = c :: cs) : start ++ rest ≠ RpcGatewayError.forbidden.text := by
  intro h
  have hchars := congrArg String.toList h
  rw [String.toList_append, hstart, List.cons_append] at hchars
  have hforbidden : RpcGatewayError.forbidden.text.toList = 'f' :: "orbidden".toList := rfl
  rw [hforbidden] at hchars
  exact hc (List.cons.inj hchars).1

theorem text_ne_forbidden {e : RpcGatewayError} (h : e ≠ .forbidden) :
    e.text ≠ RpcGatewayError.forbidden.text := by
  cases e with
  | forbidden => exact absurd rfl h
  | upstream e =>
    have hu : "upstream error: ".toList = 'u' :: "pstream error: ".toList := rfl
    exact append_ne_forbidden (by decide) hu
  | jsonRpcRegistration e =>
    have hj : "jsonrpc registration failed: ".toList = 'j' :: "sonrpc registration failed: ".toList :=
      rfl
    exact append_ne_forbidden (by decide) hj
  | notImplemented => decide
  | roomNotFound => decide
  | invalidActionType => decide
  | invalidAmount => decide
  | invalidKeyBindingProof => decide
  | tooManyConcurrentRequests => decide
  | tooManyRequests => decide

theorem parseActionType_error {actionType : String} {e : RpcGatewayError}
    (h : parseActionType actionType = .error e) : e = .invalidActionType := by
  unfold parseActionType at h
  split_ifs at h
  exact (Except.error.inj h).symm

theorem parseAmountU128_error {amount : Option String} {e : RpcGatewayError}
    (h : parseAmountU128 amount = .error e) : e = .invalidAmount := by
  unfold parseAmountU128 at h
  split at h
  · cases h
  · split at h
    · exact (Except.error.inj h).symm
    · cases h

section

variable {request : GameActRequest}

/-- **A validated request has a well-formed action**, with an amount and a transaction if it pays. -/
theorem validateGameActFundingFields_ok (h : validateGameActFundingFields request = .ok ()) :
    ∃ action, toPlayerAction request = .ok action ∧ (monetary action.actionType = true →
      action.amount ≠ none ∧ request.txHash ≠ none) := by
  unfold validateGameActFundingFields at h
  unfold toPlayerAction
  split at h
  · cases h
  split at h
  · cases h
  refine ⟨_, rfl, fun hmon => ?_⟩
  rw [if_pos hmon] at h
  split_ifs at h with hnone htx
  refine ⟨hnone, fun hnohash => ?_⟩
  simp [hnohash] at htx

end

end HoldemPlatform.Gateway.Requests
