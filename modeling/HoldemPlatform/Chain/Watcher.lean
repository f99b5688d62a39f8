import HoldemPlatform.Domain.Game

/-!
# The Chain Watcher

`classify_tx_verification` compares an observed transaction with what was expected of it: hash and
success first, then confirmations, then recipient, sender and value, last the binding context.
`classify_matched_iff` lists everything a matched transaction has to satisfy.
-/

namespace HoldemPlatform.Chain.Watcher

open HoldemPlatform.Domain.Money HoldemPlatform.Domain.Game

inductive VerificationStatus where
  | pending
  | matched
  | late
  | unmatched
  | failed
deriving DecidableEq, Repr

structure TxVerificationInput where
  roomId : RoomId
  handId : Option HandId
  seatId : Option SeatId
  actionSeq : Option ActionSeq
  txHash : String
  expectedTo : String
  expectedFrom : Option String
  expectedAmount : Option Chips
  minConfirmations : ℕ
deriving DecidableEq

structure TxVerificationResult where
  txHash : String
  status : VerificationStatus
  confirmations : ℕ
  failureReason : Option String
deriving DecidableEq

structure TxVerificationCallback where
  roomId : RoomId
  handId : Option HandId
  seatId : Option SeatId
  actionSeq : Option ActionSeq
  txHash : String
  status : VerificationStatus
  confirmations : ℕ
  failureReason : Option String
deriving DecidableEq

structure ObservedTx where
  txHash : String
  sender : String
  recipient : String
  value : Chips
  success : Bool
  confirmations : ℕ
deriving DecidableEq

inductive ConfirmationDecision where
  | pending
  | confirmed
deriving DecidableEq

def checkTxStatusAndIdentity (input : TxVerificationInput) (observed : ObservedTx) :
    Option TxVerificationResult :=
  if observed.txHash ≠ input.txHash then
    some ⟨input.txHash, .failed, observed.confirmations, some "tx_hash_mismatch"⟩
  else if observed.success = false then
    some ⟨input.txHash, .failed, observed.confirmations, some "tx_failed"⟩
  else none

def evaluateConfirmations (minConfirmations observedConfirmations : ℕ) : ConfirmationDecision :=
  if observedConfirmations < minConfirmations then .pending else .confirmed

/-- `check_tx_fields`; sender and value are compared only if they are expected. -/
def checkTxFields (input : TxVerificationInput) (observed : ObservedTx) :
    Option TxVerificationResult :=
  if observed.recipient ≠ input.expectedTo then
    some ⟨input.txHash, .unmatched, observed.confirmations, some "to_mismatch"⟩
  else if input.expectedFrom.any fun sender => observed.sender ≠ sender then
    some ⟨input.txHash, .unmatched, observed.confirmations, some "from_mismatch"⟩
  else if input.expectedAmount.any fun amount => observed.value ≠ amount then
    some ⟨input.txHash, .unmatched, observed.confirmations, some "value_mismatch"⟩
  else none

def classifyTxVerification (input : TxVerificationInput) (observed : ObservedTx) :
    TxVerificationResult :=
  match checkTxStatusAndIdentity input observed with
  | some result => result
  | none =>
    if evaluateConfirmations input.minConfirmations observed.confirmations = .pending then
      ⟨input.txHash, .pending, observed.confirmations, none⟩
    else
      match checkTxFields input observed with
      | some result => result
      | none =>
        if input.handId = none ∨ input.actionSeq = none then
          ⟨input.txHash, .late, observed.confirmations, some "missing_binding_context"⟩
        else ⟨input.txHash, .matched, observed.confirmations, none⟩

/-- What a matched transaction satisfies. -/
structure Matches (input : TxVerificationInput) (observed : ObservedTx) : Prop where
  txHash : observed.txHash = input.txHash
  success : observed.success = true
  confirmations : input.minConfirmations ≤ observed.confirmations
  recipient : observed.recipient = input.expectedTo
  sender : ∀ sender, input.expectedFrom = some sender → observed.sender = sender
  value : ∀ amount, input.expectedAmount = some amount → observed.value = amount
  handId : input.handId ≠ none
  actionSeq : input.actionSeq ≠ none

theorem checkTxStatusAndIdentity_eq_none {input : TxVerificationInput} {observed : ObservedTx} :
    checkTxStatusAndIdentity input observed = none ↔
      observed.txHash = input.txHash ∧ observed.success = true := by
  unfold checkTxStatusAndIdentity
  split_ifs with hhash hsuccess
  · simp [hhash]
  · simp [hsuccess]
  · simpa using And.intro (not_not.1 hhash) (Bool.eq_true_of_not_eq_false hsuccess)

theorem checkTxFields_eq_none {input : TxVerificationInput} {observed : ObservedTx} :
    checkTxFields input observed = none ↔
      observed.recipient = input.expectedTo ∧
      (∀ sender, input.expectedFrom = some sender → observed.sender = sender) ∧
      ∀ amount, input.expectedAmount = some amount → observed.value = amount := by
  unfold checkTxFields
  split_ifs with hto hfrom hvalue
  · simp [hto]
  · rw [Option.any_eq_true] at hfrom
    obtain ⟨sender, hexp, hne⟩ := hfrom
    simp only [false_iff, not_and]
    exact fun _ hsender => absurd (hsender sender hexp) (by simpa using hne)
  · rw [Option.any_eq_true] at hvalue
    obtain ⟨amount, hexp, hne⟩ := hvalue
    simp only [false_iff, not_and]
    exact fun _ _ hamount => absurd (hamount amount hexp) (by simpa using hne)
  · refine ⟨fun _ => ⟨not_not.1 hto, ?_, ?_⟩, fun _ => rfl⟩
    · intro sender hexp
      simpa [hexp] using hfrom
    · intro amount hexp
      simpa [hexp] using hvalue

theorem status_of_checkTxStatusAndIdentity {input : TxVerificationInput} {observed : ObservedTx}
    {result : TxVerificationResult}
    (h : checkTxStatusAndIdentity input observed = some result) : result.status = .failed := by
  unfold checkTxStatusAndIdentity at h
  split_ifs at h <;> cases h <;> rfl

theorem status_of_checkTxFields {input : TxVerificationInput} {observed : ObservedTx}
    {result : TxVerificationResult} (h : checkTxFields input observed = some result) :
    result.status = .unmatched := by
  unfold checkTxFields at h
  split_ifs at h <;> cases h <;> rfl

/-- **The watcher reports a match exactly for a matching transaction.** -/
theorem classify_matched_iff (input : TxVerificationInput) (observed : ObservedTx) :
    (classifyTxVerification input observed).status = .matched ↔ Matches input observed := by
  unfold classifyTxVerification
  cases hid : checkTxStatusAndIdentity input observed with
  | some result =>
    have hstatus := status_of_checkTxStatusAndIdentity hid
    refine ⟨fun h => by simp [hstatus] at h, fun h => ?_⟩
    rw [checkTxStatusAndIdentity_eq_none.2 ⟨h.txHash, h.success⟩] at hid
    cases hid
  | none =>
    obtain ⟨hhash, hsuccess⟩ := checkTxStatusAndIdentity_eq_none.1 hid
    dsimp only
    by_cases hconf : observed.confirmations < input.minConfirmations
    · rw [evaluateConfirmations, if_pos hconf, if_pos rfl]
      exact ⟨nofun, fun h => absurd h.confirmations (by omega)⟩
    rw [evaluateConfirmations, if_neg hconf, if_neg (by decide)]
    cases hfields : checkTxFields input observed with
    | some result =>
      have hstatus := status_of_checkTxFields hfields
      refine ⟨fun h => by simp [hstatus] at h, fun h => ?_⟩
      rw [checkTxFields_eq_none.2 ⟨h.recipient, h.sender, h.value⟩] at hfields
      cases hfields
    | none =>
      obtain ⟨hto, hfrom, hvalue⟩ := checkTxFields_eq_none.1 hfields
      dsimp only
      by_cases hctx : input.handId = none ∨ input.actionSeq = none
      · rw [if_pos hctx]
        exact ⟨nofun, fun h => (hctx.elim h.handId h.actionSeq).elim⟩
      · rw [if_neg hctx]
        exact ⟨fun _ => ⟨hhash, hsuccess, by omega, hto, hfrom, hvalue, fun h => hctx (.inl h),
          fun h => hctx (.inr h)⟩, fun _ => rfl⟩

end HoldemPlatform.Chain.Watcher
