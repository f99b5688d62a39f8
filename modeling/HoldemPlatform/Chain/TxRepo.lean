import HoldemPlatform.Domain.Game
import HoldemPlatform.Lib.FiniteMap

/-!
# The Chain Transaction Repository

The in-memory repository of transaction bindings, verifications and exception credits. A binding is
kept twice, under its transaction hash and under the hand and action sequence it pays for, and both
keys may be used once. Time stamps and trace identifiers are left out.
-/

namespace HoldemPlatform.Chain.TxRepo

open HoldemPlatform.Lib.FiniteMap HoldemPlatform.Domain.Money HoldemPlatform.Domain.Game

inductive LedgerStoreError where
  | notImplemented
  | lockPoisoned
  | duplicateTxBinding
  | duplicateTxHashBinding
  | database (e : String)
  | missingExpectedAmount
deriving DecidableEq

def LedgerStoreError.text : LedgerStoreError → String
  | .notImplemented => "not implemented"
  | .lockPoisoned => "store lock poisoned"
  | .duplicateTxBinding => "duplicate tx binding for hand/action"
  | .duplicateTxHashBinding => "duplicate tx hash binding"
  | .database e => "database error: " ++ e
  | .missingExpectedAmount => "expected_amount is required for tx_binding"

structure TxBindingInsert where
  txHash : String
  roomId : RoomId
  handId : HandId
  seatId : SeatId
  actionSeq : ActionSeq
  expectedAmount : Option Chips
  bindingStatus : String
deriving DecidableEq

structure TxVerificationUpsert where
  txHash : String
  roomId : RoomId
  handId : Option HandId
  seatId : Option SeatId
  actionSeq : Option ActionSeq
  status : String
  confirmations : ℕ
  failureReason : Option String
deriving DecidableEq

structure ExceptionCreditUpsert where
  roomId : RoomId
  seatId : Option SeatId
  txHash : String
  creditType : String
  amount : Chips
  status : String
  reason : String
deriving DecidableEq

structure ChainTxRepo where
  txVerifications : HashMap String TxVerificationUpsert := ∅
  txBindingsByAction : HashMap (HandId × ActionSeq) String := ∅
  txBindingsByHash : HashMap String TxBindingInsert := ∅
  exceptionCredits : HashMap String ExceptionCreditUpsert := ∅

def ChainTxRepo.upsertTxVerification (repo : ChainTxRepo) (record : TxVerificationUpsert) :
    ChainTxRepo :=
  { repo with txVerifications := repo.txVerifications.insert record.txHash record }

def ChainTxRepo.upsertExceptionCredit (repo : ChainTxRepo) (record : ExceptionCreditUpsert) :
    ChainTxRepo :=
  { repo with exceptionCredits := repo.exceptionCredits.insert record.txHash record }

/-- `insert_tx_binding`: the hand and action first, then the hash. -/
def ChainTxRepo.insertTxBinding (repo : ChainTxRepo) (record : TxBindingInsert) :
    Except LedgerStoreError ChainTxRepo :=
  if (record.handId, record.actionSeq) ∈ repo.txBindingsByAction then .error .duplicateTxBinding
  else if record.txHash ∈ repo.txBindingsByHash then .error .duplicateTxHashBinding
  else
    .ok { repo with
      txBindingsByAction :=
        repo.txBindingsByAction.insert (record.handId, record.actionSeq) record.txHash
      txBindingsByHash := repo.txBindingsByHash.insert record.txHash record }

/-- **A binding is inserted exactly if both of its keys are new.** -/
theorem insertTxBinding_eq_ok {repo repo' : ChainTxRepo} {record : TxBindingInsert} :
    repo.insertTxBinding record = .ok repo' ↔
      (record.handId, record.actionSeq) ∉ repo.txBindingsByAction ∧
      record.txHash ∉ repo.txBindingsByHash ∧
      repo' = { repo with
        txBindingsByAction :=
          repo.txBindingsByAction.insert (record.handId, record.actionSeq) record.txHash
        txBindingsByHash := repo.txBindingsByHash.insert record.txHash record } := by
  unfold ChainTxRepo.insertTxBinding
  split_ifs with haction hhash
  · simp [haction]
  · simp [hhash]
  · simp [haction, hhash, eq_comm]

end HoldemPlatform.Chain.TxRepo
