import HoldemPlatform.Settlement.Orchestrator

/-!
# Payouts in One Transaction

The batch variant of the settlement: the transfers of all payouts are collected first, submitted as
one transaction, and the hand is complete when that transaction is confirmed.
-/

namespace HoldemPlatform.Settlement.BatchPayouts

open HoldemPlatform.Lib.FiniteMap HoldemPlatform.Domain.Money HoldemPlatform.Domain.Game
open HoldemPlatform.Engine.State HoldemPlatform.Engine.Showdown
open HoldemPlatform.Settlement.Plan HoldemPlatform.Settlement.Orchestrator

structure BatchSettlementTransferRequest where
  roomId : RoomId
  handId : HandId
  transfers : List SettlementTransferRequest
deriving DecidableEq

structure BatchSettlementTransferSubmission where
  txHash : String
  transferCount : ℕ
deriving DecidableEq

structure BatchSettlementTransferReceipt where
  txHash : String
  status : SettlementTxStatus
  confirmations : ℕ
  appliedCount : ℕ
deriving DecidableEq

inductive BatchWalletEvent where
  | submitBatchTransfer (request : BatchSettlementTransferRequest) (reply : Except String String)
  | getBatchTransferReceipt (txHash : String)
      (reply : Except String BatchSettlementTransferReceipt)
deriving DecidableEq

/-- What a settlement hears from outside. -/
structure BatchEnv where
  submitBatchTransfer : Except String String
  getBatchTransferReceipt : Except String BatchSettlementTransferReceipt
  rakePolicy : RakePolicy
  minConfirmations : ℕ
  settlementPlanId : ℕ
  completeSettlement : Except String Unit

/-- What a settlement leaves behind; `completeCall` is the hand the room was told is settled, whatever
it answered. -/
structure BatchResult where
  stores : SettlementStores
  events : List BatchWalletEvent := []
  completeCall : Option HandId := none
  result : Except String SettlementPlan

/-- The transfers of a batch: a payout without an address ends the collection. -/
def batchTransfers (plan : SettlementPlan) (seatAddresses : HashMap SeatId String) :
    List SettlementPayout → Except SettlementError (List SettlementTransferRequest)
  | [] => .ok []
  | payout :: rest =>
    if payout.amount = 0 then batchTransfers plan seatAddresses rest
    else
      match seatAddresses.lookup payout.seatId with
      | none =>
        .error (.walletAdapter ("missing payout address for seat " ++ toString payout.seatId.val))
      | some toAddress =>
        (batchTransfers plan seatAddresses rest).map fun transfers =>
          { roomId := plan.roomId, handId := plan.handId, toSeatId := payout.seatId, toAddress,
            amount := payout.amount } :: transfers

def submitBatchPayouts (plan : SettlementPlan) (seatAddresses : HashMap SeatId String)
    (reply : Except String String) :
    List BatchWalletEvent × Except SettlementError BatchSettlementTransferSubmission :=
  match batchTransfers plan seatAddresses plan.payouts with
  | .error e => ([], .error e)
  | .ok transfers =>
    ([.submitBatchTransfer { roomId := plan.roomId, handId := plan.handId, transfers } reply],
      match reply with
      | .error e => .error (.walletAdapter e)
      | .ok txHash =>
        .ok { txHash, transferCount := (plan.payouts.filter fun p => p.amount ≠ 0).length })

/-- `check_batch_payout_submission`: too few confirmations count as pending. -/
def checkBatchPayoutSubmission (submission : BatchSettlementTransferSubmission)
    (minConfirmations : ℕ) (reply : Except String BatchSettlementTransferReceipt) :
    List BatchWalletEvent × Except SettlementError BatchSettlementTransferReceipt :=
  ([.getBatchTransferReceipt submission.txHash reply],
    match reply with
    | .error e => .error (.walletAdapter e)
    | .ok receipt =>
      .ok (if receipt.status = .confirmed ∧ receipt.confirmations < minConfirmations then
        { receipt with status := .pending }
      else receipt))

/-- The records after the receipt of a batch. -/
def batchReceiptRecords (records : List SettlementRecord)
    (receipt : BatchSettlementTransferReceipt) : List SettlementRecord :=
  let receipts : List SettlementTransferReceipt :=
    [{ txHash := receipt.txHash, status := receipt.status, confirmations := receipt.confirmations }]
  let updated := persistReceiptStatusUpdates records receipts
  if receipt.status = .failed then
    markFailedReceiptsForManualReview updated receipts 1
      "manual review required after failed batch payout receipt"
  else updated

/-- The part of a settlement that follows the stored plan. -/
def settleBatch (env : BatchEnv) (stores : SettlementStores) (snapshot : HandSnapshot)
    (plan : SettlementPlan) (seatAddresses : HashMap SeatId String) : BatchResult :=
  let submitted := submitBatchPayouts plan seatAddresses env.submitBatchTransfer
  match submitted.2 with
  | .error e => { stores, events := submitted.1, result := .error e.text }
  | .ok submission =>
    -- `persist_batch_submission_record` writes the record of a single submission
    let records := stores.settlementRecords ++
      [{ settlementPlanId := env.settlementPlanId, roomId := snapshot.roomId,
         handId := snapshot.handId, txHash := some submission.txHash,
         settlementStatus := "submitted", retryCount := 0, errorDetail := none }]
    let checked :=
      checkBatchPayoutSubmission submission env.minConfirmations env.getBatchTransferReceipt
    match checked.2 with
    | .error e =>
      { stores := { stores with settlementRecords := records }
        events := submitted.1 ++ checked.1, result := .error e.text }
    | .ok receipt =>
      let stores := { stores with settlementRecords := batchReceiptRecords records receipt }
      if receipt.status = .confirmed then
        { stores, events := submitted.1 ++ checked.1, completeCall := some snapshot.handId
          result := match env.completeSettlement with
            | .error e => .error ("complete settlement failed: " ++ e)
            | .ok () => .ok plan }
      else { stores, events := submitted.1 ++ checked.1, result := .ok plan }

/-- `run_showdown_settlement_with_batch_payouts_and_alerts`. -/
def runShowdownSettlementWithBatchPayouts {Card : Type} [RsPoker Card] (env : BatchEnv)
    (stores : SettlementStores) (st : EngineState Card) (input : ShowdownInput Card)
    (seatAddresses : HashMap SeatId String) : BatchResult :=
  match buildSettlementPlanFromShowdown st input env.rakePolicy with
  | .error e => { stores, result := .error e }
  | .ok plan =>
    match payoutTotal plan with
    | .error e =>
      { stores, result := .error ("settlement payout_total failed: " ++ moneyErrorText e) }
    | .ok payoutTotal =>
      match planToValue plan with
      | .error e => { stores, result := .error e }
      | .ok () =>
        settleBatch env (storePlan stores env.settlementPlanId st.snapshot plan payoutTotal)
          st.snapshot plan seatAddresses

end HoldemPlatform.Settlement.BatchPayouts
