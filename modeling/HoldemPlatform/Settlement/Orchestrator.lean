import HoldemPlatform.Settlement.Plan

/-!
# The Settlement Orchestrator

`try_auto_settle_showdown_room` is one poll of the settlement loop: it reads the room's engine state
and, if the hand is in showdown, builds the plan, stores it, writes the ledger, submits the transfers,
asks for their receipts, and tells the room when all are confirmed. An error ends the poll where it
happens; what was written or sent before stays. The wallet is outside: its answers within one poll are
functions of the number of the call. Audit and alert sinks only observe and are left out, as are
trace identifiers and time stamps.
-/

namespace HoldemPlatform.Settlement.Orchestrator

open HoldemPlatform.Lib.FiniteMap HoldemPlatform.Domain.Money HoldemPlatform.Domain.Game
open HoldemPlatform.Engine.State HoldemPlatform.Engine.Showdown HoldemPlatform.Settlement.Plan

/-! ### The in-memory stores -/

inductive LedgerDirection where
  | debit
  | credit
deriving DecidableEq

structure LedgerEntryInsert where
  entryType : String
  roomId : Option RoomId
  handId : Option HandId
  seatId : Option SeatId
  assetType : String
  amount : Chips
  direction : LedgerDirection
  accountScope : String
  remark : Option String
deriving DecidableEq

structure SettlementPlanRecord where
  settlementPlanId : ℕ
  roomId : RoomId
  handId : HandId
  status : String
  rakeAmount : Chips
  payoutTotal : Chips
  payload : SettlementPlan
deriving DecidableEq

structure SettlementRecord where
  settlementPlanId : ℕ
  roomId : RoomId
  handId : HandId
  txHash : Option String
  settlementStatus : String
  retryCount : ℕ
  errorDetail : Option String
deriving DecidableEq

/-- The ledger and the settlement repository; records with generated keys are kept as lists. -/
structure SettlementStores where
  ledger : List LedgerEntryInsert := []
  settlementPlans : List SettlementPlanRecord := []
  settlementRecords : List SettlementRecord := []
deriving DecidableEq

def updateSettlementRecordStatusByTxHash (records : List SettlementRecord) (txHash : String)
    (settlementStatus : String) (retryCount : ℕ) (errorDetail : Option String) :
    List SettlementRecord :=
  records.map fun record =>
    if record.txHash = some txHash then { record with settlementStatus, retryCount, errorDetail }
    else record

/-! ### The wallet -/

structure SettlementTransferRequest where
  roomId : RoomId
  handId : HandId
  toSeatId : SeatId
  toAddress : String
  amount : Chips
deriving DecidableEq

structure SettlementTransferSubmission where
  seatId : SeatId
  txHash : String
deriving DecidableEq

inductive SettlementTxStatus where
  | pending
  | confirmed
  | failed
deriving DecidableEq

structure SettlementTransferReceipt where
  txHash : String
  status : SettlementTxStatus
  confirmations : ℕ
deriving DecidableEq

inductive WalletEvent where
  | submitTransfer (request : SettlementTransferRequest) (reply : Except String String)
  | getTransferReceipt (txHash : String) (reply : Except String SettlementTransferReceipt)
deriving DecidableEq

/-- The wallet's answers to the calls of one poll, numbered from `0`. -/
structure WalletReplies where
  submitTransfer : ℕ → Except String String
  getTransferReceipt : ℕ → Except String SettlementTransferReceipt

/-! ### The service -/

def payoutTotal (plan : SettlementPlan) : Except MoneyError Chips :=
  checkedTotal 0 plan.payouts

/-- `serde_json::to_value` of a plan: an amount is a JSON number, and those have 64 bits. -/
def planToValue (plan : SettlementPlan) : Except String Unit :=
  if plan.rakeAmount.asU128 < 2 ^ 64 ∧ ∀ p ∈ plan.payouts, p.amount.asU128 < 2 ^ 64 then .ok ()
  else .error "number out of range"

def payoutEntry (plan : SettlementPlan) (payout : SettlementPayout) : LedgerEntryInsert where
  entryType := "settlement_payout"
  roomId := some plan.roomId
  handId := some plan.handId
  seatId := some payout.seatId
  assetType := "CFX"
  amount := payout.amount
  direction := .debit
  accountScope := "room_pot"
  remark := some "planned payout"

def rakeEntry (plan : SettlementPlan) : LedgerEntryInsert where
  entryType := "rake_accrual"
  roomId := some plan.roomId
  handId := some plan.handId
  seatId := none
  assetType := "CFX"
  amount := plan.rakeAmount
  direction := .credit
  accountScope := "room_rake"
  remark := some "rake accrual from settlement plan"

def planEntries (plan : SettlementPlan) : List LedgerEntryInsert :=
  (if plan.rakeAmount = 0 then [] else [rakeEntry plan]) ++ plan.payouts.map (payoutEntry plan)

/-- `submit_direct_payouts`: the exchanges it makes, and the submissions or the error that ends it.
The number counts the transfers submitted before. -/
def submitDirectPayouts (plan : SettlementPlan) (seatAddresses : HashMap SeatId String)
    (wallet : WalletReplies) : ℕ → List SettlementPayout →
    List WalletEvent × Except SettlementError (List SettlementTransferSubmission)
  | _, [] => ([], .ok [])
  | n, payout :: rest =>
    if payout.amount = 0 then submitDirectPayouts plan seatAddresses wallet n rest
    else
      match seatAddresses.lookup payout.seatId with
      | none =>
        ([], .error (.walletAdapter
          ("missing payout address for seat " ++ toString payout.seatId.val)))
      | some toAddress =>
        let request : SettlementTransferRequest :=
          { roomId := plan.roomId, handId := plan.handId, toSeatId := payout.seatId, toAddress,
            amount := payout.amount }
        match wallet.submitTransfer n with
        | .error e => ([.submitTransfer request (.error e)], .error (.walletAdapter e))
        | .ok txHash =>
          let later := submitDirectPayouts plan seatAddresses wallet (n + 1) rest
          (.submitTransfer request (.ok txHash) :: later.1,
            later.2.map ({ seatId := payout.seatId, txHash } :: ·))

/-- `check_payout_submissions`: too few confirmations count as pending. -/
def checkPayoutSubmissions (wallet : WalletReplies) (minConfirmations : ℕ) :
    ℕ → List SettlementTransferSubmission →
    List WalletEvent × Except SettlementError (List SettlementTransferReceipt)
  | _, [] => ([], .ok [])
  | n, submission :: rest =>
    match wallet.getTransferReceipt n with
    | .error e =>
      ([.getTransferReceipt submission.txHash (.error e)], .error (.walletAdapter e))
    | .ok receipt =>
      let checked :=
        if receipt.status = .confirmed ∧ receipt.confirmations < minConfirmations then
          { receipt with status := .pending }
        else receipt
      let later := checkPayoutSubmissions wallet minConfirmations (n + 1) rest
      (.getTransferReceipt submission.txHash (.ok receipt) :: later.1, later.2.map (checked :: ·))

/-- The record `persist_submission_records` inserts for a submission. -/
def submissionRecord (settlementPlanId : ℕ) (snapshot : HandSnapshot)
    (submission : SettlementTransferSubmission) : SettlementRecord where
  settlementPlanId := settlementPlanId
  roomId := snapshot.roomId
  handId := snapshot.handId
  txHash := some submission.txHash
  settlementStatus := "submitted"
  retryCount := 0
  errorDetail := none

def persistReceiptStatusUpdates (records : List SettlementRecord)
    (receipts : List SettlementTransferReceipt) : List SettlementRecord :=
  receipts.foldl (fun records receipt =>
    match receipt.status with
    | .confirmed =>
      updateSettlementRecordStatusByTxHash records receipt.txHash "confirmed" 0 none
    | .pending => updateSettlementRecordStatusByTxHash records receipt.txHash "pending" 0 none
    | .failed =>
      updateSettlementRecordStatusByTxHash records receipt.txHash "failed" 1
        (some "wallet receipt returned failed status")) records

def markFailedReceiptsForManualReview (records : List SettlementRecord)
    (receipts : List SettlementTransferReceipt) (retryCount : ℕ) (reason : String) :
    List SettlementRecord :=
  receipts.foldl (fun records receipt =>
    if receipt.status = .failed then
      updateSettlementRecordStatusByTxHash records receipt.txHash "manual_review_required"
        retryCount (some reason)
    else records) records

/-! ### One poll -/

variable {Card : Type}

inductive AutoSettlementOutcome where
  | noActiveHand
  | notShowdown
  | waitingForShowdownInput
  | waitingForSeatAddresses
  | settled
deriving DecidableEq

/-- What one poll reads and hears from outside. -/
structure PollEnv (Card : Type) where
  showdownInput : Except String (Option (ShowdownInput Card))
  seatAddresses : Except String (HashMap SeatId String)
  wallet : WalletReplies
  rakePolicy : RakePolicy
  minConfirmations : ℕ
  settlementPlanId : ℕ
  completeSettlement : Except String Unit

/-- What one poll leaves behind: the stores, the exchanges with the wallet, the hand the room was told
is settled, and its own result. -/
structure PollResult where
  stores : SettlementStores
  events : List WalletEvent := []
  completed : Option HandId := none
  result : Except String AutoSettlementOutcome

def storePlan (stores : SettlementStores) (settlementPlanId : ℕ) (snapshot : HandSnapshot)
    (plan : SettlementPlan) (payoutTotal : Chips) : SettlementStores where
  ledger := stores.ledger ++ planEntries plan
  settlementPlans := stores.settlementPlans ++
    [{ settlementPlanId, roomId := snapshot.roomId, handId := snapshot.handId, status := "created",
       rakeAmount := plan.rakeAmount, payoutTotal, payload := plan }]
  settlementRecords := stores.settlementRecords

def receiptRecords (records : List SettlementRecord)
    (receipts : List SettlementTransferReceipt) : List SettlementRecord :=
  markFailedReceiptsForManualReview (persistReceiptStatusUpdates records receipts) receipts 1
    "manual review required after failed direct payout receipt"

/-- The part of a settlement that follows the submissions. -/
def settleReceipts (env : PollEnv Card) (stores : SettlementStores) (handId : HandId)
    (events : List WalletEvent) (submissions : List SettlementTransferSubmission) : PollResult :=
  let checked := checkPayoutSubmissions env.wallet env.minConfirmations 0 submissions
  match checked.2 with
  | .error e => { stores, events := events ++ checked.1, result := .error e.text }
  | .ok receipts =>
    let stores :=
      { stores with settlementRecords := receiptRecords stores.settlementRecords receipts }
    if receipts.all fun r => r.status = .confirmed then
      match env.completeSettlement with
      | .error e =>
        { stores, events := events ++ checked.1,
          result := .error ("complete settlement failed: " ++ e) }
      | .ok () =>
        { stores, events := events ++ checked.1, completed := some handId,
          result := .ok .settled }
    else { stores, events := events ++ checked.1, result := .ok .settled }

/-- The part of a settlement that follows the stored plan. -/
def settlePlan (env : PollEnv Card) (stores : SettlementStores) (snapshot : HandSnapshot)
    (plan : SettlementPlan) (seatAddresses : HashMap SeatId String) : PollResult :=
  let submitted := submitDirectPayouts plan seatAddresses env.wallet 0 plan.payouts
  match submitted.2 with
  | .error e => { stores, events := submitted.1, result := .error e.text }
  | .ok submissions =>
    settleReceipts env
      { stores with
        settlementRecords := stores.settlementRecords ++
          submissions.map (submissionRecord env.settlementPlanId snapshot) }
      snapshot.handId submitted.1 submissions

/-- `run_showdown_settlement_with_direct_payouts_and_alerts`. -/
def runShowdownSettlementWithDirectPayouts [RsPoker Card] (env : PollEnv Card)
    (stores : SettlementStores) (st : EngineState Card) (input : ShowdownInput Card)
    (seatAddresses : HashMap SeatId String) : PollResult :=
  match buildSettlementPlanFromShowdown st input env.rakePolicy with
  | .error e => { stores, result := .error e }
  | .ok plan =>
    match payoutTotal plan with
    | .error e =>
      { stores, result := .error ("settlement payout_total failed: " ++ moneyErrorText e) }
    | .ok payoutTotal =>
      match planToValue plan with
      | .error e => { stores, result := .error e }
      | .ok () =>
        settlePlan env (storePlan stores env.settlementPlanId st.snapshot plan payoutTotal)
          st.snapshot plan seatAddresses

/-- `try_auto_settle_showdown_room`, given the engine state the room answered with. -/
def tryAutoSettleShowdownRoom [RsPoker Card] (env : PollEnv Card) (stores : SettlementStores)
    (state : Except String (Option (EngineState Card))) : PollResult :=
  match state with
  | .error e => { stores, result := .error e }
  | .ok none => { stores, result := .ok .noActiveHand }
  | .ok (some st) =>
    if st.snapshot.status ≠ .showdown then { stores, result := .ok .notShowdown }
    else
      match env.showdownInput with
      | .error e => { stores, result := .error e }
      | .ok none => { stores, result := .ok .waitingForShowdownInput }
      | .ok (some input) =>
        match env.seatAddresses with
        | .error e => { stores, result := .error e }
        | .ok seatAddresses =>
          if pairs seatAddresses = [] then { stores, result := .ok .waitingForSeatAddresses }
          else runShowdownSettlementWithDirectPayouts env stores st input seatAddresses

/-! ### What a poll can do -/

def payoutKey (entry : LedgerEntryInsert) : Option (HandId × SeatId) :=
  if entry.entryType = "settlement_payout" then
    match entry.handId, entry.seatId with
    | some handId, some seatId => some (handId, seatId)
    | _, _ => none
  else none

def transferKey : WalletEvent → Option (HandId × SeatId)
  | .submitTransfer request _ => some (request.handId, request.toSeatId)
  | .getTransferReceipt _ _ => none

def planKeys (plan : SettlementPlan) : List (HandId × SeatId) :=
  plan.payouts.map fun p => (plan.handId, p.seatId)

theorem filterMap_payoutKey_planEntries (plan : SettlementPlan) :
    (planEntries plan).filterMap payoutKey = planKeys plan := by
  have hrake : (if plan.rakeAmount = 0 then [] else [rakeEntry plan]).filterMap payoutKey = [] := by
    split_ifs <;> rfl
  have hpay : ∀ p : SettlementPayout,
      payoutKey (payoutEntry plan p) = some (plan.handId, p.seatId) := fun _ => rfl
  rw [planEntries, List.filterMap_append, hrake, List.nil_append, List.filterMap_map, planKeys,
    ← List.filterMap_eq_map]
  exact List.filterMap_congr fun p _ => hpay p

theorem transfers_submitDirectPayouts (plan : SettlementPlan)
    (seatAddresses : HashMap SeatId String) (wallet : WalletReplies) :
    ∀ (n : ℕ) (payouts : List SettlementPayout),
      ((submitDirectPayouts plan seatAddresses wallet n payouts).1.filterMap transferKey).Sublist
        (payouts.map fun p => (plan.handId, p.seatId))
  | _, [] => List.Sublist.refl _
  | n, payout :: rest => by
    unfold submitDirectPayouts
    split_ifs
    · exact (transfers_submitDirectPayouts plan seatAddresses wallet n rest).cons _
    split
    · exact List.nil_sublist _
    dsimp only
    split
    · exact (List.nil_sublist _).cons_cons _
    · exact (transfers_submitDirectPayouts plan seatAddresses wallet (n + 1) rest).cons_cons _

theorem transfers_checkPayoutSubmissions (wallet : WalletReplies) (minConfirmations : ℕ) :
    ∀ (n : ℕ) (submissions : List SettlementTransferSubmission),
      (checkPayoutSubmissions wallet minConfirmations n submissions).1.filterMap transferKey = []
  | _, [] => rfl
  | n, submission :: rest => by
    unfold checkPayoutSubmissions
    split
    · rfl
    · exact transfers_checkPayoutSubmissions wallet minConfirmations (n + 1) rest

/-- The poll finds everything it needs to settle the hand. -/
def ReachesSettlement (env : PollEnv Card) (st : EngineState Card) : Prop :=
  st.snapshot.status = .showdown ∧ ∃ input seatAddresses,
    env.showdownInput = .ok (some input) ∧ env.seatAddresses = .ok seatAddresses ∧
      pairs seatAddresses ≠ []

/-- The poll has recorded a plan and submitted some of its transfers. -/
structure Attempted (stores : SettlementStores) (handId : HandId) (plan : SettlementPlan)
    (r : PollResult) : Prop where
  ledger : r.stores.ledger = stores.ledger ++ planEntries plan
  plans : ∃ record : SettlementPlanRecord, record.handId = handId ∧
    r.stores.settlementPlans = stores.settlementPlans ++ [record]
  transfers : (r.events.filterMap transferKey).Sublist (planKeys plan)
  completed : r.completed = none ∨ r.completed = some handId

theorem settleReceipts_spec (env : PollEnv Card) (stores : SettlementStores) (handId : HandId)
    (events : List WalletEvent) (submissions : List SettlementTransferSubmission) :
    let r := settleReceipts env stores handId events submissions
    r.stores.ledger = stores.ledger ∧ r.stores.settlementPlans = stores.settlementPlans ∧
      r.events.filterMap transferKey = events.filterMap transferKey ∧
      (r.completed = none ∨ r.completed = some handId) := by
  have hevents : ∀ later, later.filterMap transferKey = [] →
      (events ++ later).filterMap transferKey = events.filterMap transferKey := by
    intro later h
    rw [List.filterMap_append, h, List.append_nil]
  have hchecked := hevents _
    (transfers_checkPayoutSubmissions env.wallet env.minConfirmations 0 submissions)
  dsimp only
  unfold settleReceipts
  dsimp only
  split
  · exact ⟨rfl, rfl, hchecked, .inl rfl⟩
  split_ifs
  · split
    · exact ⟨rfl, rfl, hchecked, .inl rfl⟩
    · exact ⟨rfl, rfl, hchecked, .inr rfl⟩
  · exact ⟨rfl, rfl, hchecked, .inl rfl⟩

theorem settlePlan_attempted (env : PollEnv Card) (stores : SettlementStores)
    (snapshot : HandSnapshot) (plan : SettlementPlan) (payoutTotal : Chips)
    (seatAddresses : HashMap SeatId String) :
    Attempted stores snapshot.handId plan
      (settlePlan env (storePlan stores env.settlementPlanId snapshot plan payoutTotal) snapshot plan
        seatAddresses) := by
  have hsub := transfers_submitDirectPayouts plan seatAddresses env.wallet 0 plan.payouts
  unfold settlePlan
  dsimp only
  split
  · exact ⟨rfl, ⟨_, rfl, rfl⟩, hsub, .inl rfl⟩
  · rename_i submissions _
    obtain ⟨hledger, hplans, hevents, hcompleted⟩ := settleReceipts_spec env _ snapshot.handId
      (submitDirectPayouts plan seatAddresses env.wallet 0 plan.payouts).1 submissions
    exact ⟨hledger, ⟨_, rfl, hplans⟩, hevents ▸ hsub, hcompleted⟩

variable [RsPoker Card]

/-- **A poll does nothing, or it has found a showdown and recorded a plan for its hand.** -/
theorem poll_cases (env : PollEnv Card) (stores : SettlementStores)
    (state : Except String (Option (EngineState Card))) :
    let r := tryAutoSettleShowdownRoom env stores state
    (r.stores = stores ∧ r.events = [] ∧ r.completed = none) ∨
      ∃ st plan, state = .ok (some st) ∧ ReachesSettlement env st ∧
        PlanFor st.snapshot.roomId st.snapshot.handId plan ∧
        Attempted stores st.snapshot.handId plan r := by
  dsimp only
  unfold tryAutoSettleShowdownRoom
  split
  · exact .inl ⟨rfl, rfl, rfl⟩
  · exact .inl ⟨rfl, rfl, rfl⟩
  rename_i st
  split_ifs with hstatus
  · exact .inl ⟨rfl, rfl, rfl⟩
  split
  · exact .inl ⟨rfl, rfl, rfl⟩
  · exact .inl ⟨rfl, rfl, rfl⟩
  rename_i input hinput
  split
  · exact .inl ⟨rfl, rfl, rfl⟩
  rename_i seatAddresses haddresses
  split_ifs with hempty
  · exact .inl ⟨rfl, rfl, rfl⟩
  unfold runShowdownSettlementWithDirectPayouts
  split
  · exact .inl ⟨rfl, rfl, rfl⟩
  rename_i plan hplan
  split
  · exact .inl ⟨rfl, rfl, rfl⟩
  rename_i total _
  split
  · exact .inl ⟨rfl, rfl, rfl⟩
  exact .inr ⟨st, plan, rfl, ⟨not_not.1 hstatus, input, seatAddresses, hinput, haddresses, hempty⟩,
    planFor_showdown hplan, settlePlan_attempted env stores st.snapshot plan total seatAddresses⟩

end HoldemPlatform.Settlement.Orchestrator
