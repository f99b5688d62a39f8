import HoldemPlatform.Settlement.Conservation
import HoldemPlatform.Settlement.Orchestrator

/-!
# Submitted Transfers on Record

The transfers of a plan are submitted one after the other, and only when all of them are is the first
of them recorded. A payout without an address, or a transfer the wallet refuses, ends the settlement in
between: what was sent before is then on the chain and nowhere in the repository. `submit_cases` says
what the submission loop has sent; `transfers_recorded_iff` when all of it is on record at the end.
-/

namespace HoldemPlatform.Settlement.Submissions

open HoldemPlatform.Lib.FiniteMap HoldemPlatform.Domain.Money HoldemPlatform.Domain.Game
open HoldemPlatform.Engine.State HoldemPlatform.Engine.Showdown
open HoldemPlatform.Settlement.Plan HoldemPlatform.Settlement.Conservation
open HoldemPlatform.Settlement.Orchestrator

def duePayouts (payouts : List SettlementPayout) : List SettlementPayout :=
  payouts.filter fun p => p.amount ≠ 0

/-- A payout with the address it goes to and the transaction the wallet answered with. -/
structure Transfer where
  payout : SettlementPayout
  toAddress : String
  txHash : String
deriving DecidableEq

def Transfer.request (plan : SettlementPlan) (t : Transfer) : SettlementTransferRequest where
  roomId := plan.roomId
  handId := plan.handId
  toSeatId := t.payout.seatId
  toAddress := t.toAddress
  amount := t.payout.amount

def Transfer.event (plan : SettlementPlan) (t : Transfer) : WalletEvent :=
  .submitTransfer (t.request plan) (.ok t.txHash)

def Transfer.submission (t : Transfer) : SettlementTransferSubmission := ⟨t.payout.seatId, t.txHash⟩

/-- The transfers that go out before the first payout that has no address or is refused; the number
counts the calls of the wallet before. -/
def accepted (seatAddresses : HashMap SeatId String) (wallet : WalletReplies) :
    ℕ → List SettlementPayout → List Transfer
  | _, [] => []
  | n, payout :: rest =>
    match seatAddresses.lookup payout.seatId, wallet.submitTransfer n with
    | some toAddress, .ok txHash =>
      ⟨payout, toAddress, txHash⟩ :: accepted seatAddresses wallet (n + 1) rest
    | _, _ => []

def AllAccepted (seatAddresses : HashMap SeatId String) (wallet : WalletReplies) (n : ℕ)
    (payouts : List SettlementPayout) : Prop :=
  ∀ i p, payouts[i]? = some p → (∃ toAddress, seatAddresses.lookup p.seatId = some toAddress) ∧
    ∃ txHash, wallet.submitTransfer (n + i) = .ok txHash

section

variable {plan : SettlementPlan} {seatAddresses : HashMap SeatId String} {wallet : WalletReplies}

/-! ### The submission loop -/

theorem lookup_of_mem_accepted {n : ℕ} {payouts : List SettlementPayout} {t : Transfer}
    (h : t ∈ accepted seatAddresses wallet n payouts) :
    seatAddresses.lookup t.payout.seatId = some t.toAddress := by
  induction payouts generalizing n with
  | nil => cases h
  | cons payout rest ih =>
    rw [accepted] at h
    split at h
    · rename_i toAddress txHash haddress _
      rcases List.mem_cons.1 h with rfl | h
      · exact haddress
      · exact ih h
    · cases h

theorem allAccepted_cons {n : ℕ} {payout : SettlementPayout} {rest : List SettlementPayout} :
    AllAccepted seatAddresses wallet n (payout :: rest) ↔
      ((∃ toAddress, seatAddresses.lookup payout.seatId = some toAddress) ∧
        ∃ txHash, wallet.submitTransfer n = .ok txHash) ∧
      AllAccepted seatAddresses wallet (n + 1) rest := by
  constructor
  · intro h
    refine ⟨h 0 payout rfl, fun i p hp => ?_⟩
    have hi := h (i + 1) p hp
    rwa [show n + (i + 1) = n + 1 + i by omega] at hi
  · rintro ⟨hpayout, hrest⟩ i p hp
    cases i with
    | zero =>
      obtain rfl := Option.some.inj hp
      exact hpayout
    | succ i =>
      have hi := hrest i p hp
      rwa [show n + 1 + i = n + (i + 1) by omega] at hi

theorem map_payout_accepted_iff (n : ℕ) (payouts : List SettlementPayout) :
    (accepted seatAddresses wallet n payouts).map Transfer.payout = payouts ↔
      AllAccepted seatAddresses wallet n payouts := by
  induction payouts generalizing n with
  | nil => exact iff_of_true rfl nofun
  | cons payout rest ih =>
    rw [allAccepted_cons, accepted]
    split
    · rename_i toAddress txHash haddress hreply
      rw [List.map_cons, List.cons.injEq, ih (n + 1)]
      exact ⟨fun h => ⟨⟨⟨toAddress, haddress⟩, txHash, hreply⟩, h.2⟩, fun h => ⟨rfl, h.2⟩⟩
    · rename_i hno
      refine iff_of_false nofun ?_
      rintro ⟨⟨⟨toAddress, haddress⟩, txHash, hreply⟩, -⟩
      exact hno toAddress txHash haddress hreply

/-- **What the submission loop sends**: all the due payouts, or the first of them and then an error
without another transaction. -/
theorem submit_cases (n : ℕ) (payouts : List SettlementPayout) :
    let sent := accepted seatAddresses wallet n (duePayouts payouts)
    (AllAccepted seatAddresses wallet n (duePayouts payouts) ∧
      submitDirectPayouts plan seatAddresses wallet n payouts =
        (sent.map (Transfer.event plan), .ok (sent.map Transfer.submission))) ∨
    (¬ AllAccepted seatAddresses wallet n (duePayouts payouts) ∧ ∃ e failed,
      submitDirectPayouts plan seatAddresses wallet n payouts =
        (sent.map (Transfer.event plan) ++ failed, .error e) ∧
      ∀ request txHash, .submitTransfer request (.ok txHash) ∉ failed) := by
  induction payouts generalizing n with
  | nil => exact .inl ⟨nofun, rfl⟩
  | cons payout rest ih =>
    by_cases hzero : payout.amount = 0
    · have hdue : duePayouts (payout :: rest) = duePayouts rest := by simp [duePayouts, hzero]
      rw [hdue, submitDirectPayouts, if_pos hzero]
      exact ih n
    have hdue : duePayouts (payout :: rest) = payout :: duePayouts rest := by
      simp [duePayouts, hzero]
    rw [hdue, submitDirectPayouts, if_neg hzero, allAccepted_cons, accepted]
    cases haddress : seatAddresses.lookup payout.seatId with
    | none =>
      refine .inr ⟨?_, _, [], rfl, fun _ _ => List.not_mem_nil⟩
      rintro ⟨⟨⟨_, h⟩, -⟩, -⟩
      cases h
    | some toAddress =>
      cases hreply : wallet.submitTransfer n with
      | error e =>
        refine .inr ⟨?_, _, [_], rfl, fun request txHash h => ?_⟩
        · rintro ⟨⟨-, _, h⟩, -⟩
          cases h
        · cases List.mem_singleton.1 h
      | ok txHash =>
        dsimp only
        rcases ih (n + 1) with ⟨hall, hrest⟩ | ⟨hnot, e, failed, hrest, hfailed⟩
        · refine .inl ⟨⟨⟨⟨_, rfl⟩, _, rfl⟩, hall⟩, ?_⟩
          rw [hrest]
          rfl
        · refine .inr ⟨fun h => hnot h.2, e, failed, ?_, hfailed⟩
          rw [hrest]
          rfl

end

/-! ### The records -/

def OnRecord (records : List SettlementRecord) (txHash : String) : Prop :=
  some txHash ∈ records.map SettlementRecord.txHash

/-- Every transaction the wallet returned for a transfer is on record when the settlement returns. -/
def AllRecorded (r : PollResult) : Prop :=
  ∀ request txHash, .submitTransfer request (.ok txHash) ∈ r.events →
    OnRecord r.stores.settlementRecords txHash

/-- All due payouts of the plan go out, or what goes out before one that does not was on record
already. -/
def KeepsRecord (records : List SettlementRecord) (seatAddresses : HashMap SeatId String)
    (wallet : WalletReplies) (plan : SettlementPlan) : Prop :=
  AllAccepted seatAddresses wallet 0 (duePayouts plan.payouts) ∨
    ∀ t ∈ accepted seatAddresses wallet 0 (duePayouts plan.payouts), OnRecord records t.txHash

theorem map_txHash_update (records : List SettlementRecord) (txHash settlementStatus : String)
    (retryCount : ℕ) (errorDetail : Option String) :
    (updateSettlementRecordStatusByTxHash records txHash settlementStatus retryCount
      errorDetail).map SettlementRecord.txHash = records.map SettlementRecord.txHash := by
  unfold updateSettlementRecordStatusByTxHash
  rw [List.map_map]
  refine List.map_congr_left fun record _ => ?_
  show SettlementRecord.txHash (if _ then _ else _) = _
  split_ifs <;> rfl

theorem map_txHash_foldl {α : Type} {f : List SettlementRecord → α → List SettlementRecord}
    (hf : ∀ records a,
      (f records a).map SettlementRecord.txHash = records.map SettlementRecord.txHash) :
    ∀ (as : List α) (records : List SettlementRecord),
      (as.foldl f records).map SettlementRecord.txHash = records.map SettlementRecord.txHash
  | [], _ => rfl
  | a :: as, records => by rw [List.foldl_cons, map_txHash_foldl hf as, hf]

/-- Receipts change the status of a record, not its transaction. -/
theorem map_txHash_receiptRecords (records : List SettlementRecord)
    (receipts : List SettlementTransferReceipt) :
    (receiptRecords records receipts).map SettlementRecord.txHash =
      records.map SettlementRecord.txHash := by
  rw [receiptRecords, markFailedReceiptsForManualReview, map_txHash_foldl,
    persistReceiptStatusUpdates, map_txHash_foldl]
  · intro records receipt
    split <;> exact map_txHash_update ..
  · intro records receipt
    split_ifs
    · exact map_txHash_update ..
    · rfl

section

variable {Card : Type}

theorem settleReceipts_records (env : PollEnv Card) (stores : SettlementStores) (handId : HandId)
    (events : List WalletEvent) (submissions : List SettlementTransferSubmission) :
    let r := settleReceipts env stores handId events submissions
    r.stores.settlementRecords.map SettlementRecord.txHash =
        stores.settlementRecords.map SettlementRecord.txHash ∧
      r.events = events ++
        (checkPayoutSubmissions env.wallet env.minConfirmations 0 submissions).1 := by
  dsimp only
  unfold settleReceipts
  dsimp only
  split
  · exact ⟨rfl, rfl⟩
  split_ifs
  · split
    · exact ⟨map_txHash_receiptRecords _ _, rfl⟩
    · exact ⟨map_txHash_receiptRecords _ _, rfl⟩
  · exact ⟨map_txHash_receiptRecords _ _, rfl⟩

theorem submitTransfer_notMem_check (wallet : WalletReplies) (minConfirmations : ℕ)
    (request : SettlementTransferRequest) (reply : Except String String) (n : ℕ)
    (submissions : List SettlementTransferSubmission) :
    .submitTransfer request reply ∉
      (checkPayoutSubmissions wallet minConfirmations n submissions).1 := by
  intro h
  have hkeys := transfers_checkPayoutSubmissions wallet minConfirmations n submissions
  have hmem : (request.handId, request.toSeatId) ∈
      (checkPayoutSubmissions wallet minConfirmations n submissions).1.filterMap transferKey :=
    List.mem_filterMap.2 ⟨_, h, rfl⟩
  rw [hkeys] at hmem
  cases hmem

theorem submitTransfer_mem_events {plan : SettlementPlan} {sent : List Transfer}
    {request : SettlementTransferRequest} {txHash : String}
    (h : .submitTransfer request (.ok txHash) ∈ sent.map (Transfer.event plan)) :
    ∃ t ∈ sent, t.txHash = txHash := by
  obtain ⟨t, ht, heq⟩ := List.mem_map.1 h
  cases heq
  exact ⟨t, ht, rfl⟩

/-- **One plan**: its transfers are on record exactly if the loop was not cut short, or sent nothing
new before. -/
theorem settlePlan_recorded_iff (env : PollEnv Card) (stores : SettlementStores)
    (snapshot : HandSnapshot) (plan : SettlementPlan) (seatAddresses : HashMap SeatId String) :
    AllRecorded (settlePlan env stores snapshot plan seatAddresses) ↔
      KeepsRecord stores.settlementRecords seatAddresses env.wallet plan := by
  unfold settlePlan KeepsRecord
  have hcases := @submit_cases plan seatAddresses env.wallet 0 plan.payouts
  generalize accepted seatAddresses env.wallet 0 (duePayouts plan.payouts) = sent at hcases ⊢
  rcases hcases with ⟨hall, heq⟩ | ⟨hnot, e, failed, heq, hfailed⟩
  · -- everything was sent, and every submission gets its record
    rw [heq]
    refine iff_of_true (fun request txHash hmem => ?_) (.inl hall)
    obtain ⟨hrecords, hevents⟩ := settleReceipts_records env
      { stores with
        settlementRecords := stores.settlementRecords ++ (sent.map Transfer.submission).map
          (submissionRecord env.settlementPlanId snapshot) }
      snapshot.handId (sent.map (Transfer.event plan)) (sent.map Transfer.submission)
    rw [hevents] at hmem
    rcases List.mem_append.1 hmem with hmem | hmem
    · obtain ⟨t, ht, rfl⟩ := submitTransfer_mem_events hmem
      rw [OnRecord, hrecords, List.map_append, List.mem_append, List.map_map, List.map_map]
      exact .inr (List.mem_map.2 ⟨t, ht, rfl⟩)
    · exact absurd hmem (submitTransfer_notMem_check _ _ _ _ _ _)
  · -- the loop was cut short, and nothing is recorded
    rw [heq]
    constructor
    · intro h
      refine .inr fun t ht => h (t.request plan) t.txHash ?_
      exact List.mem_append_left _ (List.mem_map_of_mem ht)
    · intro h request txHash hmem
      rcases List.mem_append.1 hmem with hmem | hmem
      · obtain ⟨t, ht, rfl⟩ := submitTransfer_mem_events hmem
        exact h.resolve_left hnot t ht
      · exact absurd hmem (hfailed request txHash)

/-- **Every submitted transfer is on record when the settlement returns exactly if** all due payouts of
the plan it builds have an address and are accepted, or those accepted before the first that is not were
on record already. Nothing is submitted of a plan that is not stored, because its total or one of its
amounts is too large. -/
theorem transfers_recorded_iff [RsPoker Card] (env : PollEnv Card) (stores : SettlementStores)
    (st : EngineState Card) (input : ShowdownInput Card) (seatAddresses : HashMap SeatId String) :
    AllRecorded (runShowdownSettlementWithDirectPayouts env stores st input seatAddresses) ↔
      ∀ plan total, buildSettlementPlanFromShowdown st input env.rakePolicy = .ok plan →
        payoutTotal plan = .ok total → planToValue plan = .ok () →
        KeepsRecord stores.settlementRecords seatAddresses env.wallet plan := by
  unfold runShowdownSettlementWithDirectPayouts
  cases buildSettlementPlanFromShowdown st input env.rakePolicy with
  | error e => exact iff_of_true (fun _ _ h => absurd h List.not_mem_nil) (fun _ _ h => by cases h)
  | ok plan =>
    dsimp only
    cases htotal : payoutTotal plan with
    | error e =>
      refine iff_of_true (fun _ _ h => absurd h List.not_mem_nil) fun plan' total h htotal' => ?_
      cases h
      rw [htotal] at htotal'
      cases htotal'
    | ok total =>
      dsimp only
      cases hvalue : planToValue plan with
      | error e =>
        refine iff_of_true (fun _ _ h => absurd h List.not_mem_nil) fun plan' total h _ hvalue' => ?_
        cases h
        rw [hvalue] at hvalue'
        cases hvalue'
      | ok u =>
        refine (settlePlan_recorded_iff env _ st.snapshot plan seatAddresses).trans ?_
        refine ⟨fun h plan' total' heq _ _ => ?_, fun h => h plan total rfl htotal hvalue⟩
        cases heq
        exact h

end

/-- A settlement of two equal all-ins in which the wallet accepts the first transfer and refuses the
second. -/
def refusedSecond : PollEnv ByteCard where
  showdownInput := .ok none
  seatAddresses := .ok ((AList.insert 0 "0xa" ∅).insert 1 "0xb")
  wallet :=
    { submitTransfer := fun n => if n = 0 then .ok "0x10" else .error "nonce too low"
      getTransferReceipt := fun _ => .error "unknown transaction" }
  rakePolicy := ⟨0⟩
  minConfirmations := 1
  settlementPlanId := 0
  completeSettlement := .ok ()

/-- What a settlement of a showdown with its own cards leaves behind. -/
def settleOwn (env : PollEnv ByteCard) (st : EngineState ByteCard) : Option PollResult :=
  (showdownInputFromEngineState st).map fun input =>
    runShowdownSettlementWithDirectPayouts env {} st input
      ((AList.insert 0 "0xa" ∅).insert 1 "0xb")

/-- The first transfer of a settlement is sent and never recorded. -/
theorem first_transfer_not_recorded : ∃ r, settleOwn refusedSecond
    (allInShowdown (.ofU128 1000000000000000) (.ofU128 1000000000000000)) = some r ∧
      ¬ AllRecorded r := by
  have heval : (settleOwn refusedSecond
      (allInShowdown (.ofU128 1000000000000000) (.ofU128 1000000000000000))).map
        (fun r => (r.events, r.stores.settlementRecords)) =
      some ([.submitTransfer ⟨⟨0⟩, ⟨1⟩, 0, "0xa", .ofU128 1000000000000000⟩ (.ok "0x10"),
        .submitTransfer ⟨⟨0⟩, ⟨1⟩, 1, "0xb", .ofU128 1000000000000000⟩ (.error "nonce too low")],
        []) := by
    decide +kernel
  obtain ⟨r, hr, hpair⟩ := Option.map_eq_some_iff.1 heval
  obtain ⟨hevents, hrecords⟩ := Prod.mk.inj hpair
  refine ⟨r, hr, fun h => ?_⟩
  have hmem := h _ "0x10" (by rw [hevents]; exact List.mem_cons_self)
  rw [hrecords] at hmem
  cases hmem

end HoldemPlatform.Settlement.Submissions
