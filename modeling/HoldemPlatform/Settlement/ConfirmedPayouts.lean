import HoldemPlatform.Settlement.BatchPayouts
import HoldemPlatform.Settlement.Submissions

/-!
# Completed Hands Are Paid

A settlement tells the room that the hand is complete only after the wallet has reported every payout
confirmed. The payouts of the plan, the submissions and the receipts are three lists made by three
loops; the trace of the exchanges with the wallet ties them together, entry by entry. The batch variant
has one transaction for all payouts.
-/

namespace HoldemPlatform.Settlement.ConfirmedPayouts

open HoldemPlatform.Lib.FiniteMap HoldemPlatform.Domain.Money HoldemPlatform.Domain.Game
open HoldemPlatform.Engine.State HoldemPlatform.Engine.Showdown
open HoldemPlatform.Settlement.Plan HoldemPlatform.Settlement.Conservation
open HoldemPlatform.Settlement.Orchestrator HoldemPlatform.Settlement.BatchPayouts
open HoldemPlatform.Settlement.Submissions

/-- The request pays exactly this payout, to the address of its seat. -/
structure Pays (plan : SettlementPlan) (seatAddresses : HashMap SeatId String)
    (payout : SettlementPayout) (request : SettlementTransferRequest) : Prop where
  roomId : request.roomId = plan.roomId
  handId : request.handId = plan.handId
  toSeatId : request.toSeatId = payout.seatId
  toAddress : seatAddresses.lookup payout.seatId = some request.toAddress
  amount : request.amount = payout.amount

/-- The wallet was asked to pay each due payout of the plan, answered with a transaction each, and
reported each of these confirmed when it was asked for it. -/
def DirectlyPaid (plan : SettlementPlan) (seatAddresses : HashMap SeatId String)
    (minConfirmations : ℕ) (events : List WalletEvent) : Prop :=
  ∃ (requests : List SettlementTransferRequest) (txHashes : List String)
    (receipts : List SettlementTransferReceipt),
    List.Forall₂ (Pays plan seatAddresses) (duePayouts plan.payouts) requests ∧
    txHashes.length = requests.length ∧ receipts.length = requests.length ∧
    events = List.zipWith (fun request txHash => .submitTransfer request (.ok txHash)) requests
        txHashes ++
      List.zipWith (fun txHash receipt => .getTransferReceipt txHash (.ok receipt)) txHashes
        receipts ∧
    ∀ receipt ∈ receipts, receipt.status = .confirmed ∧ minConfirmations ≤ receipt.confirmations

/-- The wallet was asked for one transaction that pays exactly the due payouts of the plan, and reported
it confirmed when it was asked for it. -/
def BatchPaid (plan : SettlementPlan) (seatAddresses : HashMap SeatId String)
    (minConfirmations : ℕ) (events : List BatchWalletEvent) : Prop :=
  ∃ (transfers : List SettlementTransferRequest) (txHash : String)
    (receipt : BatchSettlementTransferReceipt),
    List.Forall₂ (Pays plan seatAddresses) (duePayouts plan.payouts) transfers ∧
    events = [.submitBatchTransfer ⟨plan.roomId, plan.handId, transfers⟩ (.ok txHash),
      .getBatchTransferReceipt txHash (.ok receipt)] ∧
    receipt.status = .confirmed ∧ minConfirmations ≤ receipt.confirmations

section

variable {Card : Type} [RsPoker Card]

/-- The hand `complete_settlement` is called for. The answer of the room comes after the call, so the
call is there for any answer if it is there for a good one. -/
def completeCall (env : PollEnv Card) (stores : SettlementStores) (st : EngineState Card)
    (input : ShowdownInput Card) (seatAddresses : HashMap SeatId String) : Option HandId :=
  (runShowdownSettlementWithDirectPayouts { env with completeSettlement := .ok () } stores st input
    seatAddresses).completed

/-- The room has completed the hand if it was called and agreed. -/
theorem completed_iff (env : PollEnv Card) (stores : SettlementStores) (st : EngineState Card)
    (input : ShowdownInput Card) (seatAddresses : HashMap SeatId String) (handId : HandId) :
    (runShowdownSettlementWithDirectPayouts env stores st input seatAddresses).completed =
        some handId ↔
      env.completeSettlement = .ok () ∧
        completeCall env stores st input seatAddresses = some handId := by
  obtain ⟨showdownInput, addresses, wallet, policy, minConfirmations, planId, reply⟩ := env
  cases reply with
  | ok u => exact (and_iff_right rfl).symm
  | error e =>
    refine iff_of_false ?_ nofun
    unfold runShowdownSettlementWithDirectPayouts
    split
    · nofun
    split
    · nofun
    split
    · nofun
    unfold settlePlan
    dsimp only
    split
    · nofun
    unfold settleReceipts
    dsimp only
    split
    · nofun
    split_ifs <;> nofun

end

/-! ### The direct variant -/

theorem forall₂_pays {plan : SettlementPlan} {seatAddresses : HashMap SeatId String}
    {sent : List Transfer}
    (h : ∀ t ∈ sent, seatAddresses.lookup t.payout.seatId = some t.toAddress) :
    List.Forall₂ (Pays plan seatAddresses) (sent.map Transfer.payout)
      (sent.map (Transfer.request plan)) := by
  induction sent with
  | nil => exact .nil
  | cons t sent ih =>
    exact .cons ⟨rfl, rfl, rfl, h t List.mem_cons_self, rfl⟩
      (ih fun t' ht' => h t' (List.mem_cons_of_mem t ht'))

theorem check_confirmed {wallet : WalletReplies} {minConfirmations : ℕ}
    {submissions : List SettlementTransferSubmission} {checked : List SettlementTransferReceipt}
    {n : ℕ} (h : (checkPayoutSubmissions wallet minConfirmations n submissions).2 = .ok checked)
    (hall : ∀ r ∈ checked, r.status = .confirmed) :
    ∃ receipts : List SettlementTransferReceipt, receipts.length = submissions.length ∧
      (checkPayoutSubmissions wallet minConfirmations n submissions).1 =
        List.zipWith (fun txHash receipt => .getTransferReceipt txHash (.ok receipt))
          (submissions.map SettlementTransferSubmission.txHash) receipts ∧
      ∀ receipt ∈ receipts,
        receipt.status = .confirmed ∧ minConfirmations ≤ receipt.confirmations := by
  induction submissions generalizing n checked with
  | nil => exact ⟨[], rfl, rfl, nofun⟩
  | cons submission rest ih =>
    rw [checkPayoutSubmissions] at h ⊢
    cases hreply : wallet.getTransferReceipt n with
    | error e =>
      rw [hreply] at h
      cases h
    | ok receipt =>
      rw [hreply] at h
      dsimp only at h ⊢
      cases hrest : (checkPayoutSubmissions wallet minConfirmations (n + 1) rest).2 with
      | error e =>
        rw [hrest] at h
        cases h
      | ok later =>
        rw [hrest] at h
        cases h
        obtain ⟨receipts, hlen, hevents, hconfirmed⟩ :=
          ih hrest fun r hr => hall r (List.mem_cons_of_mem _ hr)
        refine ⟨receipt :: receipts, by simp [hlen], by rw [hevents]; rfl, ?_⟩
        intro r hr
        rcases List.mem_cons.1 hr with rfl | hr
        · -- a receipt that was downgraded would count as pending
          have hfirst := hall _ List.mem_cons_self
          split_ifs at hfirst with hfew
          exact ⟨hfirst, not_lt.1 fun hlt => hfew ⟨hfirst, hlt⟩⟩
        · exact hconfirmed r hr

section

variable {Card : Type}

/-- The events of a settlement do not depend on the room's answer, and the room is told only when all
receipts count as confirmed. -/
theorem settleReceipts_completed {env : PollEnv Card} {stores : SettlementStores} {handId : HandId}
    {events : List WalletEvent} {submissions : List SettlementTransferSubmission} {h : HandId}
    (hcall : (settleReceipts { env with completeSettlement := .ok () } stores handId events
      submissions).completed = some h) :
    h = handId ∧ ∃ checked,
      (checkPayoutSubmissions env.wallet env.minConfirmations 0 submissions).2 = .ok checked ∧
        ∀ r ∈ checked, r.status = .confirmed := by
  unfold settleReceipts at hcall
  dsimp only at hcall
  split at hcall
  · cases hcall
  rename_i checked hchecked
  split_ifs at hcall with hall
  refine ⟨(Option.some.inj hcall).symm, checked, hchecked, fun r hr => ?_⟩
  exact of_decide_eq_true (List.all_eq_true.1 hall r hr)

/-- **One plan**: if the room is told, every due payout of the plan was paid. -/
theorem settlePlan_paid {env : PollEnv Card} {stores : SettlementStores} {snapshot : HandSnapshot}
    {plan : SettlementPlan} {seatAddresses : HashMap SeatId String} {h : HandId}
    (hcall : (settlePlan { env with completeSettlement := .ok () } stores snapshot plan
      seatAddresses).completed = some h) :
    h = snapshot.handId ∧ DirectlyPaid plan seatAddresses env.minConfirmations
      (settlePlan env stores snapshot plan seatAddresses).events := by
  unfold settlePlan at hcall ⊢
  dsimp only at hcall ⊢
  have hcases := @submit_cases plan seatAddresses env.wallet 0 plan.payouts
  have hpayouts := @map_payout_accepted_iff seatAddresses env.wallet 0 (duePayouts plan.payouts)
  have haddresses : ∀ t ∈ accepted seatAddresses env.wallet 0 (duePayouts plan.payouts),
      seatAddresses.lookup t.payout.seatId = some t.toAddress := fun t ht => lookup_of_mem_accepted ht
  generalize accepted seatAddresses env.wallet 0 (duePayouts plan.payouts) = sent
    at hcases hpayouts haddresses
  rcases hcases with ⟨hall, heq⟩ | ⟨-, e, failed, heq, -⟩
  · rw [heq] at hcall ⊢
    obtain ⟨rfl, checked, hchecked, hconfirmed⟩ := settleReceipts_completed hcall
    obtain ⟨receipts, hlen, hevents, hreported⟩ := check_confirmed hchecked hconfirmed
    refine ⟨rfl, sent.map (Transfer.request plan), sent.map Transfer.txHash, receipts, ?_, by simp,
      by simpa using hlen, ?_, hreported⟩
    · have hpays : List.Forall₂ (Pays plan seatAddresses) _ _ := forall₂_pays haddresses
      rwa [hpayouts.2 hall] at hpays
    · rw [(settleReceipts_records env _ _ _ _).2, hevents, List.map_map, List.zipWith_map,
        List.zipWith_self]
      rfl
  · rw [heq] at hcall
    cases hcall

end

/-! ### The batch variant -/

/-- A batch that could be collected pays exactly the due payouts. -/
theorem batchTransfers_pays {plan : SettlementPlan} {seatAddresses : HashMap SeatId String} :
    ∀ {payouts : List SettlementPayout} {transfers : List SettlementTransferRequest},
      batchTransfers plan seatAddresses payouts = .ok transfers →
      List.Forall₂ (Pays plan seatAddresses) (duePayouts payouts) transfers
  | [], _, h => by
    cases h
    exact .nil
  | payout :: rest, transfers, h => by
    rw [batchTransfers] at h
    split_ifs at h with hzero
    · have hdue : duePayouts (payout :: rest) = duePayouts rest := by simp [duePayouts, hzero]
      rw [hdue]
      exact batchTransfers_pays h
    · have hdue : duePayouts (payout :: rest) = payout :: duePayouts rest := by
        simp [duePayouts, hzero]
      rw [hdue]
      split at h
      · cases h
      rename_i toAddress haddress
      cases hrest : batchTransfers plan seatAddresses rest with
      | error e =>
        rw [hrest] at h
        cases h
      | ok later =>
        rw [hrest] at h
        cases h
        exact .cons ⟨rfl, rfl, rfl, haddress, rfl⟩ (batchTransfers_pays hrest)

theorem settleBatch_paid {env : BatchEnv} {stores : SettlementStores} {snapshot : HandSnapshot}
    {plan : SettlementPlan} {seatAddresses : HashMap SeatId String} {h : HandId}
    (hcall : (settleBatch env stores snapshot plan seatAddresses).completeCall = some h) :
    h = snapshot.handId ∧ BatchPaid plan seatAddresses env.minConfirmations
      (settleBatch env stores snapshot plan seatAddresses).events := by
  unfold settleBatch submitBatchPayouts checkBatchPayoutSubmission at hcall ⊢
  cases htransfers : batchTransfers plan seatAddresses plan.payouts with
  | error e =>
    rw [htransfers] at hcall
    cases hcall
  | ok transfers =>
    rw [htransfers] at hcall
    dsimp only at hcall ⊢
    cases hsubmit : env.submitBatchTransfer with
    | error e =>
      rw [hsubmit] at hcall
      cases hcall
    | ok txHash =>
      rw [hsubmit] at hcall
      dsimp only at hcall ⊢
      cases hreceipt : env.getBatchTransferReceipt with
      | error e =>
        rw [hreceipt] at hcall
        cases hcall
      | ok receipt =>
        rw [hreceipt] at hcall
        dsimp only at hcall ⊢
        by_cases hfew : receipt.status = .confirmed ∧ receipt.confirmations < env.minConfirmations
        · simp [hfew] at hcall
        rw [if_neg hfew] at hcall ⊢
        split_ifs at hcall ⊢ with hstatus
        exact ⟨(Option.some.inj hcall).symm, transfers, txHash, receipt,
          batchTransfers_pays htransfers, rfl, hstatus,
          not_lt.1 fun hlt => hfew ⟨hstatus, hlt⟩⟩

/-- **A hand is completed only when it is paid.** The direct settlement calls `complete_settlement` only
if each due payout of its plan was submitted to the address of its seat, with exactly its amount, and
its transaction reported confirmed with enough confirmations; the batch settlement only if the one
transaction with exactly the due payouts was. -/
theorem completed_only_if_paid {Card : Type} [RsPoker Card] (stores : SettlementStores)
    (st : EngineState Card) (input : ShowdownInput Card) (seatAddresses : HashMap SeatId String) :
    (∀ (env : PollEnv Card) (handId : HandId),
      completeCall env stores st input seatAddresses = some handId →
      handId = st.snapshot.handId ∧ ∃ plan,
        buildSettlementPlanFromShowdown st input env.rakePolicy = .ok plan ∧
        DirectlyPaid plan seatAddresses env.minConfirmations
          (runShowdownSettlementWithDirectPayouts env stores st input seatAddresses).events) ∧
    (∀ (env : BatchEnv) (handId : HandId),
      (runShowdownSettlementWithBatchPayouts env stores st input seatAddresses).completeCall =
        some handId →
      handId = st.snapshot.handId ∧ ∃ plan,
        buildSettlementPlanFromShowdown st input env.rakePolicy = .ok plan ∧
        BatchPaid plan seatAddresses env.minConfirmations
          (runShowdownSettlementWithBatchPayouts env stores st input seatAddresses).events) := by
  constructor
  · intro env handId hcall
    unfold completeCall runShowdownSettlementWithDirectPayouts at hcall
    unfold runShowdownSettlementWithDirectPayouts
    dsimp only at hcall
    cases hplan : buildSettlementPlanFromShowdown st input env.rakePolicy with
    | error e =>
      rw [hplan] at hcall
      cases hcall
    | ok plan =>
      rw [hplan] at hcall
      dsimp only at hcall ⊢
      cases htotal : payoutTotal plan with
      | error e =>
        rw [htotal] at hcall
        cases hcall
      | ok total =>
        rw [htotal] at hcall
        dsimp only at hcall ⊢
        cases hvalue : planToValue plan with
        | error e =>
          rw [hvalue] at hcall
          cases hcall
        | ok u =>
          rw [hvalue] at hcall
          obtain ⟨hid, hpaid⟩ := settlePlan_paid hcall
          exact ⟨hid, plan, rfl, hpaid⟩
  · intro env handId hcall
    unfold runShowdownSettlementWithBatchPayouts at hcall ⊢
    cases hplan : buildSettlementPlanFromShowdown st input env.rakePolicy with
    | error e =>
      rw [hplan] at hcall
      cases hcall
    | ok plan =>
      rw [hplan] at hcall
      dsimp only at hcall ⊢
      cases htotal : payoutTotal plan with
      | error e =>
        rw [htotal] at hcall
        cases hcall
      | ok total =>
        rw [htotal] at hcall
        dsimp only at hcall ⊢
        cases hvalue : planToValue plan with
        | error e =>
          rw [hvalue] at hcall
          cases hcall
        | ok u =>
          rw [hvalue] at hcall
          obtain ⟨hid, hpaid⟩ := settleBatch_paid hcall
          exact ⟨hid, plan, rfl, hpaid⟩

def twoAddresses : HashMap SeatId String := (AList.insert 0 "0xa" ∅).insert 1 "0xb"

/-- The wallet accepts both transfers of two equal all-ins and reports them confirmed. -/
def confirmedBoth : PollEnv ByteCard :=
  { refusedSecond with
    wallet :=
      { submitTransfer := fun n => .ok (if n = 0 then "0x10" else "0x11")
        getTransferReceipt := fun n => .ok ⟨if n = 0 then "0x10" else "0x11", .confirmed, 1⟩ } }

/-- The wallet accepts the batch and reports it confirmed. -/
def confirmedBatch : BatchEnv where
  submitBatchTransfer := .ok "0x20"
  getBatchTransferReceipt := .ok ⟨"0x20", .confirmed, 1, 2⟩
  rakePolicy := ⟨0⟩
  minConfirmations := 1
  settlementPlanId := 0
  completeSettlement := .ok ()

/-- Both variants complete two equal all-ins, and have paid them. -/
theorem equal_allIns_paid : ∃ input, showdownInputFromEngineState
      (allInShowdown (.ofU128 1000000000000000) (.ofU128 1000000000000000)) = some input ∧
    (∃ plan, DirectlyPaid plan twoAddresses 1 (runShowdownSettlementWithDirectPayouts confirmedBoth {}
      (allInShowdown (.ofU128 1000000000000000) (.ofU128 1000000000000000)) input
      twoAddresses).events) ∧
    ∃ plan, BatchPaid plan twoAddresses 1 (runShowdownSettlementWithBatchPayouts confirmedBatch {}
      (allInShowdown (.ofU128 1000000000000000) (.ofU128 1000000000000000)) input
      twoAddresses).events := by
  have heval : (showdownInputFromEngineState
      (allInShowdown (.ofU128 1000000000000000) (.ofU128 1000000000000000))).map (fun input =>
        (completeCall confirmedBoth {}
          (allInShowdown (.ofU128 1000000000000000) (.ofU128 1000000000000000)) input twoAddresses,
        (runShowdownSettlementWithBatchPayouts confirmedBatch {}
          (allInShowdown (.ofU128 1000000000000000) (.ofU128 1000000000000000)) input
          twoAddresses).completeCall)) = some (some ⟨1⟩, some ⟨1⟩) := by
    decide +kernel
  obtain ⟨input, hinput, hcalls⟩ := Option.map_eq_some_iff.1 heval
  obtain ⟨hdirect, hbatch⟩ := Prod.mk.inj hcalls
  have hpaid := completed_only_if_paid {}
    (allInShowdown (.ofU128 1000000000000000) (.ofU128 1000000000000000)) input twoAddresses
  obtain ⟨-, plan, -, hdirectPaid⟩ := hpaid.1 confirmedBoth ⟨1⟩ hdirect
  obtain ⟨-, plan', -, hbatchPaid⟩ := hpaid.2 confirmedBatch ⟨1⟩ hbatch
  exact ⟨input, hinput, ⟨plan, hdirectPaid⟩, plan', hbatchPaid⟩

end HoldemPlatform.Settlement.ConfirmedPayouts
