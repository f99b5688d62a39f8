import HoldemPlatform.Lib.Run
import HoldemPlatform.Room.Actor
import HoldemPlatform.Settlement.Conservation
import HoldemPlatform.Settlement.Orchestrator

/-!
# Double Payouts

The polling loop calls `try_auto_settle_showdown_room` again as long as the room is in showdown. Each
call that gets as far as the plan writes its ledger entries and submits its transfers anew; nothing
remembers an earlier attempt. If every call that can settle finds no payout of its hand in the ledger,
then no seat is paid twice.
-/

namespace HoldemPlatform.Settlement.DoublePayout

open HoldemPlatform.Lib.FiniteMap HoldemPlatform.Lib.Run HoldemPlatform.Domain.Money
open HoldemPlatform.Domain.Game HoldemPlatform.Engine.State HoldemPlatform.Engine.Showdown
open HoldemPlatform.Room.Actor HoldemPlatform.Settlement.Plan HoldemPlatform.Settlement.Conservation
open HoldemPlatform.Settlement.Orchestrator

variable {Card : Type}

/-- A room, the stores of its settlements, and all that was said to the wallet. -/
structure SettledRoom (Card : Type) where
  room : RoomState Card
  stores : SettlementStores := {}
  trace : List WalletEvent := []

/-- One call: whether the room answers, and what the call hears from elsewhere. -/
structure SettleCall (Card : Type) where
  roomReply : Except String Unit := .ok ()
  env : PollEnv Card

/-- One call on the room. The room handles `CompleteSettlement` before the next call's question, which
enters the same mailbox later. -/
def settleCall [RsPoker Card] (sys : SettledRoom Card) (call : SettleCall Card) :
    SettledRoom Card :=
  let r := tryAutoSettleShowdownRoom call.env sys.stores
    (call.roomReply.map fun _ => some sys.room.state)
  { room := match r.completed with
      | none => sys.room
      | some handId => completeSettlement sys.room handId
    stores := r.stores
    trace := sys.trace ++ r.events }

/-- At most one ledger entry pays the seat, and a second transfer to it follows a receipt that
reports the first one failed. -/
structure NoDoublePayout (sys : SettledRoom Card) (handId : HandId) (seatId : SeatId) : Prop where
  ledger : (sys.stores.ledger.filter fun e => payoutKey e = some (handId, seatId)).length ≤ 1
  retry : ∀ before request reply between request' reply' after,
    sys.trace = before ++ .submitTransfer request reply ::
      (between ++ .submitTransfer request' reply' :: after) →
    request.handId = handId → request.toSeatId = seatId →
    request'.handId = handId → request'.toSeatId = seatId →
    ∃ txHash receipt, reply = .ok txHash ∧
      WalletEvent.getTransferReceipt txHash (.ok receipt) ∈ between ∧ receipt.status = .failed

/-- A call that can settle the hand finds no payout of the hand in the ledger. -/
def FirstAttempt (sys : SettledRoom Card) (call : SettleCall Card) : Prop :=
  ReachesSettlement call.env sys.room.state → call.roomReply = .ok () →
    ∀ seatId, (sys.room.state.snapshot.handId, seatId) ∉ sys.stores.ledger.filterMap payoutKey

/-- Nobody is paid twice, and every transfer has its ledger entry. -/
structure PaidOnce (sys : SettledRoom Card) : Prop where
  ledger : (sys.stores.ledger.filterMap payoutKey).Nodup
  trace : (sys.trace.filterMap transferKey).Nodup
  covered : ∀ key ∈ sys.trace.filterMap transferKey, key ∈ sys.stores.ledger.filterMap payoutKey

theorem PlanFor.nodup_planKeys {roomId : RoomId} {handId : HandId} {plan : SettlementPlan}
    (h : PlanFor roomId handId plan) : (planKeys plan).Nodup := by
  have hkeys : (planKeys plan).map Prod.snd = plan.payouts.map SettlementPayout.seatId := by
    rw [planKeys, List.map_map]
    rfl
  exact .of_map Prod.snd (hkeys ▸ h.seats)

theorem PaidOnce.noDoublePayout {sys : SettledRoom Card} (h : PaidOnce sys) (handId : HandId)
    (seatId : SeatId) : NoDoublePayout sys handId seatId where
  ledger := by
    have hcount := List.nodup_iff_count_le_one.1 h.ledger (handId, seatId)
    rw [List.count_filterMap, List.countP_eq_length_filter] at hcount
    simpa only [beq_eq_decide] using hcount
  retry := by
    rintro before request reply between request' reply' after htrace rfl rfl hhand hseat
    have hnodup := h.trace
    simp only [htrace, List.filterMap_append, List.filterMap_cons, transferKey, hhand, hseat]
      at hnodup
    exact absurd hnodup (by simp [List.nodup_append])

section

variable [RsPoker Card]

/-- A first attempt appends keys of a hand the ledger does not know. -/
theorem paidOnce_settleCall (sys : SettledRoom Card) (call : SettleCall Card)
    (hfirst : FirstAttempt sys call) (h : PaidOnce sys) : PaidOnce (settleCall sys call) := by
  rcases poll_cases call.env sys.stores (call.roomReply.map fun _ => some sys.room.state) with
    ⟨hstores, hevents, -⟩ | ⟨st, plan, hstate, hreach, hplan, hattempt⟩
  · refine ⟨?_, ?_, ?_⟩ <;> simp only [settleCall, hstores, hevents, List.append_nil]
    exacts [h.ledger, h.trace, h.covered]
  · have hreply : call.roomReply = .ok () ∧ sys.room.state = st := by
      cases hr : call.roomReply with
      | error e => rw [hr] at hstate; cases hstate
      | ok u => rw [hr] at hstate; cases hstate; exact ⟨rfl, rfl⟩
    obtain ⟨hreply, rfl⟩ := hreply
    have hfresh : ∀ key ∈ planKeys plan, key ∉ sys.stores.ledger.filterMap payoutKey := by
      intro key hkey
      obtain ⟨p, -, rfl⟩ := List.mem_map.1 hkey
      rw [hplan.handId]
      exact hfirst hreach hreply p.seatId
    have hledger : (settleCall sys call).stores.ledger.filterMap payoutKey =
        sys.stores.ledger.filterMap payoutKey ++ planKeys plan := by
      rw [settleCall, hattempt.ledger, List.filterMap_append, filterMap_payoutKey_planEntries]
    have hnodup := PlanFor.nodup_planKeys hplan
    refine ⟨?_, ?_, ?_⟩
    · rw [hledger]
      exact h.ledger.append hnodup fun key hold hnew => hfresh key hnew hold
    · rw [settleCall, List.filterMap_append]
      exact h.trace.append (hattempt.transfers.nodup hnodup) fun key hold hnew =>
        hfresh key (hattempt.transfers.subset hnew) (h.covered key hold)
    · intro key hkey
      rw [settleCall, List.filterMap_append, List.mem_append] at hkey
      rw [hledger, List.mem_append]
      exact hkey.imp (h.covered key) (hattempt.transfers.subset ·)

/-- **No double payout**: in a run of calls in which only the first attempt at a hand gets as far as
settling it, no seat is paid twice for a hand. -/
theorem no_double_payout (room : RoomState Card) (calls : List (SettleCall Card))
    (hall : AllSteps settleCall FirstAttempt { room } calls) (handId : HandId) (seatId : SeatId) :
    NoDoublePayout (run settleCall { room } calls) handId seatId :=
  (hall.run_inv PaidOnce paidOnce_settleCall ⟨.nil, .nil, nofun⟩).noDoublePayout handId seatId

end

/-- A room whose hand is in showdown after two all-ins of `10 ^ 15`. -/
def allInRoom : RoomState ByteCard :=
  { (RoomState.spawn ⟨0⟩ ⟨0⟩ : RoomState ByteCard) with
    state := allInShowdown (.ofU128 1000000000000000) (.ofU128 1000000000000000) }

/-- A call in which the wallet accepts both transfers and reports them in the given status. -/
def allInCall (status : SettlementTxStatus) : SettleCall ByteCard where
  env :=
    { showdownInput := .ok (showdownInputFromEngineState allInRoom.state)
      seatAddresses := .ok ((AList.insert 0 "0xa" ∅).insert 1 "0xb")
      wallet :=
        { submitTransfer := fun n => .ok (if n = 0 then "0x10" else "0x11")
          getTransferReceipt := fun n =>
            .ok { txHash := if n = 0 then "0x10" else "0x11", status, confirmations := 1 } }
      rakePolicy := ⟨0⟩
      minConfirmations := 1
      settlementPlanId := 0
      completeSettlement := .ok () }

/-- The transfer of `10 ^ 15` that both calls submit to a seat. -/
def allInTransfer (toSeatId : SeatId) (toAddress txHash : String) : WalletEvent :=
  .submitTransfer
    { roomId := ⟨0⟩, handId := allInRoom.state.snapshot.handId, toSeatId, toAddress,
      amount := .ofU128 1000000000000000 } (.ok txHash)

theorem pending_receipts_run :
    allInRoom.state.snapshot.status = .showdown ∧
    ((run settleCall { room := allInRoom }
      [allInCall .pending, allInCall .pending]).stores.ledger.filterMap payoutKey).count
        (allInRoom.state.snapshot.handId, 0) = 2 ∧
    (run settleCall { room := allInRoom } [allInCall .pending, allInCall .pending]).trace =
      [] ++ allInTransfer 0 "0xa" "0x10" ::
        ([allInTransfer 1 "0xb" "0x11",
          .getTransferReceipt "0x10" (.ok ⟨"0x10", .pending, 1⟩),
          .getTransferReceipt "0x11" (.ok ⟨"0x11", .pending, 1⟩)] ++
        allInTransfer 0 "0xa" "0x10" ::
        [allInTransfer 1 "0xb" "0x11",
          .getTransferReceipt "0x10" (.ok ⟨"0x10", .pending, 1⟩),
          .getTransferReceipt "0x11" (.ok ⟨"0x11", .pending, 1⟩)]) := by
  decide +kernel

/-- While the receipts are pending a second call pays both seats again. -/
theorem pending_receipts_paid_twice :
    allInRoom.state.snapshot.status = .showdown ∧
      ((run settleCall { room := allInRoom }
        [allInCall .pending, allInCall .pending]).stores.ledger.filterMap payoutKey).count
          (allInRoom.state.snapshot.handId, 0) = 2 ∧
      ¬ NoDoublePayout (run settleCall { room := allInRoom }
        [allInCall .pending, allInCall .pending]) allInRoom.state.snapshot.handId 0 := by
  obtain ⟨hstatus, hcount, htrace⟩ := pending_receipts_run
  refine ⟨hstatus, hcount, fun h => ?_⟩
  obtain ⟨txHash, receipt, htx, hmem, hfailed⟩ := h.retry _ _ _ _ _ _ _ htrace rfl rfl rfl rfl
  cases htx
  simp only [allInTransfer, List.mem_cons, List.not_mem_nil, reduceCtorEq, false_or, or_false,
    WalletEvent.getTransferReceipt.injEq, Except.ok.injEq] at hmem
  rcases hmem with ⟨-, rfl⟩ | ⟨-, rfl⟩ <;> cases hfailed

/-- Receipts confirmed at once settle the room, and the next call finds nothing to do. -/
theorem confirmed_receipts_paid_once :
    ((run settleCall { room := allInRoom }
        [allInCall .confirmed, allInCall .confirmed]).trace.filterMap transferKey) =
        [(allInRoom.state.snapshot.handId, 0), (allInRoom.state.snapshot.handId, 1)] ∧
      NoDoublePayout (run settleCall { room := allInRoom }
        [allInCall .confirmed, allInCall .confirmed]) allInRoom.state.snapshot.handId 0 := by
  have heval : ((run settleCall { room := allInRoom }
        [allInCall .confirmed, allInCall .confirmed]).trace.filterMap transferKey) =
        [(allInRoom.state.snapshot.handId, 0), (allInRoom.state.snapshot.handId, 1)] ∧
      (settleCall { room := allInRoom }
        (allInCall .confirmed)).room.state.snapshot.status = .settled := by
    decide +kernel
  refine ⟨heval.1, no_double_payout allInRoom [_, _] ⟨fun _ _ _ => nofun, ?_, trivial⟩ _ _⟩
  intro hreach
  exact absurd (heval.2.symm.trans hreach.1) (by decide)

end HoldemPlatform.Settlement.DoublePayout
