import HoldemPlatform.Service.PaidAmount
import HoldemPlatform.Service.PaymentLog

/-!
# Verified Payments

A matched callback of the current hand takes the pending action out before the engine is asked, and a
refused action is dropped: the sink credits late and unmatched payments only. A matched callback of
another hand leaves the payment pending. If every payment taken out is one the engine accepts, every
payment a callback has named is still pending or was applied once and raised the pot.
-/

namespace HoldemPlatform.Service.VerifiedPayments

open HoldemPlatform.Lib.FiniteMap HoldemPlatform.Lib.Run
open HoldemPlatform.Domain.Money HoldemPlatform.Domain.Game HoldemPlatform.Engine.State
open HoldemPlatform.Engine.Action HoldemPlatform.Room.Actor HoldemPlatform.Room.Effect
open HoldemPlatform.Gateway.Requests HoldemPlatform.Service.RoomService
open HoldemPlatform.Service.Payments HoldemPlatform.Service.PaidAmount
open HoldemPlatform.Service.PaymentLog

variable {Card : Type}

def Pending (svc : AppRoomService Card) (p : Payment) : Prop :=
  ∃ room, svc.rooms.lookup p.roomId = some room ∧
    room.pendingChainActions.lookup p.txHash = some p.action

/-- The payment was applied once, and the pot grew. -/
def AppliedOnce (log : LoggedService Card) (p : Payment) : Prop :=
  (∃ entry ∈ log.applied, entry.toPayment = p ∧ entry.potBefore < entry.potAfter) ∧
    log.appliedHashes.count p.txHash = 1

/-- The payment is an open exception credit of its amount for its seat. -/
def Credited (svc : AppRoomService Card) (p : Payment) : Prop :=
  ∃ credit, svc.chainTxRepo.exceptionCredits.lookup p.txHash = some credit ∧
    credit.status = "open" ∧ credit.seatId = some p.action.seatId ∧
    p.action.amount = some credit.amount

/-- Every pending payment that a matched callback has named is accounted for. -/
def NoPaymentLost (log : LoggedService Card) : Prop :=
  ∀ p ∈ log.processed, AppliedOnce log p ∨ Pending log.svc p ∨ Credited log.svc p

/-- A payment taken out by a callback pays and is acceptable to the engine. -/
def TakesAcceptable (log : LoggedService Card) (input : ServiceInput Card) : Prop :=
  ∀ roomId room callback action, callbackAt log.svc input = some (roomId, room, callback) →
    callback.status = "matched" → callback.handId = some room.state.snapshot.handId →
    room.pendingChainActions.lookup callback.txHash = some action →
    Acceptable room.state action ∧ monetary action.actionType = true

/-- Named payments are applied or pending. -/
structure KeptInv (log : LoggedService Card) : Prop extends AppliedInv log where
  kept : ∀ p ∈ log.processed,
    (∃ entry ∈ log.applied, entry.toPayment = p ∧ entry.potBefore < entry.potAfter) ∨
      Pending log.svc p

theorem chipsPaid_pos {st : EngineState Card} {action : PlayerAction} (hok : Acceptable st action)
    (hmon : monetary action.actionType = true) : 0 < chipsPaid st action := by
  have hplay := hok.playable
  have hraise : (∃ target, action.amount = some target ∧ st.seatBet action.seatId < target) →
      0 < (action.amount.getD 0).asU128 - (st.seatBet action.seatId).asU128 := by
    rintro ⟨target, hamount, hlt⟩
    rw [Chips.lt_iff] at hlt
    rw [hamount, Option.getD_some]
    omega
  cases htype : action.actionType with
  | fold => simp [htype, monetary] at hmon
  | check => simp [htype, monetary] at hmon
  | call =>
    simp only [Playable, htype, ne_eq, Chips.eq_zero_iff] at hplay
    simp only [chipsPaid, htype]
    omega
  | raiseTo =>
    simp only [Playable, htype] at hplay
    simp only [chipsPaid, htype]
    obtain ⟨target, hamount, hlt, -⟩ := hplay
    exact hraise ⟨target, hamount, hlt⟩
  | allIn =>
    simp only [Playable, htype] at hplay
    simp only [chipsPaid, htype]
    exact hraise hplay

section

variable [RsPoker Card]

/-- What becomes of a pending payment in a step: it stays, or it is applied and raises the pot. -/
theorem pending_step (config : RoomActorConfig) {log : LoggedService Card}
    {input : ServiceInput Card} (hinv : AppliedInv log) (htakes : TakesAcceptable log input)
    {p : Payment} (h : Pending log.svc p) :
    (∃ entry ∈ (logStep config log input).applied,
      entry.toPayment = p ∧ entry.potBefore < entry.potAfter) ∨
    Pending (logStep config log input).svc p := by
  obtain ⟨room, hroom, hpend⟩ := h
  obtain ⟨binding, hbinding, -⟩ := hinv.binding.bound p.roomId room p.txHash p.action hroom hpend
  rcases pending_kept config input (mem_of_lookup_some hbinding) hroom hpend with hkept |
      ⟨callback, hcallback, hstatus, hhand, hhash⟩
  · exact .inr hkept
  · left
    obtain ⟨hok, hmon⟩ := htakes p.roomId room callback p.action hcallback hstatus hhand
      (by rw [hhash, hpend])
    have happ : appliedBy log.svc input = some p := by
      refine appliedBy_eq_some.2 ⟨room, callback, hcallback, ⟨hstatus, hhand⟩, hhash, hpend, ?_⟩
      rcases applyAction_cases (hinv.binding.engine p.roomId room hroom).pot p.action with
        ⟨-, st', result, hresult, -⟩ | ⟨hnot, -⟩
      · exact ⟨result, by rw [hresult]⟩
      · exact absurd hok hnot
    obtain ⟨room', hroom', -, -, hpot⟩ := potTotal_of_appliedBy config hinv.binding happ
    rw [hroom, Option.some.injEq] at hroom'
    subst hroom'
    have hpos := chipsPaid_pos hok hmon
    refine ⟨⟨p, potTotal log.svc p.roomId, potTotal (serviceStep config log.svc input) p.roomId⟩,
      ?_, rfl, by dsimp only; omega⟩
    exact List.mem_append_right _ (Option.mem_toList.2 (by rw [appliedEntry, happ]; rfl))

theorem keptInv_step (config : RoomActorConfig) (log : LoggedService Card)
    (input : ServiceInput Card) (htakes : TakesAcceptable log input) (hinv : KeptInv log) :
    KeptInv (logStep config log input) where
  toAppliedInv := appliedInv_step config log input hinv.toAppliedInv
  kept p hmem := by
    rcases List.mem_append.1 hmem with hold | hnew
    · rcases hinv.kept p hold with ⟨entry, hentry, hfields⟩ | hpending
      · exact .inl ⟨entry, List.mem_append_left _ hentry, hfields⟩
      · exact pending_step config hinv.toAppliedInv htakes hpending
    · obtain ⟨room, callback, hcallback, -, -, hpend⟩ :=
        processedBy_eq_some.1 (Option.mem_toList.1 hnew)
      exact pending_step config hinv.toAppliedInv htakes
        ⟨room, lookup_of_callbackAt hcallback, hpend⟩

/-- **No verified payment is lost** in a run in which every payment that a callback takes out pays and
is acceptable to the engine. -/
theorem no_verified_payment_lost (config : RoomActorConfig) (inputs : List (ServiceInput Card))
    (hall : AllSteps (logStep config) TakesAcceptable {} inputs) :
    NoPaymentLost (run (logStep config) {} inputs) := by
  have hinv := hall.run_inv KeptInv (keptInv_step config) ⟨appliedInv_init, nofun⟩
  intro p hmem
  rcases hinv.kept p hmem with ⟨entry, hentry, rfl, hpot⟩ | hpending
  · refine .inl ⟨⟨entry, hentry, rfl, hpot⟩, ?_⟩
    exact List.count_eq_one_of_mem hinv.once (List.mem_map_of_mem hentry)
  · exact .inr (.inl hpending)

end

/-- The payment of a call of the small blind. -/
def callPayment : Payment :=
  ⟨⟨0⟩, "0x1", tableAction 1 0 .call (some (.ofU128 100000000000000))⟩

/-- The small blind pays for a call, its time runs out, and then the payment is verified. -/
def lateCall : List (ServiceInput ByteCard) :=
  callInputs "100000000000000" ++
    [.internal tableEnv ⟨0⟩ (.turnTimeoutElapsed 1), matchedCallback 1 0 "0x1"]

/-- The verified payment of a seat that was folded in the meantime is neither applied nor pending nor
credited. -/
theorem late_call_lost :
    callPayment ∈ (run (logStep {}) {} lateCall).processed ∧
      ¬ NoPaymentLost (run (logStep {}) {} lateCall) := by
  have hmem : callPayment ∈ (run (logStep {}) {} lateCall).processed := by decide +kernel
  have happlied : (run (logStep {}) {} lateCall).applied = [] := by decide +kernel
  have hpending : ((run (logStep {}) {} lateCall).svc.rooms.lookup ⟨0⟩).bind
      (fun room => room.pendingChainActions.lookup "0x1") = none := by decide +kernel
  have hcredit : (run (logStep {}) {} lateCall).svc.chainTxRepo.exceptionCredits.lookup "0x1" =
      none := by decide +kernel
  refine ⟨hmem, fun h => ?_⟩
  rcases h callPayment hmem with ⟨⟨entry, hentry, -⟩, -⟩ | ⟨room, hroom, hpend⟩ | ⟨credit, hc, -⟩
  · rw [happlied] at hentry
    cases hentry
  · rw [show (run (logStep {}) {} lateCall).svc.rooms.lookup ⟨0⟩ = some room from hroom,
      Option.bind_some] at hpending
    rw [show room.pendingChainActions.lookup "0x1" = _ from hpend] at hpending
    cases hpending
  · rw [show (run (logStep {}) {} lateCall).svc.chainTxRepo.exceptionCredits.lookup "0x1" = _
      from hc] at hcredit
    cases hcredit

/-- A call verified in time is applied once and raises the pot. -/
theorem call_in_time_applied :
    callPayment ∈ (run (logStep {}) {}
        (callInputs "100000000000000" ++ [matchedCallback 1 0 "0x1"])).processed ∧
      NoPaymentLost (run (logStep {}) {}
        (callInputs "100000000000000" ++ [matchedCallback 1 0 "0x1"])) := by
  refine ⟨by decide +kernel, no_verified_payment_lost {} _ ?_⟩
  rw [AllSteps.append]
  constructor
  · refine (allSteps_of_forall (callInputs_no_callback _)).mono fun log input hinput => ?_
    intro roomId room callback action hcallback
    rw [callbackAt_none hinput] at hcallback
    cases hcallback
  · refine ⟨?_, trivial⟩
    intro roomId room callback action hcallback _ _ hpend
    rw [callbackAt_of_delivered (show deliveredCallback (matchedCallback 1 0 "0x1") = _ from rfl)]
      at hcallback
    obtain ⟨found, hfound, heq⟩ := Option.map_eq_some_iff.1 hcallback
    have hfields : ((run (logStep {}) {} (callInputs "100000000000000")).svc.rooms.lookup ⟨0⟩).map
        (fun room => (room.pendingChainActions.lookup "0x1", room.state.snapshot.nextActionSeq,
          room.state.snapshot.actingSeatId, toCall room.state 0, room.state.pot.mainPot)) =
        some (some callPayment.action, 1, some 0, .ofU128 100000000000000,
          .ofU128 300000000000000) := by
      decide +kernel
    simp only [Prod.mk.injEq] at heq
    obtain ⟨-, rfl, rfl⟩ := heq
    rw [hfound, Option.map_some, Option.some.injEq] at hfields
    simp only [Prod.mk.injEq] at hfields
    obtain ⟨hpending, hseq, hturn, hcall, hpot⟩ := hfields
    rw [show found.pendingChainActions.lookup "0x1" = some action from hpend,
      Option.some.injEq] at hpending
    subst hpending
    refine ⟨⟨hseq.symm, hturn, ?_, ?_⟩, rfl⟩
    · show toCall found.state 0 ≠ 0
      rw [hcall]
      decide
    · show found.state.pot.mainPot.asU128 + (toCall found.state 0).asU128 < 2 ^ 128
      rw [hcall, hpot]
      decide

end HoldemPlatform.Service.VerifiedPayments
