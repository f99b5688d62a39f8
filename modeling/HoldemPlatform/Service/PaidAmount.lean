import HoldemPlatform.Service.Payments

/-!
# Paid Amount and Chips Credited

The amount bound to a transaction is the one the request names; the chips credited when the action is
applied are what the engine computes at that time. For a call that is the amount still to call; for a
raise or an all-in the request names the new total of the street, of which earlier bets of the street
are already in the pot.
-/

namespace HoldemPlatform.Service.PaidAmount

open HoldemPlatform.Lib.FiniteMap HoldemPlatform.Lib.Run
open HoldemPlatform.Domain.Money HoldemPlatform.Domain.Game
open HoldemPlatform.Engine.State HoldemPlatform.Engine.Action HoldemPlatform.Engine.Run
open HoldemPlatform.Room.Actor HoldemPlatform.Room.Effect HoldemPlatform.Gateway.Requests
open HoldemPlatform.Service.RoomService HoldemPlatform.Service.Payments

variable {Card : Type}

/-- The gateway has validated the funding fields of an `act` request. -/
def FundsValidated : ServiceInput Card → Prop
  | .act _ request => validateGameActFundingFields request = .ok ()
  | _ => True

/-- If the step applies a payment, the pot grows by the amount bound to its transaction. -/
def CreditsExpected [RsPoker Card] (config : RoomActorConfig) (svc : AppRoomService Card)
    (input : ServiceInput Card) : Prop :=
  ∀ p, appliedBy svc input = some p → monetary p.action.actionType = true →
    ∃ binding expected,
      svc.chainTxRepo.txBindingsByHash.lookup p.txHash = some binding ∧
      binding.expectedAmount = some expected ∧
      potTotal (serviceStep config svc input) p.roomId = potTotal svc p.roomId + expected.asU128

/-- The amount the action names is what it puts into the pot: a call names the amount still to call,
any other action is the seat's first bet of the street. -/
def NamesChips (st : EngineState Card) (action : PlayerAction) : Prop :=
  if action.actionType = .call then action.amount = some (toCall st action.seatId)
  else st.seatBet action.seatId = 0

/-- If the step applies a payment, its action names what it puts into the pot. -/
def PaysExactly [RsPoker Card] (svc : AppRoomService Card) (input : ServiceInput Card) : Prop :=
  ∀ p room, appliedBy svc input = some p → monetary p.action.actionType = true →
    svc.rooms.lookup p.roomId = some room → NamesChips room.state p.action

/-- Pending actions that pay name an amount. -/
structure FundedInv (svc : AppRoomService Card) : Prop extends BindingInv svc where
  funded : ∀ roomId room txHash action, svc.rooms.lookup roomId = some room →
    room.pendingChainActions.lookup txHash = some action →
    monetary action.actionType = true → action.amount ≠ none

/-- The chips an accepted monetary action pays are the amount it names exactly if `NamesChips`. -/
theorem chipsPaid_eq_iff {st : EngineState Card} {action : PlayerAction} {expected : Chips}
    (hok : Acceptable st action) (hmon : monetary action.actionType = true)
    (hamount : action.amount = some expected) :
    chipsPaid st action = expected.asU128 ↔ NamesChips st action := by
  have hplay := hok.playable
  unfold NamesChips
  by_cases hcall : action.actionType = .call
  · rw [if_pos hcall, hamount]
    simp only [chipsPaid, hcall, Option.some.injEq]
    constructor
    · intro h
      exact Chips.ext h.symm
    · rintro rfl
      rfl
  · rw [if_neg hcall, Chips.eq_zero_iff]
    have hraise : action.actionType = .raiseTo ∨ action.actionType = .allIn := by
      cases htype : action.actionType <;> simp [htype, monetary] at hmon hcall ⊢
    have hpaid : chipsPaid st action = expected.asU128 - (st.seatBet action.seatId).asU128 ∧
        st.seatBet action.seatId < expected := by
      rcases hraise with htype | htype <;> simp_all [chipsPaid, Playable]
    rw [Chips.lt_iff] at hpaid
    omega

section

variable [RsPoker Card]

theorem fundedInv_step (config : RoomActorConfig) (svc : AppRoomService Card)
    (input : ServiceInput Card) (hvalid : FundsValidated input) (h : FundedInv svc) :
    FundedInv (serviceStep config svc input) where
  toBindingInv := bindingInv_step config svc input h.toBindingInv
  funded roomId room txHash action hroom hpend := by
    rcases pending_origin config hroom hpend with ⟨room₀, hroom₀, hpend₀, -⟩ |
        ⟨env, request, rfl, -, -, haction, -, -⟩
    · exact h.funded roomId room₀ txHash action hroom₀ hpend₀
    · obtain ⟨other, hother, hfunds⟩ := validateGameActFundingFields_ok hvalid
      rw [haction] at hother
      cases hother
      exact fun hmon => (hfunds hmon).1

theorem potTotal_of_appliedBy (config : RoomActorConfig) {svc : AppRoomService Card}
    {input : ServiceInput Card} {p : Payment} (hinv : BindingInv svc)
    (h : appliedBy svc input = some p) :
    ∃ room, svc.rooms.lookup p.roomId = some room ∧
      room.pendingChainActions.lookup p.txHash = some p.action ∧ Acceptable room.state p.action ∧
      potTotal (serviceStep config svc input) p.roomId =
        potTotal svc p.roomId + chipsPaid room.state p.action := by
  obtain ⟨room, callback, hcallback, hmatch, hhash, hpend, result, hresult⟩ := appliedBy_eq_some.1 h
  have hroom := lookup_of_callbackAt hcallback
  have hstate : (chainTxVerified room callback).state = (applyAction room.state p.action).1 :=
    chainTxVerified_state hmatch (by rw [hhash, hpend])
  refine ⟨room, hroom, hpend, ?_⟩
  rcases applyAction_cases (hinv.engine p.roomId room hroom).pot p.action with
    ⟨hok, st', r, happ, hacc⟩ | ⟨-, round, e, happ⟩
  · refine ⟨hok, ?_⟩
    rw [happ] at hstate
    rw [potTotal, potTotal, rooms_of_callbackAt hcallback, AList.lookup_insert, hroom]
    simp only [Option.map_some, Option.getD_some, hstate]
    exact hacc.paid
  · rw [happ] at hresult
    cases hresult

theorem credits_iff_pays (config : RoomActorConfig) (svc : AppRoomService Card)
    (input : ServiceInput Card) (hinv : FundedInv svc) :
    CreditsExpected config svc input ↔ PaysExactly svc input := by
  have hpoint : ∀ p, appliedBy svc input = some p → monetary p.action.actionType = true →
      ∃ room binding expected, svc.rooms.lookup p.roomId = some room ∧
        svc.chainTxRepo.txBindingsByHash.lookup p.txHash = some binding ∧
        binding.expectedAmount = some expected ∧
        (potTotal (serviceStep config svc input) p.roomId =
          potTotal svc p.roomId + expected.asU128 ↔ NamesChips room.state p.action) := by
    intro p happ hmon
    obtain ⟨room, hroom, hpend, hok, hpot⟩ := potTotal_of_appliedBy config hinv.toBindingInv happ
    obtain ⟨binding, hbinding, -, hexpected⟩ := hinv.bound p.roomId room p.txHash p.action hroom hpend
    obtain ⟨expected, hamount⟩ :=
      Option.ne_none_iff_exists'.1 (hinv.funded p.roomId room p.txHash p.action hroom hpend hmon)
    refine ⟨room, binding, expected, hroom, hbinding, hexpected.trans hamount, ?_⟩
    rw [hpot, ← chipsPaid_eq_iff hok hmon hamount]
    omega
  constructor
  · intro h p room happ hmon hroom
    obtain ⟨room', binding, expected, hroom', hbinding, hexpected, hiff⟩ := hpoint p happ hmon
    obtain ⟨binding', expected', hbinding', hexpected', hpot⟩ := h p happ hmon
    rw [hroom, Option.some.injEq] at hroom'
    rw [hbinding, Option.some.injEq] at hbinding'
    subst hroom' hbinding'
    rw [hexpected, Option.some.injEq] at hexpected'
    subst hexpected'
    exact hiff.1 hpot
  · intro h p happ hmon
    obtain ⟨room, binding, expected, hroom, hbinding, hexpected, hiff⟩ := hpoint p happ hmon
    exact ⟨binding, expected, hbinding, hexpected, hiff.2 (h p room happ hmon hroom)⟩

/-- **Paid amount and chips credited agree** at every application of a run exactly if every applied
payment names what it puts into the pot. -/
theorem paid_amount_credited_iff (config : RoomActorConfig) (inputs : List (ServiceInput Card))
    (hvalid : ∀ input ∈ inputs, FundsValidated input) :
    AllSteps (serviceStep config) (CreditsExpected config) {} inputs ↔
      AllSteps (serviceStep config) PaysExactly {} inputs := by
  have hinit : FundedInv ({} : AppRoomService Card) := by
    refine ⟨bindingInv_init, ?_⟩
    intro roomId room txHash action h
    cases h
  exact (allSteps_of_forall hvalid).iff_of_inv FundedInv
    (fun svc input hv h => fundedInv_step config svc input hv h)
    (fun svc input _ h => credits_iff_pays config svc input h) hinit

end

/-- The requests of the table and a call that names the given amount. -/
def callInputs (amount : String) : List (ServiceInput ByteCard) :=
  tableInputs ++ [.act tableEnv (payRequest 1 0 "call" amount "0x1")]

theorem callInputs_validated (amount : String)
    (h : validateGameActFundingFields (payRequest 1 0 "call" amount "0x1") = .ok ()) :
    ∀ input ∈ callInputs amount ++ [matchedCallback 1 0 "0x1"], FundsValidated input := by
  intro input hmem
  simp only [callInputs, tableInputs, matchedCallback, List.cons_append, List.nil_append,
    List.mem_cons, List.not_mem_nil, or_false] at hmem
  rcases hmem with rfl | rfl | rfl | rfl | rfl | rfl | rfl | rfl | rfl | rfl | rfl <;>
    trivial

theorem callInputs_no_callback (amount : String) :
    ∀ input ∈ callInputs amount, deliveredCallback input = none := by
  intro input hmem
  rcases List.mem_append.1 hmem with hmem | hmem
  · exact tableInputs_no_callback input hmem
  · rw [List.mem_singleton.1 hmem]
    rfl

/-- The small blind calls with a transaction of one unit and is credited `10 ^ 14`. -/
theorem underpaid_call_credited :
    (∀ input ∈ callInputs "1" ++ [matchedCallback 1 0 "0x1"], FundsValidated input) ∧
      ¬ AllSteps (serviceStep {}) (CreditsExpected {}) {}
        (callInputs "1" ++ [matchedCallback 1 0 "0x1"]) := by
  refine ⟨callInputs_validated "1" (by decide +kernel), fun hall => ?_⟩
  have happlied : appliedBy (run (serviceStep {}) {} (callInputs "1")) (matchedCallback 1 0 "0x1") =
      some ⟨⟨0⟩, "0x1", tableAction 1 0 .call (some (.ofU128 1))⟩ := by decide +kernel
  obtain ⟨binding, expected, hbinding, hexpected, hpot⟩ := hall.at _ happlied rfl
  have hbound : ((run (serviceStep {}) {} (callInputs "1")).chainTxRepo.txBindingsByHash.lookup
      "0x1").bind (fun b => b.expectedAmount) = some (.ofU128 1) := by decide +kernel
  have hbefore : potTotal (run (serviceStep {}) {} (callInputs "1")) ⟨0⟩ = 300000000000000 := by
    decide +kernel
  have hafter : potTotal (serviceStep {} (run (serviceStep {}) {} (callInputs "1"))
      (matchedCallback 1 0 "0x1")) ⟨0⟩ = 400000000000000 := by decide +kernel
  rw [hbinding, Option.bind_some, hexpected, Option.some.injEq] at hbound
  subst hbound
  rw [hbefore, hafter] at hpot
  exact absurd hpot (by decide)

/-- A call that names the amount still to call is credited what it paid. -/
theorem exact_call_credited :
    AllSteps (serviceStep {}) (CreditsExpected {}) {}
      (callInputs "100000000000000" ++ [matchedCallback 1 0 "0x1"]) := by
  refine (paid_amount_credited_iff {} _ (callInputs_validated _ (by decide +kernel))).2 ?_
  rw [AllSteps.append]
  constructor
  · refine (allSteps_of_forall (callInputs_no_callback _)).mono fun svc input hinput => ?_
    intro p room happ
    rw [appliedBy_eq_none hinput] at happ
    cases happ
  · refine ⟨fun p room happ hmon hroom => ?_, trivial⟩
    have happlied : appliedBy (run (serviceStep {}) {} (callInputs "100000000000000"))
        (matchedCallback 1 0 "0x1") =
        some ⟨⟨0⟩, "0x1", tableAction 1 0 .call (some (.ofU128 100000000000000))⟩ := by
      decide +kernel
    have htoCall : ((run (serviceStep {}) {} (callInputs "100000000000000")).rooms.lookup
        ⟨0⟩).map (fun room => toCall room.state 0) = some (.ofU128 100000000000000) := by
      decide +kernel
    rw [happlied, Option.some.injEq] at happ
    subst happ
    rw [hroom, Option.map_some, Option.some.injEq] at htoCall
    exact congrArg some htoCall.symm

end HoldemPlatform.Service.PaidAmount
