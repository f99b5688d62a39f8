import HoldemPlatform.Settlement.LargePots

/-!
# When Awards Become a Plan

The awards of the pots are added up in a map, one pot after the other, and any addition can fail. Still
neither the order of the pots nor the way their seats are listed matters: the awards go through exactly if
the winners of the pots that hold chips are eligible and what each seat wins in all of them fits an amount
(`awardPots_ok_iff`), and then the payouts before the rake are listed by seat. The rest of the plan only
reads that list (`planOfGross`).
-/

namespace HoldemPlatform.Settlement.Awards

open HoldemPlatform.Lib.FiniteMap HoldemPlatform.Domain.Money HoldemPlatform.Domain.Game
open HoldemPlatform.Engine.State HoldemPlatform.Settlement.Plan HoldemPlatform.Settlement.Conservation
open HoldemPlatform.Settlement.Apportionment HoldemPlatform.Settlement.LargePots

/-! ### The awards -/

/-- **Payouts can be added exactly if every sum fits an amount**; the sums only grow. -/
theorem addPayouts_ok_iff : ∀ {payouts : List SettlementPayout} {gross : HashMap SeatId Chips},
    (∃ gross', addPayouts gross payouts = .ok gross') ↔
      ∀ s, weight Chips.asU128 gross s + paidTo payouts s < 2 ^ 128 := by
  intro payouts gross
  constructor
  · rintro ⟨gross', h⟩ s
    rw [← (weight_addPayouts h s).1]
    exact weight_lt gross' s
  · intro h
    induction payouts generalizing gross with
    | nil => exact ⟨gross, rfl⟩
    | cons payout rest ih =>
      have hself := h payout.seatId
      rw [weight_eq_getD Chips.asU128_zero, paidTo_cons, if_pos rfl] at hself
      obtain ⟨next, hnext⟩ : ∃ next,
          ((gross.lookup payout.seatId).getD 0).checkedAdd payout.amount = .ok next :=
        ⟨_, Chips.checkedAdd_of_lt (by omega)⟩
      rw [addPayouts, hnext]
      refine ih fun s => ?_
      have hs := h s
      rw [paidTo_cons] at hs
      by_cases heq : payout.seatId = s
      · subst heq
        rw [weight_insert_self, Chips.checkedAdd_eq_ok.1 hnext]
        omega
      · rw [weight_insert_ne Chips.asU128 gross next (Ne.symm heq)]
        rwa [if_neg heq, Nat.zero_add] at hs

/-- Whoever wins chips of a pot is eligible for it. -/
def WinnersEligible (pots : List PotAwardInput) : Prop :=
  ∀ pot ∈ pots, pot.amount ≠ 0 → ∀ s ∈ pot.winnerSeats, s ∈ pot.eligibleSeats

theorem winnersEligible_cons {pot : PotAwardInput} {pots : List PotAwardInput} :
    WinnersEligible (pot :: pots) ↔
      (pot.amount ≠ 0 → ∀ s ∈ pot.winnerSeats, s ∈ pot.eligibleSeats) ∧ WinnersEligible pots :=
  List.forall_mem_cons

/-- **The awards go through exactly if the winners are eligible and their winnings fit.** -/
theorem awardPots_ok_iff : ∀ {pots : List PotAwardInput} {gross : HashMap SeatId Chips},
    (∃ gross', awardPots gross pots = .ok gross') ↔
      WinnersEligible pots ∧ ∀ s, weight Chips.asU128 gross s + winnings pots s < 2 ^ 128
  | [], gross => iff_of_true ⟨gross, rfl⟩ ⟨nofun, weight_lt gross⟩
  | pot :: pots, gross => by
    rw [winnersEligible_cons]
    simp only [winnings_cons]
    rw [awardPots]
    by_cases hzero : pot.amount = 0
    · -- the pot is passed over
      have hshare : ∀ s, potShare pot s = 0 := fun s => by simp [potShare, hzero]
      rw [if_pos hzero, awardPots_ok_iff]
      simp [hzero, hshare]
    rw [if_neg hzero]
    by_cases hnone : sortDedup pot.winnerSeats = []
    · have hwin : ∀ s, s ∉ pot.winnerSeats := fun s => by
        rw [← mem_sortDedup, hnone]
        exact List.not_mem_nil
      have hshare : ∀ s, potShare pot s = 0 := fun s => by simp [potShare, hwin s]
      rw [if_pos hnone, awardPots_ok_iff]
      simp [hwin, hshare]
    rw [if_neg hnone]
    simp only [mem_sortDedup]
    by_cases hsub : ∀ s ∈ pot.winnerSeats, s ∈ pot.eligibleSeats
    swap
    · rw [if_pos hsub]
      refine iff_of_false ?_ fun h => hsub (h.1.1 hzero)
      rintro ⟨_, herror⟩
      cases herror
    rw [if_neg (not_not_intro hsub)]
    cases hadd : addPayouts gross
        (splitAmountDeterministic pot.amount (sortDedup pot.winnerSeats)) with
    | error e =>
      refine iff_of_false ?_ ?_
      · rintro ⟨_, herror⟩
        cases herror
      rintro ⟨-, hfit⟩
      have hfits : ∀ s, weight Chips.asU128 gross s +
          paidTo (splitAmountDeterministic pot.amount (sortDedup pot.winnerSeats)) s < 2 ^ 128 := by
        intro s
        have hs := hfit s
        rw [paidTo_split]
        omega
      obtain ⟨gross', hok⟩ := addPayouts_ok_iff.2 hfits
      rw [hadd] at hok
      cases hok
    | ok mid =>
      have hmid : ∀ s, weight Chips.asU128 mid s = weight Chips.asU128 gross s + potShare pot s :=
        fun s => by rw [(weight_addPayouts hadd s).1, paidTo_split]
      show (∃ gross', awardPots mid pots = .ok gross') ↔ _
      rw [awardPots_ok_iff]
      simp only [hmid, Nat.add_assoc]
      exact and_congr_left fun _ => ⟨fun h => ⟨fun _ => hsub, h⟩, fun h => h.2⟩

/-! ### From the awards to the plan -/

theorem buildPlan_of_awards {roomId : RoomId} {handId : HandId} {pots : List PotAwardInput}
    {policy : RakePolicy} {gross : HashMap SeatId Chips} (h : awardPots ∅ pots = .ok gross) :
    buildPlanFromPotAwards roomId handId pots policy =
      planOfGross roomId handId policy (grossPayouts gross) := by
  rw [buildPlanFromPotAwards, h]

theorem checkedTotal_ok_iff : ∀ {payouts : List SettlementPayout} {acc : Chips},
    (∃ result, checkedTotal acc payouts = .ok result) ↔ acc.asU128 + payoutSum payouts < 2 ^ 128 := by
  intro payouts acc
  constructor
  · rintro ⟨result, h⟩
    rw [← checkedTotal_ok h]
    exact result.lt
  · intro h
    induction payouts generalizing acc with
    | nil => exact ⟨acc, rfl⟩
    | cons payout rest ih =>
      have hsum : payoutSum (payout :: rest) = payout.amount.asU128 + payoutSum rest := rfl
      obtain ⟨next, hnext⟩ : ∃ next, acc.checkedAdd payout.amount = .ok next :=
        ⟨_, Chips.checkedAdd_of_lt (by omega)⟩
      have hval := Chips.checkedAdd_eq_ok.1 hnext
      rw [checkedTotal, hnext]
      exact ih (by omega)

/-- What the seats won has a plan if it fits an amount and the policy takes at most all of it. -/
theorem exists_planOfGross (roomId : RoomId) (handId : HandId) {policy : RakePolicy}
    (hbps : policy.rakeBps ≤ 10000) {gross : List SettlementPayout} (hlt : payoutSum gross < 2 ^ 128) :
    ∃ plan, planOfGross roomId handId policy gross = .ok plan := by
  obtain ⟨grossTotal, hchecked⟩ := checkedTotal_ok_iff.2
    (show (0 : Chips).asU128 + payoutSum gross < 2 ^ 128 by rwa [Chips.asU128_zero, Nat.zero_add])
  unfold planOfGross
  simp only [hchecked]
  split_ifs with hzero
  · exact ⟨_, rfl⟩
  obtain ⟨rake, hrake, hrest⟩ := exists_rake hbps grossTotal
  simp only [hrake, hrest]
  exact ⟨_, rfl⟩

theorem winnings_le_wonSum (s : SeatId) : ∀ pots : List PotAwardInput, winnings pots s ≤ wonSum pots
  | [] => Nat.zero_le _
  | pot :: pots => by
    rw [winnings_cons, wonSum_cons]
    refine Nat.add_le_add ?_ (winnings_le_wonSum s pots)
    split_ifs with hnone
    · simp [potShare, hnone]
    · exact potShare_le pot s

/-- **Awards to eligible winners that fit an amount have a plan.** -/
theorem exists_plan (roomId : RoomId) (handId : HandId) {pots : List PotAwardInput}
    {policy : RakePolicy} (hbps : policy.rakeBps ≤ 10000) (hwin : WinnersEligible pots)
    (hlt : wonSum pots < 2 ^ 128) :
    ∃ plan, buildPlanFromPotAwards roomId handId pots policy = .ok plan := by
  obtain ⟨gross, hgross⟩ : ∃ gross, awardPots ∅ pots = .ok gross := by
    refine awardPots_ok_iff.2 ⟨hwin, fun s => ?_⟩
    rw [weight_empty, Nat.zero_add]
    exact (winnings_le_wonSum s pots).trans_lt hlt
  have htotal := total_awardPots hgross
  rw [total_empty, Nat.zero_add, ← payoutSum_gross] at htotal
  rw [buildPlan_of_awards hgross]
  exact exists_planOfGross roomId handId hbps (by omega)

/-! ### Pots as sets -/

/-- The same chips, the same eligible seats and the same winners, however they are listed. -/
structure SamePot (pot pot' : PotAwardInput) : Prop where
  amount : pot.amount = pot'.amount
  eligible : ∀ s, s ∈ pot.eligibleSeats ↔ s ∈ pot'.eligibleSeats
  winners : ∀ s, s ∈ pot.winnerSeats ↔ s ∈ pot'.winnerSeats

/-- The same pots in some order, with their seats listed in any way. -/
def SamePots (pots pots' : List PotAwardInput) : Prop :=
  ∃ reordered, pots.Perm reordered ∧ List.Forall₂ SamePot reordered pots'

namespace SamePots

variable {pots pots' : List PotAwardInput}

theorem potShare_eq {pot pot' : PotAwardInput} (h : SamePot pot pot') (s : SeatId) :
    potShare pot s = potShare pot' s := by
  have hwinners : pot.winnerSeats.toFinset = pot'.winnerSeats.toFinset := by
    ext t
    rw [List.mem_toFinset, List.mem_toFinset, h.winners]
  unfold potShare
  rw [hwinners, h.amount]

theorem winnings_eq (h : SamePots pots pots') (s : SeatId) : winnings pots s = winnings pots' s := by
  obtain ⟨reordered, hperm, hsame⟩ := h
  have hreorder : winnings pots s = winnings reordered s := (hperm.map _).sum_eq
  rw [hreorder]
  clear hperm hreorder
  induction hsame with
  | nil => rfl
  | cons hpot _ ih => rw [winnings_cons, winnings_cons, potShare_eq hpot, ih]

theorem exists_same (h : SamePots pots pots') : (∀ pot ∈ pots, ∃ pot' ∈ pots', SamePot pot pot') ∧
    ∀ pot' ∈ pots', ∃ pot ∈ pots, SamePot pot pot' := by
  obtain ⟨reordered, hperm, hsame⟩ := h
  have hforth : ∀ pot ∈ reordered, ∃ pot' ∈ pots', SamePot pot pot' := by
    clear hperm
    induction hsame with
    | nil => exact nofun
    | cons hpot _ ih => simp_all
  have hback : ∀ pot' ∈ pots', ∃ pot ∈ reordered, SamePot pot pot' := by
    clear hperm hforth
    induction hsame with
    | nil => exact nofun
    | cons hpot _ ih => simp_all
  refine ⟨fun pot hpot => hforth pot (hperm.mem_iff.1 hpot), fun pot' hpot' => ?_⟩
  obtain ⟨pot, hpot, hsamePot⟩ := hback pot' hpot'
  exact ⟨pot, hperm.mem_iff.2 hpot, hsamePot⟩

theorem winnersOf_eq (h : SamePots pots pots') : winnersOf pots = winnersOf pots' := by
  obtain ⟨hforth, hback⟩ := h.exists_same
  ext s
  rw [mem_winnersOf, mem_winnersOf]
  constructor
  · rintro ⟨pot, hpot, hne, hs⟩
    obtain ⟨pot', hpot', hsame⟩ := hforth pot hpot
    exact ⟨pot', hpot', hsame.amount ▸ hne, (hsame.winners s).1 hs⟩
  · rintro ⟨pot', hpot', hne, hs⟩
    obtain ⟨pot, hpot, hsame⟩ := hback pot' hpot'
    exact ⟨pot, hpot, hsame.amount ▸ hne, (hsame.winners s).2 hs⟩

theorem winnersEligible_iff (h : SamePots pots pots') : WinnersEligible pots ↔ WinnersEligible pots' := by
  obtain ⟨hforth, hback⟩ := h.exists_same
  constructor
  · intro hwin pot' hpot' hne s hs
    obtain ⟨pot, hpot, hsame⟩ := hback pot' hpot'
    exact (hsame.eligible s).1 (hwin pot hpot (hsame.amount ▸ hne) s ((hsame.winners s).2 hs))
  · intro hwin pot hpot hne s hs
    obtain ⟨pot', hpot', hsame⟩ := hforth pot hpot
    exact (hsame.eligible s).2 (hwin pot' hpot' (hsame.amount ▸ hne) s ((hsame.winners s).1 hs))

end SamePots

/-- **The plan depends on the pots as sets only**: with the pots in another order and their seats listed in
another way, both calls fail, or both return the same plan. -/
theorem plan_of_same_pots (roomId : RoomId) (handId : HandId) (policy : RakePolicy)
    (pots pots' : List PotAwardInput) (h : SamePots pots pots') :
    (∃ e e', buildPlanFromPotAwards roomId handId pots policy = .error e ∧
      buildPlanFromPotAwards roomId handId pots' policy = .error e') ∨
    ∃ plan, buildPlanFromPotAwards roomId handId pots policy = .ok plan ∧
      buildPlanFromPotAwards roomId handId pots' policy = .ok plan := by
  have hiff : (∃ gross, awardPots ∅ pots = .ok gross) ↔ ∃ gross', awardPots ∅ pots' = .ok gross' := by
    rw [awardPots_ok_iff, awardPots_ok_iff, h.winnersEligible_iff]
    simp only [h.winnings_eq]
  cases hgross : awardPots ∅ pots with
  | error e =>
    left
    cases hgross' : awardPots ∅ pots' with
    | error e' =>
      exact ⟨e, e', by rw [buildPlanFromPotAwards, hgross], by rw [buildPlanFromPotAwards, hgross']⟩
    | ok gross' =>
      obtain ⟨gross, hok⟩ := hiff.2 ⟨gross', hgross'⟩
      rw [hgross] at hok
      cases hok
  | ok gross =>
    obtain ⟨gross', hgross'⟩ := hiff.1 ⟨gross, hgross⟩
    have hlists : grossPayouts gross = grossPayouts gross' := by
      rw [grossPayouts_awardPots hgross, grossPayouts_awardPots hgross', h.winnersOf_eq]
      simp only [h.winnings_eq]
    rw [buildPlan_of_awards hgross, buildPlan_of_awards hgross', hlists]
    cases planOfGross roomId handId policy (grossPayouts gross') with
    | error e => exact .inl ⟨e, e, rfl, rfl⟩
    | ok plan => exact .inr ⟨plan, rfl, rfl⟩

/-- Two pots, the second with an odd chip. -/
def twoPots : List PotAwardInput :=
  [⟨.ofU128 90, [0, 1, 2], [1]⟩, ⟨.ofU128 11, [0, 2], [2, 0]⟩]

/-- The same pots in the other order, with seats listed twice and in another order. -/
def twoPotsAgain : List PotAwardInput :=
  [⟨.ofU128 11, [2, 0, 2], [0, 2, 0]⟩, ⟨.ofU128 90, [2, 1, 0], [1, 1]⟩]

theorem two_pots_same_plan :
    ∃ plan, buildPlanFromPotAwards ⟨1⟩ ⟨1⟩ twoPots ⟨500⟩ = .ok plan ∧
      buildPlanFromPotAwards ⟨1⟩ ⟨1⟩ twoPotsAgain ⟨500⟩ = .ok plan := by
  have hsame : SamePots twoPots twoPotsAgain := by
    refine ⟨[⟨.ofU128 11, [0, 2], [2, 0]⟩, ⟨.ofU128 90, [0, 1, 2], [1]⟩], .swap _ _ _, ?_⟩
    refine .cons ⟨rfl, ?_, ?_⟩ (.cons ⟨rfl, ?_, ?_⟩ .nil) <;> intro s <;> simp <;> tauto
  rcases plan_of_same_pots ⟨1⟩ ⟨1⟩ ⟨500⟩ twoPots twoPotsAgain hsame with ⟨e, _, herror, -⟩ | hplan
  · have hok : (buildPlanFromPotAwards ⟨1⟩ ⟨1⟩ twoPots ⟨500⟩).isOk = true := by decide +kernel
    rw [herror] at hok
    cases hok
  · exact hplan

end HoldemPlatform.Settlement.Awards
