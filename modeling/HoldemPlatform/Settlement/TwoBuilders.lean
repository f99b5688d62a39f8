import HoldemPlatform.Settlement.Awards

/-!
# The Two Plan Builders

`build_plan_from_winners` takes the rake and then splits the rest evenly; `build_plan_from_pot_awards`
splits first, then takes the rake and scales the parts down by largest remainders. On a single pot they
pay the same. The parts differ by at most one chip, the lower seats having the larger ones, and scaling
down keeps that (`PotParts.steps_paid`); but there is only one way to cut an amount like that
(`equalShare_of_steps`), and it is the even split.
-/

namespace HoldemPlatform.Settlement.TwoBuilders

open HoldemPlatform.Lib.FiniteMap HoldemPlatform.Lib.Shares HoldemPlatform.Domain.Money
open HoldemPlatform.Domain.Game HoldemPlatform.Engine.State
open HoldemPlatform.Settlement.Plan HoldemPlatform.Settlement.Conservation
open HoldemPlatform.Settlement.Apportionment HoldemPlatform.Settlement.LargePots
open HoldemPlatform.Settlement.Awards

theorem sum_paidTo {seats : Finset SeatId} : ∀ {payouts : List SettlementPayout},
    (∀ p ∈ payouts, p.seatId ∈ seats) → ∑ s ∈ seats, paidTo payouts s = payoutSum payouts
  | [], _ => Finset.sum_eq_zero fun _ _ => rfl
  | p :: payouts, h => by
    have ih := sum_paidTo fun q hq => h q (List.mem_cons_of_mem p hq)
    simp only [paidTo_cons]
    rw [Finset.sum_add_distrib, ih, Finset.sum_ite_eq, if_pos (h p List.mem_cons_self)]
    rfl

/-- The part of a pot falls by at most one chip from a winner to a later one. -/
theorem steps_potShare {pot : PotAwardInput} {s t : SeatId} (hs : s ∈ pot.winnerSeats)
    (ht : t ∈ pot.winnerSeats) (hlt : s < t) :
    potShare pot t = potShare pot s ∨ potShare pot s = potShare pot t + 1 := by
  have hahead : (pot.winnerSeats.toFinset.filter (· < s)).card ≤
      (pot.winnerSeats.toFinset.filter (· < t)).card := by
    refine Finset.card_le_card fun u hu => ?_
    rw [Finset.mem_filter] at hu ⊢
    exact ⟨hu.1, hu.2.trans hlt⟩
  unfold potShare
  simp only [List.mem_toFinset, hs, ht, if_true]
  split_ifs <;> omega

/-! ### A single pot -/

/-- What the winners of a pot have before the rake: each seat is listed once, with its part. -/
structure PotParts (pot : PotAwardInput) (parts : List SettlementPayout) : Prop where
  seats : (parts.map SettlementPayout.seatId).Nodup
  mem_iff : ∀ p, p ∈ parts ↔ p.seatId ∈ pot.winnerSeats ∧ p.amount.asU128 = potShare pot p.seatId
  sum : payoutSum parts = pot.amount.asU128

theorem wonSum_single {pot : PotAwardInput} (hwin : pot.winnerSeats ≠ []) :
    wonSum [pot] = pot.amount.asU128 := by
  rw [wonSum_cons, if_neg hwin]
  rfl

theorem potParts_gross {pot : PotAwardInput} {gross : HashMap SeatId Chips}
    (h : awardPots ∅ [pot] = .ok gross) (hpos : pot.amount ≠ 0)
    (hsum : payoutSum (grossPayouts gross) = pot.amount.asU128) : PotParts pot (grossPayouts gross) := by
  have hwinnings : ∀ s, winnings [pot] s = potShare pot s := fun s => winnings_cons pot [] s
  have hwinners : ∀ s, s ∈ winnersOf [pot] ↔ s ∈ pot.winnerSeats := fun s => by
    simp [mem_winnersOf, hpos]
  refine ⟨nodup_payoutSeats gross, fun p => ?_, hsum⟩
  rw [mem_grossPayouts h]
  constructor
  · rintro ⟨s, hs, rfl⟩
    rw [asU128_winnings h]
    exact ⟨(hwinners s).1 hs, hwinnings s⟩
  · rintro ⟨hs, hamount⟩
    refine ⟨p.seatId, (hwinners p.seatId).2 hs, ?_⟩
    rw [hwinnings, ← hamount]
    exact congrArg (SettlementPayout.mk p.seatId) (Chips.ext (Chips.asU128_ofU128 p.amount.lt))

namespace PotParts

variable {pot : PotAwardInput} {parts : List SettlementPayout} (h : PotParts pot parts)
include h

theorem mem_of_winner {s : SeatId} (hs : s ∈ pot.winnerSeats) :
    { seatId := s, amount := .ofU128 (potShare pot s) } ∈ parts := by
  have hshare := potShare_le pot s
  have hlt := pot.amount.lt
  exact (h.mem_iff _).2 ⟨hs, Chips.asU128_ofU128 (by omega)⟩

theorem sum_lt : payoutSum parts < 2 ^ 128 := by
  rw [h.sum]
  exact pot.amount.lt

theorem fits {target : ℕ} (hfits : pot.amount.asU128 * target < 2 ^ 128) :
    ∀ p ∈ parts, p.amount.asU128 * target < 2 ^ 128 := by
  intro p hp
  rw [((h.mem_iff p).1 hp).2]
  exact (Nat.mul_le_mul_right _ (potShare_le pot p.seatId)).trans_lt hfits

variable (hpos : 0 < payoutSum parts) {target : Chips} (hle : target.asU128 ≤ payoutSum parts)
  (hfits : pot.amount.asU128 * target.asU128 < 2 ^ 128)
include hpos hle hfits

/-- **Scaling the parts down keeps them within a chip**, the lower seats first. -/
theorem steps_paid {s t : SeatId} (hs : s ∈ pot.winnerSeats) (ht : t ∈ pot.winnerSeats) (hlt : s < t) :
    paidTo (apportionByWeight parts target) t ≤ paidTo (apportionByWeight parts target) s ∧
      paidTo (apportionByWeight parts target) s ≤ paidTo (apportionByWeight parts target) t + 1 := by
  have hpaid : ∀ p ∈ parts,
      paidTo (apportionByWeight parts target) p.seatId = due parts target.asU128 p :=
    fun p => paidTo_apportion h.seats hpos h.sum_lt hle
  have hs_mem := h.mem_of_winner hs
  have ht_mem := h.mem_of_winner ht
  have hs_amount := ((h.mem_iff _).1 hs_mem).2
  have ht_amount := ((h.mem_iff _).1 ht_mem).2
  rw [hpaid _ hs_mem, hpaid _ ht_mem]
  rcases steps_potShare hs ht hlt with heq | hsucc
  · exact due_ties (congrArg Chips.ofU128 heq.symm) hlt
  · rw [← hs_amount, ← ht_amount] at hsucc
    exact ⟨due_mono (h.fits hfits) hs_mem ht_mem (by omega),
      due_le_succ hpos (h.fits hfits) hle hs_mem ht_mem hsucc⟩

theorem sum_paid :
    ∑ s ∈ pot.winnerSeats.toFinset, paidTo (apportionByWeight parts target) s = target.asU128 := by
  rw [← payoutSum_apportion hpos h.sum_lt (h.fits hfits)]
  refine sum_paidTo fun p hp => ?_
  obtain ⟨q, hq, rfl⟩ := List.mem_map.1 ((apportion_perm h.seats hpos h.sum_lt hle).mem_iff.1 hp)
  exact List.mem_toFinset.2 ((h.mem_iff q).1 (List.mem_filter.1 hq).1).1

/-- **The parts scaled down are the even split of what is left.** -/
theorem paidTo_scaled (s : SeatId) :
    paidTo (apportionByWeight parts target) s = potShare { pot with amount := target } s := by
  by_cases hs : s ∈ pot.winnerSeats
  · have hsteps : ∀ u ∈ pot.winnerSeats.toFinset, ∀ v ∈ pot.winnerSeats.toFinset, u < v → _ :=
      fun u hu v hv => h.steps_paid hpos hle hfits (List.mem_toFinset.1 hu) (List.mem_toFinset.1 hv)
    rw [equalShare_of_steps hsteps (List.mem_toFinset.2 hs), h.sum_paid hpos hle hfits, potShare]
    simp [hs]
  · have hother : s ∉ parts.map SettlementPayout.seatId := by
      intro hmem
      obtain ⟨p, hp, rfl⟩ := List.mem_map.1 hmem
      exact hs ((h.mem_iff p).1 hp).1
    rw [paidTo_apportion_other h.seats hpos h.sum_lt hle hother]
    simp [potShare, hs]

end PotParts

/-! ### Both plans -/

/-- The plan from the winners: the rake, and the even split of the rest. -/
theorem winners_outcome (roomId : RoomId) (handId : HandId) (amount : Chips) {winners : List SeatId}
    {policy : RakePolicy} (hbps : policy.rakeBps ≤ 10000) (hwin : winners ≠ []) :
    ∃ plan distributable, buildPlanFromWinners roomId handId amount winners policy = .ok plan ∧
      plan.rakeAmount.asU128 = rakeOf policy amount.asU128 ∧
      distributable.asU128 = amount.asU128 - rakeOf policy amount.asU128 ∧
      plan.payouts = splitAmountDeterministic distributable (sortDedup winners) := by
  obtain ⟨rake, hrake, hsub⟩ := exists_rake hbps amount
  have hvalue := (rakeAmountFor_ok hrake).2
  refine ⟨{ roomId, handId, rakeAmount := rake,
            payouts := splitAmountDeterministic (amount.subOrZero rake) (sortDedup winners) },
    amount.subOrZero rake, ?_, hvalue, ?_, rfl⟩
  · unfold buildPlanFromWinners
    rw [if_neg (sortDedup_ne_nil hwin), hrake]
    simp only [hsub]
  · rw [Chips.asU128_subOrZero, hvalue]

/-- **On a single pot the two builders agree**: the same rake, and the same amount for every seat. -/
theorem single_pot_builders_agree (roomId : RoomId) (handId : HandId) (amount : Chips)
    (eligible winners : List SeatId) (policy : RakePolicy) (hbps : policy.rakeBps ≤ 10000)
    (hsub : ∀ s ∈ winners, s ∈ eligible)
    (hfits : amount.asU128 * (amount.asU128 - rakeOf policy amount.asU128) < 2 ^ 128) :
    ∃ plan plan', buildPlanFromPotAwards roomId handId [⟨amount, eligible, winners⟩] policy = .ok plan ∧
      buildPlanFromWinners roomId handId amount winners policy = .ok plan' ∧
      plan.rakeAmount = plan'.rakeAmount ∧
      ∀ s, paidTo plan.payouts s = paidTo plan'.payouts s := by
  have hwinners : WinnersEligible [⟨amount, eligible, winners⟩] := by
    intro pot hpot _
    rw [List.mem_singleton.1 hpot]
    exact hsub
  by_cases hwin : winners = []
  · -- nobody wins the pot, so nothing is paid and no rake is taken
    subst hwin
    have hnone : awardPots ∅ [⟨amount, eligible, []⟩] = .ok ∅ := by simp [awardPots, sortDedup]
    exact ⟨_, _, buildPlan_of_awards hnone, rfl, rfl, fun _ => rfl⟩
  have hsum : wonSum [⟨amount, eligible, winners⟩] = amount.asU128 := wonSum_single hwin
  have hlt := amount.lt
  obtain ⟨plan, hplan⟩ := exists_plan roomId handId hbps hwinners (by rw [hsum]; exact hlt)
  obtain ⟨plan', distributable, hplan', hrake', hdist, hpayouts'⟩ :=
    winners_outcome roomId handId amount hbps hwin
  obtain ⟨gross, hgross, hgrossSum, -, houtcome⟩ := plan_outcome hplan
  have hpaid' : ∀ s, paidTo plan'.payouts s = potShare ⟨distributable, eligible, winners⟩ s := by
    intro s
    rw [hpayouts']
    exact paidTo_split ⟨distributable, eligible, winners⟩ s
  rw [hsum] at hgrossSum
  refine ⟨plan, plan', hplan, hplan', ?_⟩
  cases houtcome with
  | nothing hzero hrake hpayouts =>
    -- an empty pot: the even split pays everyone nothing
    have hamount : amount.asU128 = 0 := by omega
    have hrakeLe := rakeOf_le hbps amount.asU128
    have hdist0 : distributable = 0 := Chips.eq_zero_iff.2 (by omega)
    refine ⟨Chips.ext (by omega), fun s => ?_⟩
    rw [hpaid', hpayouts, hdist0]
    simp [paidTo, payoutSum, potShare]
  | shares hpos _ hrake target htarget hpayouts =>
    have hne : amount ≠ 0 := by
      rw [Ne, Chips.eq_zero_iff]
      omega
    have hparts := potParts_gross hgross hne hgrossSum
    rw [hgrossSum] at hrake htarget
    have heq : target = distributable := Chips.ext (by omega)
    refine ⟨Chips.ext (by omega), fun s => ?_⟩
    rw [hpaid', hpayouts, ← heq]
    rw [← htarget] at hfits
    exact hparts.paidTo_scaled hpos (by omega) hfits s

/-- Eleven chips, of which one is raked, for three winners. -/
theorem eleven_chips_agree : ∃ plan plan',
    buildPlanFromPotAwards ⟨1⟩ ⟨1⟩ [⟨.ofU128 11, [0, 4, 2, 7], [4, 2, 7, 2]⟩] ⟨1000⟩ = .ok plan ∧
    buildPlanFromWinners ⟨1⟩ ⟨1⟩ (.ofU128 11) [4, 2, 7, 2] ⟨1000⟩ = .ok plan' ∧
    plan.rakeAmount = plan'.rakeAmount ∧ ∀ s, paidTo plan.payouts s = paidTo plan'.payouts s :=
  single_pot_builders_agree ⟨1⟩ ⟨1⟩ (.ofU128 11) [0, 4, 2, 7] [4, 2, 7, 2] ⟨1000⟩ (by decide)
    (by decide +kernel) (by decide +kernel)

end HoldemPlatform.Settlement.TwoBuilders
