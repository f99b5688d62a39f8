import HoldemPlatform.Settlement.Apportionment

/-!
# Are Large Pots Paid in Full?

What a seat wins before the rake is its part of every pot it wins. The apportionment multiplies it by the
chips that are shared out, in 128 bits; a product that does not fit is cut off at the largest amount. The
shares are then too small, and the rest is handed out in one pass of one chip a winner. So rake and
payouts are the pots exactly if the shares with the cut-off products leave no more than that.
-/

namespace HoldemPlatform.Settlement.LargePots

open HoldemPlatform.Lib.FiniteMap HoldemPlatform.Lib.Ranks
open HoldemPlatform.Domain.Money HoldemPlatform.Domain.Game HoldemPlatform.Engine.State
open HoldemPlatform.Settlement.Plan HoldemPlatform.Settlement.Conservation
open HoldemPlatform.Settlement.Apportionment

/-! ### What the seats win -/

/-- The part of a pot that a seat wins: the same for all winners, and one chip more for the lower seats
if the pot cannot be divided. -/
def potShare (pot : PotAwardInput) (seatId : SeatId) : ℕ :=
  let winners := pot.winnerSeats.toFinset
  if seatId ∈ winners then
    pot.amount.asU128 / winners.card +
      if (winners.filter (· < seatId)).card < pot.amount.asU128 % winners.card then 1 else 0
  else 0

def winnings (pots : List PotAwardInput) (seatId : SeatId) : ℕ :=
  (pots.map fun pot => potShare pot seatId).sum

theorem winnings_cons (pot : PotAwardInput) (pots : List PotAwardInput) (seatId : SeatId) :
    winnings (pot :: pots) seatId = potShare pot seatId + winnings pots seatId := by
  simp [winnings]

def winnersOf (pots : List PotAwardInput) : Finset SeatId :=
  ((pots.filter fun pot => pot.amount ≠ 0).flatMap PotAwardInput.winnerSeats).toFinset

theorem mem_winnersOf {pots : List PotAwardInput} {seatId : SeatId} :
    seatId ∈ winnersOf pots ↔ ∃ pot ∈ pots, pot.amount ≠ 0 ∧ seatId ∈ pot.winnerSeats := by
  simp [winnersOf, and_assoc]

theorem wonSum_pos {pots : List PotAwardInput} {seatId : SeatId} (h : seatId ∈ winnersOf pots) :
    0 < wonSum pots := by
  obtain ⟨pot, hpot, hne, hs⟩ := mem_winnersOf.1 h
  have hmem : pot ∈ pots.filter fun p => p.winnerSeats ≠ [] := by
    rw [List.mem_filter, decide_eq_true_iff]
    exact ⟨hpot, List.ne_nil_of_mem hs⟩
  have hle : pot.amount.asU128 ≤ wonSum pots :=
    List.single_le_sum (fun _ _ => Nat.zero_le _) _ (List.mem_map_of_mem hmem)
  rw [Ne, Chips.eq_zero_iff] at hne
  omega

/-! ### One pot -/

theorem mem_sortDedup {seats : List SeatId} {s : SeatId} : s ∈ sortDedup seats ↔ s ∈ seats := by
  rw [sortDedup, List.mem_dedup, List.mem_insertionSort]

theorem nodup_sortDedup (seats : List SeatId) : (sortDedup seats).Nodup := List.nodup_dedup _

theorem toFinset_sortDedup (seats : List SeatId) : (sortDedup seats).toFinset = seats.toFinset := by
  ext s
  rw [List.mem_toFinset, List.mem_toFinset, mem_sortDedup]

theorem length_sortDedup (seats : List SeatId) : (sortDedup seats).length = seats.toFinset.card := by
  rw [← toFinset_sortDedup, List.toFinset_card_of_nodup (nodup_sortDedup seats)]

theorem pairwise_sortDedup (seats : List SeatId) : (sortDedup seats).Pairwise (· < ·) := by
  have hle : (sortDedup seats).Pairwise (· ≤ ·) :=
    (List.pairwise_insertionSort (· ≤ ·) seats).sublist (List.dedup_sublist _)
  exact hle.imp₂ (fun _ _ h hne => lt_of_le_of_ne h hne) (nodup_sortDedup seats)

theorem ahead_sortDedup (seats : List SeatId) (s : SeatId) :
    ahead (· < ·) (sortDedup seats) s = (seats.toFinset.filter (· < s)).card := by
  rw [ahead, List.countP_eq_length_filter, ← toFinset_sortDedup,
    ← List.toFinset_card_of_nodup ((nodup_sortDedup seats).filter _), List.toFinset_filter]
  simp

theorem potShare_le (pot : PotAwardInput) (s : SeatId) : potShare pot s ≤ pot.amount.asU128 := by
  unfold potShare
  dsimp only
  split_ifs with hs hplace
  · have hcard : 0 < pot.winnerSeats.toFinset.card := Finset.card_pos.2 ⟨s, hs⟩
    have hdiv := Nat.div_add_mod pot.amount.asU128 pot.winnerSeats.toFinset.card
    have hle := Nat.le_mul_of_pos_left (pot.amount.asU128 / pot.winnerSeats.toFinset.card) hcard
    omega
  · exact Nat.div_le_self _ _
  · exact Nat.zero_le _

theorem map_seatId_split (amount : Chips) (winners : List SeatId) :
    (splitAmountDeterministic amount winners).map SettlementPayout.seatId = winners := by
  unfold splitAmountDeterministic
  rw [List.map_map]
  exact List.zipIdx_map_fst 0 winners

/-- **The split of a pot pays each seat its part.** -/
theorem paidTo_split (pot : PotAwardInput) (seatId : SeatId) :
    paidTo (splitAmountDeterministic pot.amount (sortDedup pot.winnerSeats)) seatId =
      potShare pot seatId := by
  have hseats := map_seatId_split pot.amount (sortDedup pot.winnerSeats)
  have hmap : splitAmountDeterministic pot.amount (sortDedup pot.winnerSeats) =
      (sortDedup pot.winnerSeats).map fun s => { seatId := s, amount := .ofU128 (potShare pot s) } := by
    have hplace := map_zipIdx_eq (r := (· < ·)) (fun a b : SeatId => lt_asymm)
      (fun s i => ({ seatId := s, amount := .ofU128 (pot.amount.asU128 / pot.winnerSeats.toFinset.card +
        if i < pot.amount.asU128 % pot.winnerSeats.toFinset.card then 1 else 0) } : SettlementPayout)) 0
      (pairwise_sortDedup pot.winnerSeats)
    unfold splitAmountDeterministic
    rw [length_sortDedup]
    refine hplace.trans (List.map_congr_left fun s hs => ?_)
    rw [ahead_sortDedup, Nat.zero_add, potShare]
    simp only [List.mem_toFinset, mem_sortDedup.1 hs, if_true]
  by_cases hs : seatId ∈ pot.winnerSeats
  · have hmem : { seatId := seatId, amount := .ofU128 (potShare pot seatId) } ∈
        splitAmountDeterministic pot.amount (sortDedup pot.winnerSeats) := by
      rw [hmap]
      exact List.mem_map.2 ⟨seatId, mem_sortDedup.2 hs, rfl⟩
    have hfit : potShare pot seatId < 2 ^ 128 := (potShare_le pot seatId).trans_lt pot.amount.lt
    rw [paidTo_of_mem (by rw [hseats]; exact nodup_sortDedup _) _ hmem, Chips.asU128_ofU128 hfit]
  · have hzero : potShare pot seatId = 0 := by simp [potShare, hs]
    rw [hzero]
    refine paidTo_eq_zero ?_
    rw [hseats, mem_sortDedup]
    exact hs

/-! ### All pots -/

theorem weight_lt (gross : HashMap SeatId Chips) (s : SeatId) :
    weight Chips.asU128 gross s < 2 ^ 128 := by
  rw [weight_eq_getD Chips.asU128_zero]
  exact ((gross.lookup s).getD 0).lt

theorem weight_addPayouts : ∀ {payouts : List SettlementPayout} {gross gross' : HashMap SeatId Chips},
    addPayouts gross payouts = .ok gross' → ∀ s,
    weight Chips.asU128 gross' s = weight Chips.asU128 gross s + paidTo payouts s ∧
      (s ∈ gross' ↔ s ∈ gross ∨ s ∈ payouts.map SettlementPayout.seatId)
  | [], _, _, h, s => by
    cases h
    simp [paidTo, payoutSum]
  | payout :: rest, gross, gross', h, s => by
    rw [addPayouts] at h
    split at h
    · cases h
    rename_i next hnext
    obtain ⟨hweight, hmem⟩ := weight_addPayouts h s
    rw [Chips.checkedAdd_eq_ok] at hnext
    refine ⟨?_, ?_⟩
    · rw [hweight, paidTo_cons]
      by_cases hs : payout.seatId = s
      · subst hs
        rw [weight_insert_self, if_pos rfl, hnext, weight_eq_getD Chips.asU128_zero, Nat.add_assoc]
      · rw [weight_insert_ne Chips.asU128 gross next (Ne.symm hs), if_neg hs, Nat.zero_add]
    · rw [hmem, AList.mem_insert, List.map_cons, List.mem_cons, or_assoc, or_left_comm]

/-- **The awards of the pots give each winner its winnings.** -/
theorem weight_awardPots : ∀ {pots : List PotAwardInput} {gross gross' : HashMap SeatId Chips},
    awardPots gross pots = .ok gross' → ∀ s,
    weight Chips.asU128 gross' s = weight Chips.asU128 gross s + winnings pots s ∧
      (s ∈ gross' ↔ s ∈ gross ∨ s ∈ winnersOf pots)
  | [], _, _, h, s => by
    cases h
    simp [winnings, winnersOf]
  | pot :: pots, gross, gross', h, s => by
    have hmemWin : s ∈ winnersOf (pot :: pots) ↔
        (pot.amount ≠ 0 ∧ s ∈ pot.winnerSeats) ∨ s ∈ winnersOf pots := by
      simp [mem_winnersOf]
    rw [winnings_cons, hmemWin]
    rw [awardPots] at h
    by_cases hzero : pot.amount = 0
    · -- nothing to win
      rw [if_pos hzero] at h
      have hshare : potShare pot s = 0 := by simp [potShare, hzero]
      rw [hshare, Nat.zero_add]
      simpa [hzero] using weight_awardPots h s
    rw [if_neg hzero] at h
    by_cases hnone : sortDedup pot.winnerSeats = []
    · -- nobody to win it
      rw [if_pos hnone] at h
      have hs : s ∉ pot.winnerSeats := by
        rw [← mem_sortDedup, hnone]
        exact List.not_mem_nil
      have hshare : potShare pot s = 0 := by simp [potShare, hs]
      rw [hshare, Nat.zero_add]
      simpa [hs] using weight_awardPots h s
    rw [if_neg hnone] at h
    split_ifs at h with hsub
    split at h
    · cases h
    rename_i mid hmid
    obtain ⟨hweight, hmem⟩ := weight_awardPots h s
    obtain ⟨hadd, haddMem⟩ := weight_addPayouts hmid s
    rw [paidTo_split] at hadd
    rw [map_seatId_split, mem_sortDedup] at haddMem
    refine ⟨by omega, ?_⟩
    rw [hmem, haddMem, or_assoc, and_iff_right hzero]

theorem pairwise_grossPayouts (gross : HashMap SeatId Chips) :
    (grossPayouts gross).Pairwise fun p q => p.seatId < q.seatId := by
  have : Std.Total fun p q : SettlementPayout => p.seatId ≤ q.seatId := ⟨fun p q => le_total _ _⟩
  have : IsTrans SettlementPayout fun p q => p.seatId ≤ q.seatId := ⟨fun _ _ _ => le_trans⟩
  have hsorted : (grossPayouts gross).Pairwise fun p q => p.seatId ≤ q.seatId :=
    List.pairwise_insertionSort _ _
  exact hsorted.imp₂ (fun _ _ => lt_of_le_of_ne) (List.pairwise_map.1 (nodup_payoutSeats gross))

section

variable {pots : List PotAwardInput} {gross : HashMap SeatId Chips} (h : awardPots ∅ pots = .ok gross)
include h

theorem weight_gross (s : SeatId) :
    weight Chips.asU128 gross s = winnings pots s ∧ (s ∈ gross ↔ s ∈ winnersOf pots) := by
  obtain ⟨hweight, hmem⟩ := weight_awardPots h s
  rw [weight_empty, Nat.zero_add] at hweight
  rw [or_iff_right (AList.notMem_empty s)] at hmem
  exact ⟨hweight, hmem⟩

theorem lookup_awardPots (s : SeatId) :
    gross.lookup s = if s ∈ winnersOf pots then some (.ofU128 (winnings pots s)) else none := by
  obtain ⟨hweight, hmem⟩ := weight_gross h s
  cases hs : gross.lookup s with
  | none =>
    have hnot : s ∉ gross := AList.lookup_eq_none.1 hs
    rw [hmem] at hnot
    rw [if_neg hnot]
  | some amount =>
    have hin : s ∈ winnersOf pots := hmem.1 (mem_of_lookup_some hs)
    rw [weight_of_lookup hs] at hweight
    rw [if_pos hin, ← hweight]
    exact congrArg some (Chips.ext (Chips.asU128_ofU128 amount.lt).symm)

/-- The payouts before the rake: the winners in the order of their seats, each with its winnings. -/
theorem grossPayouts_awardPots : grossPayouts gross =
    (sortedSeats (winnersOf pots)).map
      fun s => { seatId := s, amount := .ofU128 (winnings pots s) } := by
  have hinj : Function.Injective fun p : SeatId × Chips => SettlementPayout.mk p.1 p.2 := by
    rintro ⟨s, a⟩ ⟨t, b⟩ heq
    simpa using heq
  have hnodup : ((pairs gross).map fun p => SettlementPayout.mk p.1 p.2).Nodup :=
    (List.Nodup.of_map Prod.fst (nodup_pairs_fst gross)).map hinj
  have hnodup' : ((sortedSeats (winnersOf pots)).map
      fun s => ({ seatId := s, amount := .ofU128 (winnings pots s) } : SettlementPayout)).Nodup := by
    refine (nodup_sortedSeats _).map fun s t heq => ?_
    exact congrArg SettlementPayout.seatId heq
  have hperm : ((pairs gross).map fun p => SettlementPayout.mk p.1 p.2).Perm
      ((sortedSeats (winnersOf pots)).map
        fun s => { seatId := s, amount := .ofU128 (winnings pots s) }) := by
    refine (List.perm_ext_iff_of_nodup hnodup hnodup').2 fun p => ?_
    simp only [List.mem_map, mem_sortedSeats, Prod.exists]
    constructor
    · rintro ⟨s, amount, hmem, rfl⟩
      have hlookup := mem_pairs.1 hmem
      rw [lookup_awardPots h] at hlookup
      split_ifs at hlookup with hs
      exact ⟨s, hs, by rw [Option.some.inj hlookup]⟩
    · rintro ⟨s, hs, rfl⟩
      exact ⟨s, _, mem_pairs.2 ((lookup_awardPots h s).trans (if_pos hs)), rfl⟩
  -- both lists are sorted by seat, and no seat is listed twice
  refine ((grossPayouts_perm gross).trans hperm).eq_of_pairwise (fun p q _ _ hpq hqp => ?_)
    (pairwise_grossPayouts gross) (List.pairwise_map.2 (pairwise_sortedSeats _))
  exact absurd hpq (lt_asymm hqp)

theorem mem_grossPayouts {p : SettlementPayout} : p ∈ grossPayouts gross ↔
    ∃ s ∈ winnersOf pots, { seatId := s, amount := .ofU128 (winnings pots s) } = p := by
  rw [grossPayouts_awardPots h, List.mem_map]
  simp only [mem_sortedSeats]

theorem asU128_winnings (s : SeatId) :
    (Chips.ofU128 (winnings pots s)).asU128 = winnings pots s := by
  refine Chips.asU128_ofU128 ?_
  rw [← (weight_gross h s).1]
  exact weight_lt gross s

theorem sum_grossPayouts (f : ℕ → ℕ) :
    ((grossPayouts gross).map fun p => f p.amount.asU128).sum =
      ∑ s ∈ winnersOf pots, f (winnings pots s) := by
  have hfinset : (sortedSeats (winnersOf pots)).toFinset = winnersOf pots := by
    ext s
    rw [List.mem_toFinset, mem_sortedSeats]
  have hlist : ((sortedSeats (winnersOf pots)).map fun s => f (winnings pots s)).sum =
      ∑ s ∈ winnersOf pots, f (winnings pots s) := by
    rw [← List.sum_toFinset _ (nodup_sortedSeats _), hfinset]
  rw [grossPayouts_awardPots h, List.map_map, ← hlist]
  refine congrArg List.sum (List.map_congr_left fun s _ => ?_)
  show f (Chips.ofU128 (winnings pots s)).asU128 = _
  rw [asU128_winnings h]

theorem length_grossPayouts : (grossPayouts gross).length = (winnersOf pots).card := by
  rw [grossPayouts_awardPots h, List.length_map, length_sortedSeats]

end

/-! ### Rake and payouts against the pots -/

/-- The shares of the winners, with products cut off at the largest amount, miss what is shared out by at
most one chip a winner. -/
def SharesSuffice (pots : List PotAwardInput) (policy : RakePolicy) : Prop :=
  let target := wonSum pots - rakeOf policy (wonSum pots)
  target ≤ ∑ s ∈ winnersOf pots, min (winnings pots s * target) (2 ^ 128 - 1) / wonSum pots +
    (winnersOf pots).card

/-- **Rake and payouts are the pots that were won exactly if the shares suffice.** -/
theorem plan_conserves_iff (roomId : RoomId) (handId : HandId) (pots : List PotAwardInput)
    (policy : RakePolicy) (hbps : policy.rakeBps ≤ 10000) (plan : SettlementPlan)
    (hplan : buildPlanFromPotAwards roomId handId pots policy = .ok plan) :
    planTotal plan = wonSum pots ↔ SharesSuffice pots policy := by
  obtain ⟨gross, hgross, hsum, hlt, houtcome⟩ := plan_outcome hplan
  have hrake := rakeOf_le hbps (wonSum pots)
  unfold planTotal SharesSuffice
  cases houtcome with
  | nothing hzero hrakeAmount hpayouts =>
    have hwon : wonSum pots = 0 := by omega
    have hnone : payoutSum ([] : List SettlementPayout) = 0 := rfl
    rw [hrakeAmount, hpayouts, hnone, hwon]
    simp
  | shares hpos _ hrakeAmount target htarget hpayouts =>
    have hfloor : floorSum (grossPayouts gross) target.asU128 = ∑ s ∈ winnersOf pots,
        min (winnings pots s * target.asU128) (2 ^ 128 - 1) / wonSum pots := by
      rw [← hsum]
      exact sum_grossPayouts hgross
        fun n => min (n * target.asU128) (2 ^ 128 - 1) / payoutSum (grossPayouts gross)
    have hle := floorSum_le hpos target.asU128
    have hlen := length_grossPayouts hgross
    rw [hsum] at hrakeAmount htarget
    rw [hpayouts, payoutSum_apportion_eq hpos (by omega), hrakeAmount, ← htarget]
    simp only
    rw [← hfloor, hlen]
    omega

/-- A pot of forty ether, in wei, that one seat wins. -/
def fortyEther : List PotAwardInput :=
  [{ amount := .ofU128 40000000000000000000, eligibleSeats := [0, 1], winnerSeats := [0] }]

/-- Less than nine ether of it are paid; the rest is lost. -/
theorem forty_ether_not_conserved :
    buildPlanFromPotAwards ⟨1⟩ ⟨1⟩ fortyEther ⟨0⟩ =
        .ok { roomId := ⟨1⟩, handId := ⟨1⟩, rakeAmount := 0,
              payouts := [{ seatId := 0, amount := .ofU128 8507059173023461587 }] } ∧
      wonSum fortyEther = 40000000000000000000 := by
  decide +kernel

/-- A pot of ten ether, in wei, shared by two seats; a second pot has no winner. -/
def tenEther : List PotAwardInput :=
  [{ amount := .ofU128 10000000000000000000, eligibleSeats := [0, 1, 2], winnerSeats := [2, 0] },
    { amount := .ofU128 5, eligibleSeats := [1], winnerSeats := [] }]

theorem ten_ether_conserved :
    ∃ plan, buildPlanFromPotAwards ⟨1⟩ ⟨1⟩ tenEther ⟨300⟩ = .ok plan ∧
      planTotal plan = 10000000000000000000 := by
  have heval : buildPlanFromPotAwards ⟨1⟩ ⟨1⟩ tenEther ⟨300⟩ =
        .ok { roomId := ⟨1⟩, handId := ⟨1⟩, rakeAmount := .ofU128 300000000000000000,
              payouts := [{ seatId := 0, amount := .ofU128 4850000000000000000 },
                { seatId := 2, amount := .ofU128 4850000000000000000 }] } ∧
      wonSum tenEther = 10000000000000000000 := by
    decide +kernel
  have hsuffice : SharesSuffice tenEther ⟨300⟩ := by
    unfold SharesSuffice
    decide +kernel
  refine ⟨_, heval.1, ?_⟩
  rw [← heval.2]
  exact (plan_conserves_iff ⟨1⟩ ⟨1⟩ tenEther ⟨300⟩ (by decide) _ heval.1).2 hsuffice

end HoldemPlatform.Settlement.LargePots
