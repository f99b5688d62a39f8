import HoldemPlatform.Engine.LayerLevels
import HoldemPlatform.Settlement.LargePots

/-!
# Does Nobody Win More Than They Covered?

A seat covers of every contribution as much as it put in itself, and the layers it can win hold no more
than that. Rake and rounding down only take away. But the chips that cut-off products leave over are
handed out to all winners, also to those whose own share is exact: in a hand without rake a seat that wins
all it covers can get one chip more.
-/

namespace HoldemPlatform.Settlement.CoveredWins

open HoldemPlatform.Lib.FiniteMap HoldemPlatform.Lib.Ranks HoldemPlatform.Lib.Run
open HoldemPlatform.Domain.Money HoldemPlatform.Domain.Game
open HoldemPlatform.Engine.State HoldemPlatform.Engine.PotLayers HoldemPlatform.Engine.Showdown
open HoldemPlatform.Engine.Run HoldemPlatform.Engine.LayerLevels
open HoldemPlatform.Settlement.Plan HoldemPlatform.Settlement.Conservation
open HoldemPlatform.Settlement.Apportionment HoldemPlatform.Settlement.LargePots

/-! ### The layers a seat can win -/

section

variable {w : SeatId → ℕ} {s : SeatId}

/-- The rises up to what a seat put in are paid from what it covers. -/
theorem sum_rises_le : ∀ {l : List ℕ} {base : ℕ}, (base :: l).Pairwise (· ≤ ·) →
    ((rises base l).map fun p =>
      if p.2 ≤ w s then (p.2 - p.1) * (contributorsAt w p.2).card else 0).sum ≤
      ∑ t, (min (w t) (w s) - base)
  | [], _, _ => Nat.zero_le _
  | a :: l, base, h => by
    obtain ⟨hbase, hl⟩ := List.pairwise_cons.1 h
    have hle := hbase a List.mem_cons_self
    have ih := sum_rises_le hl
    have hcard : (a - base) * (contributorsAt w a).card = ∑ t, if a ≤ w t then a - base else 0 := by
      rw [← Finset.sum_filter, Finset.sum_const, smul_eq_mul, Nat.mul_comm]
      rfl
    have hfirst : (if a ≤ w s then (a - base) * (contributorsAt w a).card else 0) +
        ∑ t, (min (w t) (w s) - a) ≤ ∑ t, (min (w t) (w s) - base) := by
      split_ifs with hs
      · rw [hcard, ← Finset.sum_add_distrib]
        refine Finset.sum_le_sum fun t _ => ?_
        split_ifs <;> omega
      · rw [Nat.zero_add]
        exact Finset.sum_le_sum fun t _ => by omega
    rw [rises_cons, List.map_cons, List.sum_cons]
    exact (Nat.add_le_add_left ih _).trans hfirst

/-- **The layers a seat can win hold at most what it covers.** -/
theorem sum_eligible_le (foldedSeats : Finset SeatId) :
    ((layersOf w foldedSeats).map fun x => if s ∈ x.2 then x.1 else 0).sum ≤
      ∑ t, min (w t) (w s) := by
  have hsorted : (0 :: levels w).Pairwise (· ≤ ·) :=
    List.pairwise_cons.2 ⟨fun _ _ => Nat.zero_le _, Finset.pairwise_sort _ _⟩
  have hrises := sum_rises_le (w := w) (s := s) hsorted
  simp only [Nat.sub_zero] at hrises
  refine le_trans ?_ hrises
  unfold layersOf
  rw [List.map_map]
  -- a layer that is left out holds nothing for anybody
  refine le_trans (List.sum_le_sum fun p _ => ?_)
    ((List.filter_sublist.map _).sum_le_sum fun _ _ => Nat.zero_le _)
  have helig : s ∈ (layerOf w foldedSeats p).2 → p.2 ≤ w s := fun h =>
    mem_contributorsAt.1 (Finset.mem_sdiff.1 (mem_sortedSeats.1 h)).1
  show (if s ∈ (layerOf w foldedSeats p).2 then (layerOf w foldedSeats p).1 else 0) ≤ _
  split_ifs with h1 h2
  · exact le_rfl
  · exact absurd (helig h1) h2
  · exact Nat.zero_le _
  · exact le_rfl

end

/-! ### The pots of the showdown -/

section

variable {Card : Type}

/-- What a seat covers: of each contribution as much as its own. -/
def covered (st : EngineState Card) (seatId : SeatId) : ℕ :=
  ∑ t, min (st.contribution t) (st.contribution seatId)

theorem contribution_le_covered (st : EngineState Card) (s : SeatId) :
    st.contribution s ≤ covered st s := by
  have hle : min (st.contribution s) (st.contribution s) ≤ covered st s :=
    Finset.single_le_sum (f := fun t => min (st.contribution t) (st.contribution s))
      (fun _ _ => Nat.zero_le _) (Finset.mem_univ s)
  rwa [Nat.min_self] at hle

variable [RsPoker Card]

def awardOf (layer : PotLayer) (showdown : ShowdownResult) : PotAwardInput :=
  { amount := layer.amount, eligibleSeats := layer.eligibleSeats, winnerSeats := showdown.winnerSeats }

/-- The layers that hold chips, with the winners the showdown finds for them. -/
def showdownPots (input : ShowdownInput Card) (layers : List PotLayer) : List PotAwardInput :=
  (layers.filter fun layer => layer.amount ≠ 0).filterMap fun layer =>
    (evaluateShowdownForEligible input (some layer.eligibleSeats)).map (awardOf layer)

theorem layerAwards_eq {input : ShowdownInput Card} : ∀ {layers : List PotLayer}
    {awards : List PotAwardInput}, layerAwards input layers = .ok awards →
    awards = showdownPots input layers
  | [], _, h => by
    cases h
    rfl
  | layer :: layers, awards, h => by
    rw [layerAwards] at h
    by_cases hzero : layer.amount = 0
    · rw [if_pos hzero] at h
      rw [layerAwards_eq h, showdownPots, showdownPots, List.filter_cons_of_neg (by simpa using hzero)]
    rw [if_neg hzero] at h
    split at h
    · cases h
    rename_i showdown hshow
    split at h
    · cases h
    rename_i rest hrest
    cases h
    rw [layerAwards_eq hrest, showdownPots, showdownPots,
      List.filter_cons_of_pos (by simpa using hzero), List.filterMap_cons, hshow]
    rfl

theorem mem_showdownPots {input : ShowdownInput Card} {layers : List PotLayer} {pot : PotAwardInput}
    (h : pot ∈ showdownPots input layers) : ∃ layer ∈ layers, pot.amount = layer.amount ∧
      ∀ s ∈ pot.winnerSeats, s ∈ layer.eligibleSeats := by
  obtain ⟨layer, hlayer, hpot⟩ := List.mem_filterMap.1 h
  obtain ⟨showdown, hshow, rfl⟩ := Option.map_eq_some_iff.1 hpot
  exact ⟨layer, List.mem_of_mem_filter hlayer, rfl, (winners_eligible hshow).2⟩

theorem winnings_le_eligible (input : ShowdownInput Card) (s : SeatId) : ∀ layers : List PotLayer,
    winnings (showdownPots input layers) s ≤
      ((layers.map part).map fun x => if s ∈ x.2 then x.1 else 0).sum
  | [] => Nat.zero_le _
  | layer :: layers => by
    have ih := winnings_le_eligible input s layers
    rw [List.map_cons, List.map_cons, List.sum_cons]
    by_cases hzero : layer.amount = 0
    · have htail : showdownPots input (layer :: layers) = showdownPots input layers := by
        rw [showdownPots, showdownPots, List.filter_cons_of_neg (by simpa using hzero)]
      rw [htail]
      omega
    cases hshow : evaluateShowdownForEligible input (some layer.eligibleSeats) with
    | none =>
      have htail : showdownPots input (layer :: layers) = showdownPots input layers := by
        rw [showdownPots, showdownPots, List.filter_cons_of_pos (by simpa using hzero),
          List.filterMap_cons, hshow]
        rfl
      rw [htail]
      omega
    | some showdown =>
      have hcons : winnings (showdownPots input (layer :: layers)) s =
          potShare (awardOf layer showdown) s + winnings (showdownPots input layers) s := by
        rw [showdownPots, List.filter_cons_of_pos (by simpa using hzero), List.filterMap_cons, hshow]
        simp [winnings, showdownPots]
      have hshare : potShare (awardOf layer showdown) s ≤
          if s ∈ (part layer).2 then (part layer).1 else 0 := by
        split_ifs with helig
        · exact potShare_le _ s
        · have hs : s ∉ (awardOf layer showdown).winnerSeats := fun hmem =>
            helig ((winners_eligible hshow).2 s hmem)
          simp [potShare, hs]
      rw [hcons]
      omega

section

variable {st : EngineState Card} (hfits : ∑ s, st.contribution s < 2 ^ 128) (input : ShowdownInput Card)
include hfits

/-- **Before the rake a seat wins at most what it covers.** -/
theorem winnings_le_covered (s : SeatId) :
    winnings (showdownPots input (potLayers st)) s ≤ covered st s := by
  have hparts : (potLayers st).map part = layersOf st.contribution st.hand.foldedSeats :=
    part_buildPotLayers st.hand.foldedSeats hfits
  have hle := winnings_le_eligible input s (potLayers st)
  rw [hparts] at hle
  exact hle.trans (sum_eligible_le st.hand.foldedSeats)

theorem winner_contributed {s : SeatId}
    (hs : s ∈ winnersOf (showdownPots input (potLayers st))) :
    s ∉ st.hand.foldedSeats ∧ 0 < st.contribution s := by
  obtain ⟨pot, hpot, -, hwin⟩ := mem_winnersOf.1 hs
  obtain ⟨layer, hlayer, -, helig⟩ := mem_showdownPots hpot
  have hparts : (potLayers st).map part = layersOf st.contribution st.hand.foldedSeats :=
    part_buildPotLayers st.hand.foldedSeats hfits
  have hmem : part layer ∈ layersOf st.contribution st.hand.foldedSeats := by
    rw [← hparts]
    exact List.mem_map_of_mem hlayer
  obtain ⟨p, hp, hpart⟩ := List.mem_map.1 hmem
  have hseat : s ∈ (layerOf st.contribution st.hand.foldedSeats p).2 := by
    rw [hpart]
    exact helig s hwin
  obtain ⟨hreach, hfold⟩ := Finset.mem_sdiff.1 (mem_sortedSeats.1 hseat)
  -- the level of the layer is positive
  have hlevel : p.2 ∈ levels st.contribution :=
    (List.of_mem_zip (List.mem_of_mem_filter hp : p ∈ rises 0 (levels st.contribution))).2
  have hpos := (Finset.mem_erase.1 ((Finset.mem_sort _).1 hlevel)).1
  have hle := mem_contributorsAt.1 hreach
  exact ⟨hfold, by omega⟩

end

end

/-! ### Shares against winnings -/

section

variable {gross : List SettlementPayout} {p : SettlementPayout}

/-- A rake costs every winner a chip, which pays for the one it may get back. -/
theorem due_le_of_rake {target : ℕ} (hrake : target < payoutSum gross) (hsome : 0 < p.amount.asU128) :
    due gross target p ≤ p.amount.asU128 := by
  have hle := due_le gross target p
  have hmul : floorShare gross target p * payoutSum gross ≤ p.amount.asU128 * target :=
    (Nat.div_mul_le_self _ _).trans (Nat.min_le_left _ _)
  have hlt : floorShare gross target p * payoutSum gross < p.amount.asU128 * payoutSum gross :=
    hmul.trans_lt (Nat.mul_lt_mul_of_pos_left hrake hsome)
  have hshare := Nat.lt_of_mul_lt_mul_right hlt
  omega

/-- **Without a rake a payout grows exactly if its own product fits and it is served.** -/
theorem lt_due_iff (p : SettlementPayout) (hpos : 0 < payoutSum gross) :
    p.amount.asU128 < due gross (payoutSum gross) p ↔
      p.amount.asU128 * payoutSum gross < 2 ^ 128 ∧
        ahead (servedBefore gross (payoutSum gross)) gross p <
          payoutSum gross - floorSum gross (payoutSum gross) := by
  by_cases hfit : p.amount.asU128 * payoutSum gross < 2 ^ 128
  · have hshare : floorShare gross (payoutSum gross) p = p.amount.asU128 := by
      unfold floorShare saturatingMul
      rw [Nat.min_eq_left (by omega), Nat.mul_div_cancel _ hpos]
    unfold due
    rw [hshare]
    split_ifs with hserved
    · exact ⟨fun _ => ⟨hfit, hserved⟩, fun _ => by omega⟩
    · exact ⟨fun h => by omega, fun h => absurd h.2 hserved⟩
  · -- a product that is cut off makes the share too small
    have hshare : floorShare gross (payoutSum gross) p < p.amount.asU128 := by
      unfold floorShare saturatingMul
      rw [Nat.min_eq_right (by omega)]
      exact (Nat.div_lt_iff_lt_mul hpos).2 (by omega)
    have hle := due_le gross (payoutSum gross) p
    exact ⟨fun h => by omega, fun h => absurd h.1 hfit⟩

theorem servedBefore_iff {q : SettlementPayout}
    (hfit : p.amount.asU128 * payoutSum gross < 2 ^ 128) :
    servedBefore gross (payoutSum gross) q p ↔ q.seatId < p.seatId ∨
      (2 ^ 128 ≤ q.amount.asU128 * payoutSum gross ∧ (2 ^ 128 - 1) % payoutSum gross ≠ 0) := by
  have hp : (floorRow (payoutSum gross) (payoutSum gross) p).rem = 0 := by
    show saturatingMul p.amount.asU128 (payoutSum gross) % payoutSum gross = 0
    rw [saturatingMul, Nat.min_eq_left (by omega), Nat.mul_mod_left]
  have hq : (floorRow (payoutSum gross) (payoutSum gross) q).rem ≠ 0 ↔
      2 ^ 128 ≤ q.amount.asU128 * payoutSum gross ∧ (2 ^ 128 - 1) % payoutSum gross ≠ 0 := by
    show saturatingMul q.amount.asU128 (payoutSum gross) % payoutSum gross ≠ 0 ↔ _
    unfold saturatingMul
    by_cases hlt : q.amount.asU128 * payoutSum gross < 2 ^ 128
    · rw [Nat.min_eq_left (by omega), Nat.mul_mod_left]
      exact ⟨fun h => absurd rfl h, fun h => by omega⟩
    · rw [Nat.min_eq_right (by omega)]
      exact ⟨fun h => ⟨by omega, h⟩, fun h => h.2⟩
  have hseat : (floorRow (payoutSum gross) (payoutSum gross) q).seatId <
      (floorRow (payoutSum gross) (payoutSum gross) p).seatId ↔ q.seatId < p.seatId := Iff.rfl
  unfold servedBefore before
  rw [hp, ← hq, hseat]
  constructor
  · rintro (hlt | ⟨-, hlt⟩)
    · exact .inr hlt.ne'
    · exact .inl hlt
  · rintro (hlt | hne)
    · by_cases hzero : (floorRow (payoutSum gross) (payoutSum gross) q).rem = 0
      · exact .inr ⟨hzero, hlt⟩
      · exact .inl (Nat.pos_of_ne_zero hzero)
    · exact .inl (Nat.pos_of_ne_zero hne)

end

/-! ### Paid against covered -/

/-- The chips that the shares of the winners miss because products are cut off. -/
def cutOff (pots : List PotAwardInput) : ℕ :=
  wonSum pots - ∑ t ∈ winnersOf pots, min (winnings pots t * wonSum pots) (2 ^ 128 - 1) / wonSum pots

/-- The winners that get one of these chips before a seat whose share is exact. -/
def servedEarlier (pots : List PotAwardInput) (seatId : SeatId) : Finset SeatId :=
  (winnersOf pots).filter fun t => t < seatId ∨
    (2 ^ 128 ≤ winnings pots t * wonSum pots ∧ (2 ^ 128 - 1) % wonSum pots ≠ 0)

section

variable {pots : List PotAwardInput} {gross : HashMap SeatId Chips} (h : awardPots ∅ pots = .ok gross)
  (hsum : payoutSum (grossPayouts gross) = wonSum pots)
include h hsum

theorem ahead_eq_card {p : SettlementPayout}
    (hfit : p.amount.asU128 * wonSum pots < 2 ^ 128) :
    ahead (servedBefore (grossPayouts gross) (wonSum pots)) (grossPayouts gross) p =
      (servedEarlier pots p.seatId).card := by
  have hiff : ∀ q, servedBefore (grossPayouts gross) (wonSum pots) q p ↔ q.seatId < p.seatId ∨
      (2 ^ 128 ≤ q.amount.asU128 * wonSum pots ∧ (2 ^ 128 - 1) % wonSum pots ≠ 0) := by
    intro q
    rw [← hsum] at hfit ⊢
    exact servedBefore_iff hfit
  rw [ahead_perm (.of_eq (grossPayouts_awardPots h)), ahead, List.countP_map, List.countP_eq_length_filter,
    ← List.toFinset_card_of_nodup ((nodup_sortedSeats _).filter _), List.toFinset_filter]
  congr 1
  ext t
  rw [Finset.mem_filter, servedEarlier, Finset.mem_filter, List.mem_toFinset, mem_sortedSeats,
    Function.comp_apply, decide_eq_true_iff, hiff]
  show _ ∧ (t < p.seatId ∨ (2 ^ 128 ≤ (Chips.ofU128 (winnings pots t)).asU128 * _ ∧ _)) ↔ _
  rw [asU128_winnings h]

theorem floorSum_wonSum : wonSum pots - floorSum (grossPayouts gross) (wonSum pots) = cutOff pots := by
  unfold cutOff
  congr 1
  rw [← sum_grossPayouts h fun n => min (n * wonSum pots) (2 ^ 128 - 1) / wonSum pots, floorSum, hsum]
  rfl

end

/-- A winner that wins all it covers gets a chip on top: there is no rake, its own share is exact, and
the chips that others miss are not used up before it. -/
structure ToppedUp (pots : List PotAwardInput) (policy : RakePolicy) (covers : ℕ) (seatId : SeatId) :
    Prop where
  winner : seatId ∈ winnersOf pots
  noRake : rakeOf policy (wonSum pots) = 0
  all : winnings pots seatId = covers
  fits : winnings pots seatId * wonSum pots < 2 ^ 128
  served : (servedEarlier pots seatId).card < cutOff pots

/-- What is due to a winner against what it covers. -/
theorem due_le_covers_iff {pots : List PotAwardInput} {gross : HashMap SeatId Chips}
    (h : awardPots ∅ pots = .ok gross) (hsum : payoutSum (grossPayouts gross) = wonSum pots)
    {policy : RakePolicy} {covers : ℕ} {s : SeatId} (hs : s ∈ winnersOf pots)
    (hwin : winnings pots s ≤ covers) (hcovers : 0 < covers) {target : ℕ}
    (htarget : target = wonSum pots - rakeOf policy (wonSum pots)) :
    due (grossPayouts gross) target { seatId := s, amount := .ofU128 (winnings pots s) } ≤ covers ↔
      ¬ ToppedUp pots policy covers s := by
  have hpos := wonSum_pos hs
  have hamount := asU128_winnings h s
  generalize hp : ({ seatId := s, amount := .ofU128 (winnings pots s) } : SettlementPayout) = p
  have hpAmount : p.amount.asU128 = winnings pots s := by rw [← hp, hamount]
  have hpSeat : p.seatId = s := by rw [← hp]
  have hle := due_le (grossPayouts gross) target p
  have hfloor : floorShare (grossPayouts gross) target p ≤ p.amount.asU128 := floorShare_le (by omega)
  by_cases hrake : rakeOf policy (wonSum pots) = 0
  swap
  · -- the rake makes every share smaller
    refine iff_of_true ?_ fun htop => hrake htop.noRake
    rcases Nat.eq_zero_or_pos (winnings pots s) with hzero | hsome
    · omega
    · have hdue : due (grossPayouts gross) target p ≤ p.amount.asU128 :=
        due_le_of_rake (by omega) (by omega)
      omega
  by_cases hall : winnings pots s = covers
  swap
  · refine iff_of_true (by omega) fun htop => hall htop.all
  have hfull : target = payoutSum (grossPayouts gross) := by omega
  have hlt := lt_due_iff p (show 0 < payoutSum (grossPayouts gross) by omega)
  rw [hsum, floorSum_wonSum h hsum] at hlt
  rw [hfull, hsum, ← not_lt, ← hall, ← hpAmount, hlt, not_iff_not]
  constructor
  · rintro ⟨hfits, hserved⟩
    rw [ahead_eq_card h hsum hfits, hpSeat] at hserved
    rw [hpAmount] at hfits
    exact ⟨hs, hrake, hpAmount.symm, hfits, hserved⟩
  · intro htop
    have hfits : p.amount.asU128 * wonSum pots < 2 ^ 128 := by
      rw [hpAmount]
      exact htop.fits
    refine ⟨hfits, ?_⟩
    rw [ahead_eq_card h hsum hfits, hpSeat]
    exact htop.served

section

variable {Card : Type}

/-- Everybody who is paid put chips in, has not folded, and gets at most what it covers. -/
def PaidWithinCover (st : EngineState Card) (plan : SettlementPlan) : Prop :=
  ∀ payout ∈ plan.payouts, payout.seatId ∉ st.hand.foldedSeats ∧
    0 < st.contribution payout.seatId ∧ payout.amount.asU128 ≤ covered st payout.seatId

variable [RsPoker Card]

theorem plan_of_showdown {st : EngineState Card} {input : ShowdownInput Card} {policy : RakePolicy}
    {plan : SettlementPlan} (h : buildSettlementPlanFromShowdown st input policy = .ok plan) :
    buildPlanFromPotAwards st.snapshot.roomId st.snapshot.handId (showdownPots input (potLayers st))
      policy = .ok plan := by
  unfold buildSettlementPlanFromShowdown at h
  split_ifs at h
  split at h
  · cases h
  rename_i awards hawards
  split at h
  · cases h
  rename_i plan' hbuild
  cases h
  rw [← layerAwards_eq hawards]
  exact hbuild

/-- **Nobody is paid more than they covered, unless a seat that wins all it covers is topped up.** -/
theorem paid_within_cover_iff (st : EngineState Card) (hfits : ∑ s, st.contribution s < 2 ^ 128)
    (input : ShowdownInput Card) (policy : RakePolicy) (hbps : policy.rakeBps ≤ 10000)
    (plan : SettlementPlan) (hplan : buildSettlementPlanFromShowdown st input policy = .ok plan) :
    PaidWithinCover st plan ↔
      ∀ s, ¬ ToppedUp (showdownPots input (potLayers st)) policy (covered st s) s := by
  have hwinnings := winnings_le_covered hfits input
  have hcontributed : ∀ s ∈ winnersOf (showdownPots input (potLayers st)),
      s ∉ st.hand.foldedSeats ∧ 0 < st.contribution s := fun s => winner_contributed hfits input
  have hbuild := plan_of_showdown hplan
  generalize showdownPots input (potLayers st) = pots at *
  obtain ⟨gross, hgross, hsum, hlt, houtcome⟩ := plan_outcome hbuild
  unfold PaidWithinCover
  cases houtcome with
  | nothing hzero hrakeAmount hpayouts =>
    rw [hpayouts]
    refine iff_of_true (fun _ hp => absurd hp List.not_mem_nil) fun s htop => ?_
    have hpos := wonSum_pos htop.winner
    omega
  | shares hpos _ hrakeAmount target htarget hpayouts =>
    rw [hsum] at htarget
    have hrake := rakeOf_le hbps (wonSum pots)
    have hseats : ((grossPayouts gross).map SettlementPayout.seatId).Nodup := nodup_payoutSeats gross
    have hkey : ∀ s ∈ winnersOf pots, due (grossPayouts gross) target.asU128
        { seatId := s, amount := .ofU128 (winnings pots s) } ≤ covered st s ↔
          ¬ ToppedUp pots policy (covered st s) s := by
      intro s hs
      have hcovers := contribution_le_covered st s
      have hcontr := (hcontributed s hs).2
      exact due_le_covers_iff hgross hsum hs (hwinnings s) (by omega) htarget
    rw [hpayouts, forall_apportion (P := fun s amount => s ∉ st.hand.foldedSeats ∧
      0 < st.contribution s ∧ amount ≤ covered st s) hseats hpos (by omega) (by omega)]
    constructor
    · intro hpaid s htop
      have hs := htop.winner
      refine (hkey s hs).1 ?_ htop
      rcases Nat.eq_zero_or_pos (due (grossPayouts gross) target.asU128
          { seatId := s, amount := .ofU128 (winnings pots s) }) with hzero | hsome
      · omega
      · exact (hpaid _ ((mem_grossPayouts hgross).2 ⟨s, hs, rfl⟩) hsome).2.2
    · intro hnone p hp _
      obtain ⟨s, hs, rfl⟩ := (mem_grossPayouts hgross).1 hp
      exact ⟨(hcontributed s hs).1, (hcontributed s hs).2, (hkey s hs).2 (hnone s)⟩

end

/-! ### A short stack among deep ones -/

/-- Aces for seat `0`, queens for seat `1`, eights for seat `2`; the board is two, five, nine, three and
jack in four suits. -/
def pairDeck : List PairCard :=
  [12, 10, 6, 25, 23, 19, 26, 0, 16, 33, 27, 40, 28, 22].map pairCard

/-- Seat `0` is all-in for `short`, the two others for `deep`; the first of them is asked once more. -/
def shortStackOps (short deep : ℕ) : List (EngineOp PairCard) :=
  [.seatPlayer 0, .seatPlayer 1, .seatPlayer 2, .deal ⟨1⟩ pairDeck,
    .act (headsUpAction 1 0 .allIn (some (.ofU128 short))),
    .act (headsUpAction 2 1 .allIn (some (.ofU128 deep))),
    .act (headsUpAction 3 2 .allIn (some (.ofU128 deep))),
    .act (headsUpAction 4 1 .check none)]

def shortStack (short deep : ℕ) : EngineState PairCard :=
  run engineStep (EngineState.new ⟨0⟩ 1 ⟨0⟩) (shortStackOps short deep)

/-- One ether against twice twenty, no rake: the seat that wins the main pot of three ether is paid one
wei more than that. -/
theorem covered_win_topped_up :
    (shortStack 1000000000000000000 20000000000000000000).snapshot.status = .showdown ∧
      ∑ s, (shortStack 1000000000000000000 20000000000000000000).contribution s < 2 ^ 128 ∧
      covered (shortStack 1000000000000000000 20000000000000000000) 0 = 3000000000000000000 ∧
      ∃ input plan,
        showdownInputFromEngineState (shortStack 1000000000000000000 20000000000000000000) =
          some input ∧
        buildSettlementPlanFromShowdown (shortStack 1000000000000000000 20000000000000000000) input
          ⟨0⟩ = .ok plan ∧
        plan.payouts = [{ seatId := 0, amount := .ofU128 3000000000000000001 },
          { seatId := 1, amount := .ofU128 8299569924900938134 }] := by
  have heval : (shortStack 1000000000000000000 20000000000000000000).snapshot.status = .showdown ∧
      ∑ s, (shortStack 1000000000000000000 20000000000000000000).contribution s < 2 ^ 128 ∧
      covered (shortStack 1000000000000000000 20000000000000000000) 0 = 3000000000000000000 ∧
      (showdownInputFromEngineState (shortStack 1000000000000000000 20000000000000000000)).map
        (fun input => buildSettlementPlanFromShowdown
          (shortStack 1000000000000000000 20000000000000000000) input ⟨0⟩) =
        some (.ok { roomId := ⟨0⟩, handId := ⟨1⟩, rakeAmount := 0, payouts :=
          [{ seatId := 0, amount := .ofU128 3000000000000000001 },
            { seatId := 1, amount := .ofU128 8299569924900938134 }] }) := by
    decide +kernel
  obtain ⟨hstatus, hfits, hcovered, hplan⟩ := heval
  obtain ⟨input, hinput, hbuild⟩ := Option.map_eq_some_iff.1 hplan
  exact ⟨hstatus, hfits, hcovered, input, _, hinput, hbuild, rfl⟩

/-- With less than ten ether in the hand nobody is overpaid. -/
theorem small_win_within_cover :
    ∃ input plan,
      showdownInputFromEngineState (shortStack 1000000000000000000 3000000000000000000) = some input ∧
      buildSettlementPlanFromShowdown (shortStack 1000000000000000000 3000000000000000000) input ⟨0⟩ =
        .ok plan ∧
      PaidWithinCover (shortStack 1000000000000000000 3000000000000000000) plan := by
  have heval : ∑ s, (shortStack 1000000000000000000 3000000000000000000).contribution s < 2 ^ 128 ∧
      (showdownInputFromEngineState (shortStack 1000000000000000000 3000000000000000000)).map
        (fun input => (buildSettlementPlanFromShowdown
          (shortStack 1000000000000000000 3000000000000000000) input ⟨0⟩,
            cutOff (showdownPots input
              (potLayers (shortStack 1000000000000000000 3000000000000000000))))) =
        some (.ok { roomId := ⟨0⟩, handId := ⟨1⟩, rakeAmount := 0, payouts :=
          [{ seatId := 0, amount := .ofU128 3000000000000000000 },
            { seatId := 1, amount := .ofU128 4000000000000000000 }] }, 0) := by
    decide +kernel
  obtain ⟨hfits, hplan⟩ := heval
  obtain ⟨input, hinput, heq⟩ := Option.map_eq_some_iff.1 hplan
  obtain ⟨hbuild, hcut⟩ := Prod.mk.inj heq
  refine ⟨input, _, hinput, hbuild, ?_⟩
  refine (paid_within_cover_iff _ hfits input ⟨0⟩ (by decide) _ hbuild).2 fun s htop => ?_
  -- no product is cut off, so nothing is left to top up with
  have hserved := htop.served
  omega

end HoldemPlatform.Settlement.CoveredWins
