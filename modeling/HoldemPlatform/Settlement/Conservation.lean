import HoldemPlatform.Engine.Run
import HoldemPlatform.Lib.Shares
import HoldemPlatform.Settlement.Plan

/-!
# Does a Settlement Conserve the Pot?

Every step of the plan conserves chips: the split of a pot among its winners, the sum over the pots,
the rake and the apportionment. So rake and payouts together are what the pot layers hold, and by the
accounting of `sum_buildPotLayers` they are the whole pot exactly if the highest contribution of the
hand is matched by another seat. An unmatched excess is in no layer and is paid to nobody.
-/

namespace HoldemPlatform.Settlement.Conservation

open HoldemPlatform.Lib.FiniteMap HoldemPlatform.Lib.Shares HoldemPlatform.Lib.Run
open HoldemPlatform.Domain.Money HoldemPlatform.Domain.Game
open HoldemPlatform.Engine.State HoldemPlatform.Engine.Deal HoldemPlatform.Engine.PotLayers
open HoldemPlatform.Engine.Action HoldemPlatform.Engine.Showdown HoldemPlatform.Engine.Run
open HoldemPlatform.Settlement.Plan

def payoutSum (payouts : List SettlementPayout) : ℕ := (payouts.map fun p => p.amount.asU128).sum

def planTotal (plan : SettlementPlan) : ℕ := plan.rakeAmount.asU128 + payoutSum plan.payouts

/-! ### The split of one pot -/

theorem payoutSum_split (amount : Chips) {winners : List SeatId} (h : winners ≠ []) :
    payoutSum (splitAmountDeterministic amount winners) = amount.asU128 := by
  have hpos : 0 < winners.length := List.length_pos_iff.2 h
  have hdiv := Nat.div_add_mod amount.asU128 winners.length
  have hbase : amount.asU128 / winners.length ≤ winners.length * (amount.asU128 / winners.length) :=
    Nat.le_mul_of_pos_left _ hpos
  have hlt := amount.lt
  rw [← sum_equalShares amount.asU128 h]
  unfold payoutSum splitAmountDeterministic
  rw [List.map_map]
  congr 1
  refine List.map_congr_left fun p _ => ?_
  show (Chips.ofU128 _).asU128 = _
  refine Chips.asU128_ofU128 ?_
  split_ifs <;> omega

/-! ### The awards of all pots -/

theorem total_addPayouts : ∀ {payouts : List SettlementPayout} {gross gross' : HashMap SeatId Chips},
    addPayouts gross payouts = .ok gross' →
    total Chips.asU128 gross' = total Chips.asU128 gross + payoutSum payouts
  | [], _, _, h => by
    cases h
    rfl
  | payout :: rest, gross, gross', h => by
    rw [addPayouts] at h
    split at h
    · cases h
    · rename_i next hnext
      have ih := total_addPayouts h
      have hins := total_insert Chips.asU128 gross payout.seatId next
      have hw := weight_eq_getD Chips.asU128_zero gross payout.seatId
      rw [Chips.checkedAdd_eq_ok] at hnext
      have hsum : payoutSum (payout :: rest) = payout.amount.asU128 + payoutSum rest := rfl
      omega

/-- The chips of the pots with a winner. -/
def awardSum (pots : List PotAwardInput) : ℕ := (pots.map fun p => p.amount.asU128).sum

theorem sortDedup_ne_nil {seats : List SeatId} (h : seats ≠ []) : sortDedup seats ≠ [] := by
  obtain ⟨s, hs⟩ := List.exists_mem_of_ne_nil seats h
  have hmem : s ∈ sortDedup seats := by
    rw [sortDedup, List.mem_dedup, List.mem_insertionSort]
    exact hs
  exact List.ne_nil_of_mem hmem

/-- The chips of those pots of a list that have a winner. -/
def wonSum (pots : List PotAwardInput) : ℕ := awardSum (pots.filter fun p => p.winnerSeats ≠ [])

theorem wonSum_eq_awardSum {pots : List PotAwardInput} (h : ∀ pot ∈ pots, pot.winnerSeats ≠ []) :
    wonSum pots = awardSum pots := by
  rw [wonSum, List.filter_eq_self.2 (by simpa using h)]

theorem wonSum_cons (pot : PotAwardInput) (pots : List PotAwardInput) :
    wonSum (pot :: pots) = (if pot.winnerSeats = [] then 0 else pot.amount.asU128) + wonSum pots := by
  unfold wonSum awardSum
  by_cases h : pot.winnerSeats = []
  · simp [h]
  · simp [h]

/-- **The pots that have winners are handed out in full**, the others not at all. -/
theorem total_awardPots : ∀ {pots : List PotAwardInput} {gross gross' : HashMap SeatId Chips},
    awardPots gross pots = .ok gross' →
    total Chips.asU128 gross' = total Chips.asU128 gross + wonSum pots
  | [], _, _, h => by
    cases h
    rfl
  | pot :: pots, gross, gross', h => by
    have hsum := wonSum_cons pot pots
    rw [awardPots] at h
    by_cases hzero : pot.amount = 0
    · rw [if_pos hzero] at h
      have ih := total_awardPots h
      rw [Chips.eq_zero_iff] at hzero
      rw [hzero, ite_self] at hsum
      omega
    rw [if_neg hzero] at h
    by_cases hwin : pot.winnerSeats = []
    · rw [if_pos (by rw [hwin]; rfl)] at h
      have ih := total_awardPots h
      rw [if_pos hwin] at hsum
      omega
    have hne := sortDedup_ne_nil hwin
    rw [if_neg hne] at h
    rw [if_neg hwin] at hsum
    split_ifs at h with hsub
    split at h
    · cases h
    · rename_i mid hmid
      have ih := total_awardPots h
      have hadd := total_addPayouts hmid
      rw [payoutSum_split pot.amount hne] at hadd
      omega

theorem checkedTotal_ok : ∀ {payouts : List SettlementPayout} {acc result : Chips},
    checkedTotal acc payouts = .ok result → result.asU128 = acc.asU128 + payoutSum payouts
  | [], _, _, h => by
    cases h
    rfl
  | payout :: rest, acc, result, h => by
    rw [checkedTotal] at h
    split at h
    · cases h
    · rename_i acc' hadd
      have ih := checkedTotal_ok h
      rw [Chips.checkedAdd_eq_ok] at hadd
      have hsum : payoutSum (payout :: rest) = payout.amount.asU128 + payoutSum rest := rfl
      omega

/-! ### The apportionment -/

def shareSum (rows : List Row) : ℕ := (rows.map Row.share).sum

/-- Each of the first `extra` rows gets one chip, as long as there are rows. -/
theorem shareSum_handOut : ∀ (extra : ℕ) (rows : List Row), shareSum rows + extra < 2 ^ 128 →
    shareSum (handOut extra rows) = shareSum rows + min extra rows.length
  | 0, rows, _ => by simp [handOut]
  | extra + 1, [], _ => by simp [handOut]
  | extra + 1, row :: rows, hlt => by
    have hsum : shareSum (row :: rows) = row.share + shareSum rows := rfl
    have ih := shareSum_handOut extra rows (by omega)
    have hcons : shareSum (handOut (extra + 1) (row :: rows)) =
        saturatingAdd 128 row.share 1 + shareSum (handOut extra rows) := rfl
    rw [hcons, ih, hsum, saturatingAdd, List.length_cons]
    omega

theorem foldl_saturatingAdd : ∀ (rows : List Row) {acc : ℕ}, acc + shareSum rows < 2 ^ 128 →
    rows.foldl (fun acc row => saturatingAdd 128 acc row.share) acc = acc + shareSum rows
  | [], acc, _ => rfl
  | row :: rows, acc, h => by
    have hsum : shareSum (row :: rows) = row.share + shareSum rows := rfl
    have hacc : saturatingAdd 128 acc row.share = acc + row.share := by
      unfold saturatingAdd
      omega
    rw [List.foldl_cons, hacc, foldl_saturatingAdd rows (by omega)]
    omega

theorem shareSum_perm {rows rows' : List Row} (h : rows.Perm rows') :
    shareSum rows = shareSum rows' :=
  (h.map Row.share).sum_eq

theorem payoutSum_rows : ∀ (rows : List Row), shareSum rows < 2 ^ 128 →
    payoutSum ((rows.filter fun row => 0 < row.share).map
      fun row => { seatId := row.seatId, amount := .ofU128 row.share }) = shareSum rows
  | [], _ => rfl
  | row :: rows, h => by
    have hsum : shareSum (row :: rows) = row.share + shareSum rows := rfl
    have ih := payoutSum_rows rows (by omega)
    by_cases hpos : 0 < row.share
    · have hamount : (Chips.ofU128 row.share).asU128 = row.share := Chips.asU128_ofU128 (by omega)
      rw [List.filter_cons_of_pos (by simpa using hpos), List.map_cons]
      show (Chips.ofU128 row.share).asU128 + payoutSum _ = _
      rw [ih, hamount, hsum]
    · rw [List.filter_cons_of_neg (by simpa using hpos), ih, hsum]
      omega

/-- The rounded-down shares together; a product that does not fit an amount is cut off. -/
def floorSum (gross : List SettlementPayout) (target : ℕ) : ℕ :=
  (gross.map fun p => saturatingMul p.amount.asU128 target / payoutSum gross).sum

theorem shareSum_floorRow (gross : List SettlementPayout) (target : ℕ) :
    shareSum (gross.map (floorRow target (payoutSum gross))) = floorSum gross target := by
  rw [shareSum, floorSum, List.map_map]
  rfl

theorem floorSum_le {gross : List SettlementPayout} (hpos : 0 < payoutSum gross) (target : ℕ) :
    floorSum gross target ≤ target := by
  have hexact : floorSum gross target ≤
      (gross.map fun p => p.amount.asU128 * target / payoutSum gross).sum :=
    List.sum_le_sum fun p _ => Nat.div_le_div_right (Nat.min_le_left _ _)
  exact hexact.trans (sum_floor_le target hpos)

/-- The apportionment of a total that fits an amount: no sum wraps or is cut off. -/
theorem apportionByWeight_eq {gross : List SettlementPayout} {target : Chips}
    (hpos : 0 < payoutSum gross) (hlt : payoutSum gross < 2 ^ 128) :
    apportionByWeight gross target =
      (((handOut (target.asU128 - floorSum gross target.asU128)
          ((gross.map (floorRow target.asU128 (payoutSum gross))).insertionSort byRemainder)).insertionSort
        fun a b => a.seatId ≤ b.seatId).filter fun row => 0 < row.share).map
          fun row => { seatId := row.seatId, amount := .ofU128 row.share } := by
  have hne : gross ≠ [] := by
    rintro rfl
    simp [payoutSum] at hpos
  have hmod : (gross.map fun p => p.amount.asU128).sum % 2 ^ 128 = payoutSum gross :=
    Nat.mod_eq_of_lt hlt
  have htarget := target.lt
  have hfloor_le := floorSum_le hpos target.asU128
  have hshare := shareSum_floorRow gross target.asU128
  have hfold : (gross.map (floorRow target.asU128 (payoutSum gross))).foldl
      (fun acc row => saturatingAdd 128 acc row.share) 0 = floorSum gross target.asU128 := by
    rw [foldl_saturatingAdd _ (by omega), hshare, Nat.zero_add]
  unfold apportionByWeight
  rw [if_neg hne]
  simp only [hmod, if_neg hpos.ne', hfold]

/-- **What the apportionment pays out**: the rounded-down shares, and of the rest one chip a row. -/
theorem payoutSum_apportion_eq {gross : List SettlementPayout} {target : Chips}
    (hpos : 0 < payoutSum gross) (hlt : payoutSum gross < 2 ^ 128) :
    payoutSum (apportionByWeight gross target) = floorSum gross target.asU128 +
      min (target.asU128 - floorSum gross target.asU128) gross.length := by
  have htarget := target.lt
  have hfloor_le := floorSum_le hpos target.asU128
  have hshare := shareSum_floorRow gross target.asU128
  rw [apportionByWeight_eq hpos hlt]
  generalize hrows : gross.map (floorRow target.asU128 (payoutSum gross)) = rows at hshare
  have hlen : (rows.insertionSort byRemainder).length = gross.length := by
    rw [List.length_insertionSort, ← hrows, List.length_map]
  have hsorted : shareSum (rows.insertionSort byRemainder) = shareSum rows :=
    shareSum_perm (List.perm_insertionSort _ _)
  have hout := shareSum_handOut (target.asU128 - floorSum gross target.asU128)
    (rows.insertionSort byRemainder) (by omega)
  have hfinal := shareSum_perm (List.perm_insertionSort (fun a b : Row => a.seatId ≤ b.seatId)
    (handOut (target.asU128 - floorSum gross target.asU128) (rows.insertionSort byRemainder)))
  rw [payoutSum_rows _ (by omega), hfinal, hout, hsorted, hlen, hshare]

/-- **The apportionment pays out its target exactly** if no product is cut off. -/
theorem payoutSum_apportion {gross : List SettlementPayout} {target : Chips}
    (hpos : 0 < payoutSum gross) (hlt : payoutSum gross < 2 ^ 128)
    (hfits : ∀ p ∈ gross, p.amount.asU128 * target.asU128 < 2 ^ 128) :
    payoutSum (apportionByWeight gross target) = target.asU128 := by
  have hfloor : floorSum gross target.asU128 =
      (gross.map fun p => p.amount.asU128 * target.asU128 / payoutSum gross).sum := by
    unfold floorSum
    congr 1
    refine List.map_congr_left fun p hp => ?_
    have hp' := hfits p hp
    rw [saturatingMul, Nat.min_eq_left (by omega)]
  have hle := floorSum_le hpos target.asU128
  have hleft : target.asU128 - floorSum gross target.asU128 ≤ gross.length := by
    rw [hfloor]
    exact leftover_le_length target.asU128 hpos
  rw [payoutSum_apportion_eq hpos hlt]
  omega

theorem product_fits {gross : List SettlementPayout} {target : ℕ} (hlt : payoutSum gross < 2 ^ 64)
    (hle : target ≤ payoutSum gross) : ∀ p ∈ gross, p.amount.asU128 * target < 2 ^ 128 := by
  intro p hp
  have hp' : p.amount.asU128 ≤ payoutSum gross :=
    List.single_le_sum (fun _ _ => Nat.zero_le _) _ (List.mem_map_of_mem hp)
  have hmul : p.amount.asU128 * target ≤ (2 ^ 64 - 1) * (2 ^ 64 - 1) :=
    Nat.mul_le_mul (by omega) (by omega)
  omega

/-! ### The plan -/

def rakeOf (policy : RakePolicy) (potTotal : ℕ) : ℕ := saturatingMul potTotal policy.rakeBps / 10000

theorem rakeOf_le {policy : RakePolicy} (h : policy.rakeBps ≤ 10000) (potTotal : ℕ) :
    rakeOf policy potTotal ≤ potTotal := by
  have hmul : potTotal * policy.rakeBps ≤ potTotal * 10000 := Nat.mul_le_mul_left _ h
  unfold rakeOf saturatingMul
  omega

theorem rakeAmountFor_ok {policy : RakePolicy} {pot rake : Chips}
    (h : policy.rakeAmountFor pot = .ok rake) :
    policy.rakeBps ≤ 10000 ∧ rake.asU128 = rakeOf policy pot.asU128 := by
  unfold RakePolicy.rakeAmountFor at h
  split_ifs at h with hbps
  cases h
  have hle : rakeOf policy pot.asU128 ≤ pot.asU128 := rakeOf_le (by omega) pot.asU128
  have hlt := pot.lt
  refine ⟨by omega, Chips.asU128_ofU128 ?_⟩
  show rakeOf policy pot.asU128 < 2 ^ 128
  omega

theorem rakeAmountFor_le {policy : RakePolicy} {pot rake : Chips}
    (h : policy.rakeAmountFor pot = .ok rake) : rake.asU128 ≤ pot.asU128 := by
  obtain ⟨hbps, hrake⟩ := rakeAmountFor_ok h
  rw [hrake]
  exact rakeOf_le hbps pot.asU128

/-- A policy of at most all takes its rake, and the rest is left. -/
theorem exists_rake {policy : RakePolicy} (hbps : policy.rakeBps ≤ 10000) (pot : Chips) :
    ∃ rake, policy.rakeAmountFor pot = .ok rake ∧ pot.checkedSub rake = .ok (pot.subOrZero rake) := by
  have hrake : policy.rakeAmountFor pot =
      .ok (.ofU128 (saturatingMul pot.asU128 policy.rakeBps / 10000)) := if_neg (by omega)
  exact ⟨_, hrake, Chips.checkedSub_eq_ok.2 ⟨rakeAmountFor_le hrake, rfl⟩⟩

theorem grossPayouts_perm (gross : HashMap SeatId Chips) :
    (grossPayouts gross).Perm ((pairs gross).map fun p => SettlementPayout.mk p.1 p.2) :=
  List.perm_insertionSort _ _

theorem payoutSum_gross (gross : HashMap SeatId Chips) :
    payoutSum (grossPayouts gross) = total Chips.asU128 gross := by
  unfold payoutSum
  rw [((grossPayouts_perm gross).map fun p => p.amount.asU128).sum_eq, List.map_map]
  rfl

/-- The outcome of a plan: nothing was won, or what was won is cut into the rake and the shares. -/
inductive PlanOutcome (gross : List SettlementPayout) (policy : RakePolicy) (plan : SettlementPlan) :
    Prop
  | nothing (hzero : payoutSum gross = 0) (hrake : plan.rakeAmount.asU128 = 0)
      (hpayouts : plan.payouts = [])
  | shares (hpos : 0 < payoutSum gross) (hbps : policy.rakeBps ≤ 10000)
      (hrake : plan.rakeAmount.asU128 = rakeOf policy (payoutSum gross)) (target : Chips)
      (htarget : target.asU128 = payoutSum gross - rakeOf policy (payoutSum gross))
      (hpayouts : plan.payouts = apportionByWeight gross target)

/-- **What a plan is made of.** -/
theorem plan_outcome {roomId : RoomId} {handId : HandId} {pots : List PotAwardInput}
    {policy : RakePolicy} {plan : SettlementPlan}
    (h : buildPlanFromPotAwards roomId handId pots policy = .ok plan) :
    ∃ gross, awardPots ∅ pots = .ok gross ∧ payoutSum (grossPayouts gross) = wonSum pots ∧
      wonSum pots < 2 ^ 128 ∧ PlanOutcome (grossPayouts gross) policy plan := by
  unfold buildPlanFromPotAwards at h
  split at h
  · cases h
  rename_i gross hgross
  have htotal := total_awardPots hgross
  rw [total_empty, Nat.zero_add, ← payoutSum_gross] at htotal
  unfold planOfGross at h
  split at h
  · cases h
  rename_i grossTotal hchecked
  have hgt : grossTotal.asU128 = payoutSum (grossPayouts gross) := by
    have hok := checkedTotal_ok hchecked
    rw [Chips.asU128_zero, Nat.zero_add] at hok
    exact hok
  have hlt := grossTotal.lt
  refine ⟨gross, hgross, htotal, by omega, ?_⟩
  split_ifs at h with hzero
  · cases h
    rw [Chips.eq_zero_iff] at hzero
    exact .nothing (by omega) rfl rfl
  split at h
  · cases h
  rename_i rake hrake
  split at h
  · cases h
  rename_i distributable hsub
  cases h
  rw [Chips.eq_zero_iff] at hzero
  obtain ⟨hbps, hrake⟩ := rakeAmountFor_ok hrake
  obtain ⟨-, hdist⟩ := Chips.checkedSub_eq_ok.1 hsub
  rw [hgt] at hrake hdist
  exact .shares (by omega) hbps hrake distributable (by omega) rfl

/-- **A plan from pots with winners hands out the pots.** -/
theorem planTotal_potAwards {roomId : RoomId} {handId : HandId} {pots : List PotAwardInput}
    {policy : RakePolicy} {plan : SettlementPlan} (hwin : ∀ pot ∈ pots, pot.winnerSeats ≠ [])
    (hlt : awardSum pots < 2 ^ 64)
    (h : buildPlanFromPotAwards roomId handId pots policy = .ok plan) :
    planTotal plan = awardSum pots := by
  obtain ⟨gross, -, hsum, -, houtcome⟩ := plan_outcome h
  rw [wonSum_eq_awardSum hwin] at hsum
  unfold planTotal
  cases houtcome with
  | nothing hzero hrake hpayouts =>
    rw [hrake, hpayouts, ← hsum, hzero]
    rfl
  | shares hpos hbps hrake target htarget hpayouts =>
    have hle := rakeOf_le hbps (payoutSum (grossPayouts gross))
    rw [hpayouts, payoutSum_apportion hpos (by omega) (product_fits (by omega) (by omega))]
    omega

section

variable {Card : Type} [RsPoker Card]

/-- The awards of the layers hold what the layers hold, and each has a winner. -/
theorem layerAwards_ok {input : ShowdownInput Card} : ∀ {layers : List PotLayer}
    {awards : List PotAwardInput}, layerAwards input layers = .ok awards →
    (∀ pot ∈ awards, pot.winnerSeats ≠ []) ∧
      awardSum awards = (layers.map fun l => l.amount.asU128).sum
  | [], _, h => by
    cases h
    exact ⟨fun _ hp => absurd hp (by simp), rfl⟩
  | layer :: layers, awards, h => by
    rw [layerAwards] at h
    split_ifs at h with hzero
    · obtain ⟨hwin, hsum⟩ := layerAwards_ok h
      refine ⟨hwin, ?_⟩
      rw [List.map_cons, List.sum_cons, Chips.eq_zero_iff.1 hzero, Nat.zero_add, hsum]
    · split at h
      · cases h
      rename_i showdown hshow
      split at h
      · cases h
      rename_i rest hrest
      cases h
      obtain ⟨hwin, hsum⟩ := layerAwards_ok hrest
      refine ⟨fun pot hpot => ?_, ?_⟩
      · rcases List.mem_cons.1 hpot with rfl | hpot
        · exact (winners_eligible hshow).1
        · exact hwin pot hpot
      · rw [List.map_cons, List.sum_cons, ← hsum]
        rfl

/-- Another seat contributed at least as much as each seat did. -/
def TopContributionMatched (st : EngineState Card) : Prop :=
  ∀ s, ∃ t, t ≠ s ∧ st.contribution s ≤ st.contribution t

/-- **A settlement conserves the pot exactly if the top contribution is matched.** -/
theorem settlement_conserves_iff (st : EngineState Card) (hreach : Reachable st)
    (hpot : st.snapshot.potTotal.asU128 < 2 ^ 64) (input : ShowdownInput Card)
    (policy : RakePolicy) (plan : SettlementPlan)
    (hplan : buildSettlementPlanFromShowdown st input policy = .ok plan) :
    planTotal plan = st.snapshot.potTotal.asU128 ↔ TopContributionMatched st := by
  have hinv := (engineInv_of_reachable hreach).pot
  have htotal : st.snapshot.potTotal.asU128 = total Chips.asU128 st.pot.playerContributions := by
    rw [hinv.potTotal, hinv.mainPot]
  have hlayers := sum_buildPotLayers (c := st.pot.playerContributions) st.hand.foldedSeats
    (by omega)
  unfold buildSettlementPlanFromShowdown at hplan
  split_ifs at hplan with hempty
  split at hplan
  · cases hplan
  rename_i awards hawards
  obtain ⟨hwin, hsum⟩ := layerAwards_ok hawards
  split at hplan
  · cases hplan
  rename_i plan' hbuild
  cases hplan
  have hle : awardSum awards + topExcess 0 (potLevels st.pot.playerContributions) =
      st.snapshot.potTotal.asU128 := by
    rw [hsum, htotal]
    exact hlayers
  rw [planTotal_potAwards hwin (by omega) hbuild]
  show _ ↔ ∀ s, ∃ t, t ≠ s ∧ weight Chips.asU128 st.pot.playerContributions s ≤
    weight Chips.asU128 st.pot.playerContributions t
  rw [← topExcess_potLevels]
  omega

end

/-- Heads-up, both seats all-in before the flop, for `first` and `second`; then the seat left of the
button is asked once more and checks. -/
def bothAllIn (first second : Chips) : List (EngineOp ByteCard) :=
  [.seatPlayer 0, .seatPlayer 1, .deal ⟨1⟩ royalDeck,
    .act { roomId := ⟨0⟩, handId := ⟨1⟩, actionSeq := 1, seatId := 0, actionType := .allIn,
           amount := some first },
    .act { roomId := ⟨0⟩, handId := ⟨1⟩, actionSeq := 2, seatId := 1, actionType := .allIn,
           amount := some second },
    .act { roomId := ⟨0⟩, handId := ⟨1⟩, actionSeq := 3, seatId := 1, actionType := .check,
           amount := none }]

/-- The engine state after `bothAllIn`. -/
def allInShowdown (first second : Chips) : EngineState ByteCard :=
  run engineStep (EngineState.new ⟨0⟩ 1 ⟨0⟩) (bothAllIn first second)

/-- The plan of a showdown state from its own cards. -/
def ownPlan (st : EngineState ByteCard) (policy : RakePolicy) : Option SettlementPlan :=
  (showdownInputFromEngineState st).bind fun input =>
    match buildSettlementPlanFromShowdown st input policy with
    | .ok plan => some plan
    | .error _ => none

theorem exists_of_ownPlan {st : EngineState ByteCard} {policy : RakePolicy} {plan : SettlementPlan}
    (h : ownPlan st policy = some plan) : ∃ input, showdownInputFromEngineState st = some input ∧
      buildSettlementPlanFromShowdown st input policy = .ok plan := by
  obtain ⟨input, hinput, hplan⟩ := Option.bind_eq_some_iff.1 h
  refine ⟨input, hinput, ?_⟩
  split at hplan
  · cases hplan
    assumption
  · cases hplan

theorem exists_plan_of_total (st : EngineState ByteCard) (policy : RakePolicy) (total : ℕ)
    (h : (ownPlan st policy).map planTotal = some total) :
    ∃ input plan, showdownInputFromEngineState st = some input ∧
      buildSettlementPlanFromShowdown st input policy = .ok plan ∧ planTotal plan = total := by
  obtain ⟨plan, hplan, htotal⟩ := Option.map_eq_some_iff.1 h
  obtain ⟨input, hinput, hbuild⟩ := exists_of_ownPlan hplan
  exact ⟨input, plan, hinput, hbuild, htotal⟩

/-- An all-in of `10 ^ 15` against one of `5 * 10 ^ 14`: a third of the pot is paid to nobody. -/
theorem unmatched_allIn_not_conserved :
    (allInShowdown (.ofU128 1000000000000000) (.ofU128 500000000000000)).snapshot.status
        = .showdown ∧
      (allInShowdown (.ofU128 1000000000000000)
        (.ofU128 500000000000000)).snapshot.potTotal.asU128 = 1500000000000000 ∧
      ∃ input plan,
        showdownInputFromEngineState
          (allInShowdown (.ofU128 1000000000000000) (.ofU128 500000000000000)) = some input ∧
        buildSettlementPlanFromShowdown
          (allInShowdown (.ofU128 1000000000000000) (.ofU128 500000000000000)) input ⟨300⟩
            = .ok plan ∧
        planTotal plan = 1000000000000000 := by
  have heval : (allInShowdown (.ofU128 1000000000000000)
        (.ofU128 500000000000000)).snapshot.status = .showdown ∧
      (allInShowdown (.ofU128 1000000000000000)
        (.ofU128 500000000000000)).snapshot.potTotal.asU128 = 1500000000000000 ∧
      (ownPlan (allInShowdown (.ofU128 1000000000000000) (.ofU128 500000000000000)) ⟨300⟩).map
        planTotal = some 1000000000000000 := by
    decide +kernel
  exact ⟨heval.1, heval.2.1, exists_plan_of_total _ _ _ heval.2.2⟩

/-- Equal all-ins are settled in full. -/
theorem matched_allIn_conserved :
    ∃ input plan,
      showdownInputFromEngineState
        (allInShowdown (.ofU128 1000000000000000) (.ofU128 1000000000000000)) = some input ∧
      buildSettlementPlanFromShowdown
        (allInShowdown (.ofU128 1000000000000000) (.ofU128 1000000000000000)) input ⟨300⟩
          = .ok plan ∧
      planTotal plan = (allInShowdown (.ofU128 1000000000000000)
        (.ofU128 1000000000000000)).snapshot.potTotal.asU128 := by
  have heval :
      (∀ s ≠ 0,
        (allInShowdown (.ofU128 1000000000000000) (.ofU128 1000000000000000)).contribution s ≤
        (allInShowdown (.ofU128 1000000000000000) (.ofU128 1000000000000000)).contribution 0) ∧
      (allInShowdown (.ofU128 1000000000000000) (.ofU128 1000000000000000)).contribution 0 ≤
        (allInShowdown (.ofU128 1000000000000000) (.ofU128 1000000000000000)).contribution 1 ∧
      (allInShowdown (.ofU128 1000000000000000)
        (.ofU128 1000000000000000)).snapshot.potTotal.asU128 < 2 ^ 64 ∧
      (ownPlan (allInShowdown (.ofU128 1000000000000000) (.ofU128 1000000000000000)) ⟨300⟩).map
        planTotal = some 2000000000000000 := by
    decide +kernel
  obtain ⟨hle, hone, hpot, hplan⟩ := heval
  have hmatched : TopContributionMatched
      (allInShowdown (.ofU128 1000000000000000) (.ofU128 1000000000000000)) := by
    intro s
    by_cases hs : s = 0
    · subst hs
      exact ⟨1, by decide, hone⟩
    · exact ⟨0, Ne.symm hs, hle s hs⟩
  obtain ⟨input, plan, hinput, hbuild, -⟩ := exists_plan_of_total _ _ _ hplan
  exact ⟨input, plan, hinput, hbuild,
    (settlement_conserves_iff _ ⟨⟨0⟩, 1, ⟨0⟩, _, rfl⟩ hpot input ⟨300⟩ plan hbuild).2 hmatched⟩

end HoldemPlatform.Settlement.Conservation
