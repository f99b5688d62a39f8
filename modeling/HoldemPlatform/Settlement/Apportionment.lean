import HoldemPlatform.Lib.Ranks
import HoldemPlatform.Settlement.Conservation

/-!
# Who Gets the Chips That Rounding Leaves Over?

`apportion_by_weight` rounds the shares down and hands the rest out, one chip a row, by the size of the
remainders. Whether a row gets a chip depends on how many rows are ahead of it, so what a seat is paid can
be said without the sorting. If no product is cut off the apportionment is that of largest remainders: it
pays its target, every share is rounded down or up, and who won more does not get less.
-/

namespace HoldemPlatform.Settlement.Apportionment

open HoldemPlatform.Lib.Shares HoldemPlatform.Lib.Ranks
open HoldemPlatform.Domain.Money HoldemPlatform.Domain.Game
open HoldemPlatform.Settlement.Plan HoldemPlatform.Settlement.Conservation

/-! ### The order of the rows -/

/-- A larger remainder, or the same one at a lower seat. -/
def before (a b : Row) : Prop := b.rem < a.rem ∨ (a.rem = b.rem ∧ a.seatId < b.seatId)

instance : DecidableRel before := fun a b =>
  inferInstanceAs (Decidable (b.rem < a.rem ∨ (a.rem = b.rem ∧ a.seatId < b.seatId)))

theorem before_iff {a b : Row} :
    before a b ↔ b.rem < a.rem ∨ (a.rem = b.rem ∧ a.seatId.val < b.seatId.val) :=
  Iff.rfl

theorem byRemainder_iff {a b : Row} :
    byRemainder a b ↔ b.rem < a.rem ∨ (a.rem = b.rem ∧ a.seatId.val ≤ b.seatId.val) :=
  Iff.rfl

theorem before_asymm (a b : Row) (hab : before a b) : ¬ before b a := by
  rw [before_iff] at *
  omega

theorem before_trans (a b c : Row) (hab : before a b) (hbc : before b c) : before a c := by
  rw [before_iff] at *
  omega

theorem pairwise_before {rows : List Row} (h : (rows.map Row.seatId).Nodup) :
    (rows.insertionSort byRemainder).Pairwise before := by
  have : Std.Total byRemainder := ⟨fun a b => by
    rw [byRemainder_iff, byRemainder_iff]
    omega⟩
  have : IsTrans Row byRemainder := ⟨fun a b c hab hbc => by
    rw [byRemainder_iff] at *
    omega⟩
  have hsorted := List.pairwise_insertionSort byRemainder rows
  have hseats : (rows.insertionSort byRemainder).Pairwise fun a b => a.seatId ≠ b.seatId := by
    rw [← ((List.perm_insertionSort byRemainder rows).map Row.seatId).nodup_iff] at h
    exact List.pairwise_map.1 h
  refine hsorted.imp₂ (fun a b hle hne => ?_) hseats
  have hval : a.seatId.val ≠ b.seatId.val := fun heq => hne (Fin.ext heq)
  rw [byRemainder_iff] at hle
  rw [before_iff]
  omega

def topUp (row : Row) : Row := { row with share := saturatingAdd 128 row.share 1 }

/-- A row of a sorted list gets a chip if fewer than `extra` rows are ahead of it. -/
theorem handOut_eq_map : ∀ (extra : ℕ) {rows : List Row}, rows.Pairwise before →
    handOut extra rows = rows.map fun row => if ahead before rows row < extra then topUp row else row
  | 0, rows, _ => by simp [handOut]
  | extra + 1, [], _ => rfl
  | extra + 1, row :: rows, h => by
    obtain ⟨hrow, hrows⟩ := List.pairwise_cons.1 h
    have htail : (rows.map fun b => if ahead before rows b < extra then topUp b else b) =
        rows.map fun b => if ahead before (row :: rows) b < extra + 1 then topUp b else b := by
      refine List.map_congr_left fun b hb => ?_
      rw [ahead_cons (hrow b hb)]
      simp only [Nat.add_lt_add_iff_right]
    rw [handOut, handOut_eq_map extra hrows, htail, List.map_cons, ahead_head before_asymm hrow,
      if_pos (Nat.succ_pos extra)]
    rfl

theorem handOut_perm (extra : ℕ) {rows : List Row} (h : (rows.map Row.seatId).Nodup) :
    (handOut extra (rows.insertionSort byRemainder)).Perm
      (rows.map fun row => if ahead before rows row < extra then topUp row else row) := by
  have hperm := List.perm_insertionSort byRemainder rows
  rw [handOut_eq_map extra (pairwise_before h)]
  simp only [ahead_perm hperm]
  exact hperm.map _

/-! ### What a seat is paid -/

section

variable (gross : List SettlementPayout) (target : ℕ)

/-- The share of a payout, rounded down; a product that does not fit an amount is cut off. -/
def floorShare (p : SettlementPayout) : ℕ := saturatingMul p.amount.asU128 target / payoutSum gross

/-- The order in which the payouts are served with what is left over. -/
def servedBefore (p q : SettlementPayout) : Prop :=
  before (floorRow target (payoutSum gross) p) (floorRow target (payoutSum gross) q)

instance : DecidableRel (servedBefore gross target) := fun p q =>
  inferInstanceAs (Decidable
    (before (floorRow target (payoutSum gross) p) (floorRow target (payoutSum gross) q)))

/-- The share of a payout and the chip it may get of the rest. -/
def due (p : SettlementPayout) : ℕ :=
  floorShare gross target p +
    if ahead (servedBefore gross target) gross p < target - floorSum gross target then 1 else 0

variable {gross target}

theorem floorShare_le {p : SettlementPayout} (hle : target ≤ payoutSum gross) :
    floorShare gross target p ≤ p.amount.asU128 := by
  have hmul : saturatingMul p.amount.asU128 target ≤ p.amount.asU128 * payoutSum gross :=
    (Nat.min_le_left _ _).trans (Nat.mul_le_mul_left _ hle)
  exact Nat.div_le_of_le_mul (by rwa [Nat.mul_comm] at hmul)

theorem floorShare_lt {p : SettlementPayout} (hp : p ∈ gross) (hle : target ≤ payoutSum gross) :
    floorShare gross target p + 1 < 2 ^ 128 := by
  have hshare := floorShare_le (p := p) hle
  have hamount : p.amount.asU128 ≤ payoutSum gross :=
    List.single_le_sum (fun _ _ => Nat.zero_le _) _ (List.mem_map_of_mem hp)
  have hcut : floorShare gross target p * payoutSum gross ≤ 2 ^ 128 - 1 :=
    (Nat.div_mul_le_self _ _).trans (Nat.min_le_right _ _)
  by_contra hbig
  have hmul : 2 ^ 127 * 2 ^ 127 ≤ floorShare gross target p * payoutSum gross :=
    Nat.mul_le_mul (by omega) (by omega)
  omega

end

theorem due_le (gross : List SettlementPayout) (target : ℕ) (p : SettlementPayout) :
    due gross target p ≤ floorShare gross target p + 1 := by
  unfold due
  split_ifs <;> omega

theorem due_lt {gross : List SettlementPayout} {target : ℕ} {p : SettlementPayout} (hp : p ∈ gross)
    (hle : target ≤ payoutSum gross) : due gross target p < 2 ^ 128 := by
  have hdue := due_le gross target p
  have hshare := floorShare_lt hp hle
  omega

/-- The rows after the rest was handed out, in the order of the payouts. -/
theorem map_served {gross : List SettlementPayout} {target : ℕ} (hle : target ≤ payoutSum gross) :
    (gross.map (floorRow target (payoutSum gross))).map (fun row =>
      if ahead before (gross.map (floorRow target (payoutSum gross))) row <
        target - floorSum gross target then topUp row else row) =
      gross.map fun p =>
        { floorRow target (payoutSum gross) p with share := due gross target p } := by
  rw [List.map_map]
  refine List.map_congr_left fun p hp => ?_
  have hshare := floorShare_lt hp hle
  have htop : saturatingAdd 128 (floorShare gross target p) 1 = floorShare gross target p + 1 := by
    unfold saturatingAdd
    omega
  have hahead : ahead before (gross.map (floorRow target (payoutSum gross)))
      (floorRow target (payoutSum gross) p) = ahead (servedBefore gross target) gross p :=
    ahead_map _ _ _
  simp only [Function.comp_apply, hahead, due]
  split_ifs with hserved
  · unfold topUp
    congr 1
  · rfl

section

variable {gross : List SettlementPayout} {target : Chips}
  (hseats : (gross.map SettlementPayout.seatId).Nodup) (hpos : 0 < payoutSum gross)
  (hlt : payoutSum gross < 2 ^ 128) (hle : target.asU128 ≤ payoutSum gross)
include hseats hpos hlt hle

/-- **The apportionment pays every payout what is due to it**, and lists the positive amounts. -/
theorem apportion_perm : (apportionByWeight gross target).Perm
    ((gross.filter fun p => 0 < due gross target.asU128 p).map fun p =>
      { seatId := p.seatId, amount := .ofU128 (due gross target.asU128 p) }) := by
  have hrows : ((gross.map (floorRow target.asU128 (payoutSum gross))).map Row.seatId).Nodup := by
    rw [List.map_map]
    exact hseats
  rw [apportionByWeight_eq hpos hlt]
  have hperm := handOut_perm (target.asU128 - floorSum gross target.asU128) hrows
  rw [map_served hle] at hperm
  -- the second sort only permutes
  refine ((((List.perm_insertionSort _ _).trans hperm).filter _).map _).trans ?_
  rw [List.filter_map, List.map_map]
  exact List.Perm.refl _

theorem forall_apportion {P : SeatId → ℕ → Prop} :
    (∀ payout ∈ apportionByWeight gross target, P payout.seatId payout.amount.asU128) ↔
      ∀ p ∈ gross, 0 < due gross target.asU128 p → P p.seatId (due gross target.asU128 p) := by
  have hperm := apportion_perm hseats hpos hlt hle
  have hamount : ∀ p ∈ gross, (Chips.ofU128 (due gross target.asU128 p)).asU128 =
      due gross target.asU128 p := fun p hp => Chips.asU128_ofU128 (due_lt hp hle)
  constructor
  · intro h p hp hsome
    have hmem : { seatId := p.seatId, amount := .ofU128 (due gross target.asU128 p) } ∈
        apportionByWeight gross target :=
      hperm.mem_iff.2 (List.mem_map.2 ⟨p, List.mem_filter.2 ⟨hp, by simpa using hsome⟩, rfl⟩)
    have hP := h _ hmem
    rwa [hamount p hp] at hP
  · intro h payout hpayout
    obtain ⟨p, hp, rfl⟩ := List.mem_map.1 (hperm.mem_iff.1 hpayout)
    obtain ⟨hp, hsome⟩ := List.mem_filter.1 hp
    rw [hamount p hp]
    exact h p hp (by simpa using hsome)

end

def paidTo (payouts : List SettlementPayout) (seatId : SeatId) : ℕ :=
  payoutSum (payouts.filter fun p => p.seatId = seatId)

theorem paidTo_perm {payouts payouts' : List SettlementPayout} (h : payouts.Perm payouts')
    (seatId : SeatId) : paidTo payouts seatId = paidTo payouts' seatId :=
  ((h.filter _).map _).sum_eq

theorem paidTo_eq_zero {payouts : List SettlementPayout} {seatId : SeatId}
    (h : seatId ∉ payouts.map SettlementPayout.seatId) : paidTo payouts seatId = 0 := by
  have hnil : (payouts.filter fun p => p.seatId = seatId) = [] := by
    refine List.filter_eq_nil_iff.2 fun p hp => ?_
    rw [decide_eq_true_iff]
    exact fun heq => h (heq ▸ List.mem_map_of_mem hp)
  rw [paidTo, hnil]
  rfl

theorem paidTo_cons (p : SettlementPayout) (payouts : List SettlementPayout) (seatId : SeatId) :
    paidTo (p :: payouts) seatId =
      (if p.seatId = seatId then p.amount.asU128 else 0) + paidTo payouts seatId := by
  unfold paidTo
  by_cases h : p.seatId = seatId
  · simp [h, payoutSum]
  · simp [h]

theorem paidTo_of_mem : ∀ {payouts : List SettlementPayout},
    (payouts.map SettlementPayout.seatId).Nodup → ∀ p ∈ payouts,
    paidTo payouts p.seatId = p.amount.asU128
  | q :: payouts, hn, p, hp => by
    rw [List.map_cons, List.nodup_cons] at hn
    rw [paidTo_cons]
    rcases List.mem_cons.1 hp with rfl | hp
    · rw [if_pos rfl, paidTo_eq_zero hn.1, Nat.add_zero]
    · have hne : q.seatId ≠ p.seatId := fun heq => hn.1 (heq ▸ List.mem_map_of_mem hp)
      rw [if_neg hne, Nat.zero_add, paidTo_of_mem hn.2 p hp]

section

variable {gross : List SettlementPayout} {target : Chips}
  (hseats : (gross.map SettlementPayout.seatId).Nodup) (hpos : 0 < payoutSum gross)
  (hlt : payoutSum gross < 2 ^ 128) (hle : target.asU128 ≤ payoutSum gross)
include hseats hpos hlt hle

theorem paidTo_apportion {p : SettlementPayout} (hp : p ∈ gross) :
    paidTo (apportionByWeight gross target) p.seatId = due gross target.asU128 p := by
  have hperm := apportion_perm hseats hpos hlt hle
  rcases Nat.eq_zero_or_pos (due gross target.asU128 p) with hzero | hsome
  · -- nothing is due to the seat, and no other payout has the seat
    rw [paidTo_perm hperm, hzero]
    refine paidTo_eq_zero fun hmem => ?_
    rw [List.map_map] at hmem
    obtain ⟨q, hq, hseat⟩ := List.mem_map.1 hmem
    obtain ⟨hq, hqpos⟩ := List.mem_filter.1 hq
    have heq : q = p := List.inj_on_of_nodup_map hseats hq hp hseat
    rw [heq, hzero] at hqpos
    simp at hqpos
  · have hmem : { seatId := p.seatId, amount := .ofU128 (due gross target.asU128 p) } ∈
        apportionByWeight gross target := by
      refine hperm.mem_iff.2 (List.mem_map.2 ⟨p, ?_, rfl⟩)
      rw [List.mem_filter, decide_eq_true_iff]
      exact ⟨hp, hsome⟩
    have hpaid := paidTo_of_mem (nodup_apportionByWeight target hseats) _ hmem
    rwa [Chips.asU128_ofU128 (due_lt hp hle)] at hpaid

theorem paidTo_apportion_other {seatId : SeatId}
    (h : seatId ∉ gross.map SettlementPayout.seatId) :
    paidTo (apportionByWeight gross target) seatId = 0 := by
  rw [paidTo_perm (apportion_perm hseats hpos hlt hle)]
  refine paidTo_eq_zero fun hmem => h ?_
  rw [List.map_map] at hmem
  exact (List.filter_sublist.map SettlementPayout.seatId).subset hmem

end

/-! ### Largest remainders -/

section

variable {gross : List SettlementPayout} {target : ℕ} (hpos : 0 < payoutSum gross)
  (hfits : ∀ p ∈ gross, p.amount.asU128 * target < 2 ^ 128)
include hfits

theorem saturatingMul_of_fits {p : SettlementPayout} (hp : p ∈ gross) :
    saturatingMul p.amount.asU128 target = p.amount.asU128 * target := by
  have hlt := hfits p hp
  exact Nat.min_eq_left (by omega)

theorem floorShare_of_fits {p : SettlementPayout} (hp : p ∈ gross) :
    floorShare gross target p = p.amount.asU128 * target / payoutSum gross := by
  rw [floorShare, saturatingMul_of_fits hfits hp]

theorem rem_floorRow {p : SettlementPayout} (hp : p ∈ gross) :
    (floorRow target (payoutSum gross) p).rem = p.amount.asU128 * target % payoutSum gross := by
  show saturatingMul p.amount.asU128 target % payoutSum gross = _
  rw [saturatingMul_of_fits hfits hp]

include hpos

/-- What is left over, in units of the total, is what the divisions leave. -/
theorem sum_rem : (gross.map fun p => (floorRow target (payoutSum gross) p).rem).sum =
    payoutSum gross * (target - floorSum gross target) := by
  have hdiv := mul_sum_floor (w := fun p : SettlementPayout => p.amount.asU128) (l := gross) target
  have hfloor : floorSum gross target =
      (gross.map fun p => p.amount.asU128 * target / payoutSum gross).sum :=
    congrArg List.sum (List.map_congr_left fun p hp => floorShare_of_fits hfits hp)
  have hrem : (gross.map fun p => (floorRow target (payoutSum gross) p).rem) =
      gross.map fun p => p.amount.asU128 * target % payoutSum gross :=
    List.map_congr_left fun p hp => rem_floorRow hfits hp
  have hle := floorSum_le hpos target
  rw [hrem, Nat.mul_sub, hfloor]
  unfold payoutSum at *
  omega

/-- **Only a payout with a remainder gets a chip of the rest.** -/
theorem rem_pos_of_served {p : SettlementPayout} (hp : p ∈ gross)
    (h : ahead (servedBefore gross target) gross p < target - floorSum gross target) :
    0 < p.amount.asU128 * target % payoutSum gross := by
  rw [← rem_floorRow hfits hp]
  refine pos_of_ahead_lt (f := fun q => (floorRow target (payoutSum gross) q).rem) hpos
    (fun q _ => (Nat.mod_lt _ hpos).le) (sum_rem hpos hfits) (fun q _ hlt => ?_) h
  exact .inl hlt

theorem due_rounded {p : SettlementPayout} (hp : p ∈ gross) :
    due gross target p = p.amount.asU128 * target / payoutSum gross ∨
      due gross target p =
        (p.amount.asU128 * target + (payoutSum gross - 1)) / payoutSum gross := by
  unfold due
  rw [floorShare_of_fits hfits hp]
  split_ifs with hserved
  · right
    have hrem := rem_pos_of_served hpos hfits hp hserved
    generalize p.amount.asU128 * target = n at hrem
    have hdiv := Nat.div_add_mod n (payoutSum gross)
    have hmod := Nat.mod_lt n hpos
    have hsucc : payoutSum gross * (n / payoutSum gross + 1) =
        payoutSum gross * (n / payoutSum gross) + payoutSum gross := Nat.mul_succ _ _
    symm
    refine Nat.div_eq_of_lt_le ?_ ?_
    · rw [Nat.mul_comm]
      omega
    · rw [Nat.mul_comm, Nat.mul_succ]
      omega
  · exact .inl rfl

end

theorem servedBefore_trans {gross : List SettlementPayout} {target : ℕ} (p q r : SettlementPayout)
    (hpq : servedBefore gross target p q) (hqr : servedBefore gross target q r) :
    servedBefore gross target p r :=
  before_trans _ _ _ hpq hqr

/-- Who is served first and has no smaller share does not get less. -/
theorem due_le_of_servedBefore {gross : List SettlementPayout} {target : ℕ} {p q : SettlementPayout}
    (hserved : servedBefore gross target p q)
    (hshare : floorShare gross target q ≤ floorShare gross target p) :
    due gross target q ≤ due gross target p := by
  have hahead := ahead_le servedBefore_trans hserved gross
  unfold due
  split_ifs <;> omega

/-- **Who won more does not get less.** -/
theorem due_mono {gross : List SettlementPayout} {target : ℕ}
    (hfits : ∀ p ∈ gross, p.amount.asU128 * target < 2 ^ 128) {p q : SettlementPayout} (hp : p ∈ gross)
    (hq : q ∈ gross) (hlt : q.amount.asU128 < p.amount.asU128) :
    due gross target q ≤ due gross target p := by
  rcases Nat.eq_zero_or_pos target with rfl | htarget
  · -- nothing is shared out
    have hzero : floorShare gross 0 q = 0 := by simp [floorShare, saturatingMul]
    unfold due
    rw [hzero, Nat.zero_sub]
    simp
  have hmul : q.amount.asU128 * target < p.amount.asU128 * target :=
    Nat.mul_lt_mul_of_pos_right hlt htarget
  have hp_div := Nat.div_add_mod (p.amount.asU128 * target) (payoutSum gross)
  have hq_div := Nat.div_add_mod (q.amount.asU128 * target) (payoutSum gross)
  have hle : floorShare gross target q ≤ floorShare gross target p := by
    rw [floorShare_of_fits hfits hp, floorShare_of_fits hfits hq]
    exact Nat.div_le_div_right hmul.le
  rcases Nat.eq_or_lt_of_le hle with heq | hshare
  · -- the same share, so a larger remainder
    refine due_le_of_servedBefore (.inl ?_) hle
    rw [rem_floorRow hfits hp, rem_floorRow hfits hq]
    rw [floorShare_of_fits hfits hp, floorShare_of_fits hfits hq] at heq
    rw [heq] at hq_div
    omega
  · have hq_due := due_le gross target q
    have hp_due : floorShare gross target p ≤ due gross target p := Nat.le_add_right _ _
    omega

/-- The same winnings differ by at most one chip, which the lower seat gets. -/
theorem due_ties {gross : List SettlementPayout} {target : ℕ} {p q : SettlementPayout}
    (hamount : p.amount = q.amount) (hseat : p.seatId < q.seatId) :
    due gross target q ≤ due gross target p ∧ due gross target p ≤ due gross target q + 1 := by
  have hshare : floorShare gross target p = floorShare gross target q := by
    unfold floorShare
    rw [hamount]
  have hrem : (floorRow target (payoutSum gross) p).rem = (floorRow target (payoutSum gross) q).rem := by
    show saturatingMul p.amount.asU128 target % _ = saturatingMul q.amount.asU128 target % _
    rw [hamount]
  have hp_due := due_le gross target p
  have hq_due : floorShare gross target q ≤ due gross target q := Nat.le_add_right _ _
  exact ⟨due_le_of_servedBefore (.inr ⟨hrem, hseat⟩) hshare.ge, by omega⟩

/-- **A chip more won is at most a chip more paid.** -/
theorem due_le_succ {gross : List SettlementPayout} {target : ℕ} (hpos : 0 < payoutSum gross)
    (hfits : ∀ p ∈ gross, p.amount.asU128 * target < 2 ^ 128) (hle : target ≤ payoutSum gross)
    {p q : SettlementPayout} (hp : p ∈ gross) (hq : q ∈ gross)
    (hsucc : p.amount.asU128 = q.amount.asU128 + 1) : due gross target p ≤ due gross target q + 1 := by
  have hp_due := due_le gross target p
  have hq_due : floorShare gross target q ≤ due gross target q := Nat.le_add_right _ _
  have hmul : p.amount.asU128 * target = q.amount.asU128 * target + target := by
    rw [hsucc, Nat.succ_mul]
  rcases hle.eq_or_lt with heq | hlt
  · -- everything won is paid, so nothing is left over
    have hserved : ¬ ahead (servedBefore gross target) gross p < target - floorSum gross target := by
      intro h
      have hrem := rem_pos_of_served hpos hfits hp h
      rw [heq, Nat.mul_mod_left] at hrem
      omega
    have hshare : ∀ r ∈ gross, floorShare gross target r = r.amount.asU128 := by
      intro r hr
      rw [floorShare_of_fits hfits hr, heq, Nat.mul_div_cancel _ hpos]
    have hp_eq : due gross target p = floorShare gross target p := by
      unfold due
      rw [if_neg hserved, Nat.add_zero]
    have hp_share := hshare p hp
    have hq_share := hshare q hq
    omega
  have hp_div := Nat.div_add_mod (p.amount.asU128 * target) (payoutSum gross)
  have hq_div := Nat.div_add_mod (q.amount.asU128 * target) (payoutSum gross)
  have hp_mod := Nat.mod_lt (p.amount.asU128 * target) hpos
  have hq_mod := Nat.mod_lt (q.amount.asU128 * target) hpos
  rw [← floorShare_of_fits hfits hp, ← rem_floorRow hfits hp] at hp_div
  rw [← floorShare_of_fits hfits hq, ← rem_floorRow hfits hq] at hq_div
  rw [← rem_floorRow hfits hp] at hp_mod
  rw [← rem_floorRow hfits hq] at hq_mod
  by_cases hshare : floorShare gross target p ≤ floorShare gross target q
  · omega
  have hone : floorShare gross target p = floorShare gross target q + 1 := by
    by_contra hne
    have htwo : payoutSum gross * (floorShare gross target q + 2) ≤
        payoutSum gross * floorShare gross target p := Nat.mul_le_mul_left _ (by omega)
    rw [Nat.mul_add] at htwo
    omega
  -- the larger share leaves the smaller remainder, so the other payout is served first
  rw [hone, Nat.mul_succ] at hp_div
  have hserved : servedBefore gross target q p := .inl (by omega)
  have hahead := ahead_le servedBefore_trans hserved gross
  unfold due
  split_ifs <;> omega

/-- A target shared out in proportion to what the seats won. -/
structure FairShares (gross : List SettlementPayout) (target : ℕ) (payouts : List SettlementPayout) :
    Prop where
  sum : payoutSum payouts = target
  rounded : ∀ p ∈ gross,
    paidTo payouts p.seatId = p.amount.asU128 * target / payoutSum gross ∨
      paidTo payouts p.seatId = (p.amount.asU128 * target + (payoutSum gross - 1)) / payoutSum gross
  others : ∀ seatId ∉ gross.map SettlementPayout.seatId, paidTo payouts seatId = 0
  mono : ∀ p ∈ gross, ∀ q ∈ gross, q.amount.asU128 < p.amount.asU128 →
    paidTo payouts q.seatId ≤ paidTo payouts p.seatId
  ties : ∀ p ∈ gross, ∀ q ∈ gross, p.amount = q.amount → p.seatId < q.seatId →
    paidTo payouts q.seatId ≤ paidTo payouts p.seatId ∧
      paidTo payouts p.seatId ≤ paidTo payouts q.seatId + 1

/-- **The rake is shared fairly** as long as no product is cut off. -/
theorem rake_shared_fairly (gross : List SettlementPayout) (target : Chips)
    (hseats : (gross.map SettlementPayout.seatId).Nodup) (hpos : 0 < payoutSum gross)
    (htotal : payoutSum gross < 2 ^ 128) (hle : target.asU128 ≤ payoutSum gross)
    (hfits : ∀ p ∈ gross, p.amount.asU128 * target.asU128 < 2 ^ 128) :
    FairShares gross target.asU128 (apportionByWeight gross target) := by
  have hpaid : ∀ p ∈ gross, paidTo (apportionByWeight gross target) p.seatId =
      due gross target.asU128 p := fun p => paidTo_apportion hseats hpos htotal hle
  refine ⟨payoutSum_apportion hpos htotal hfits, fun p hp => ?_,
    fun _ => paidTo_apportion_other hseats hpos htotal hle, fun p hp q hq hlt => ?_,
    fun p hp q hq hamount hseat => ?_⟩
  · rw [hpaid p hp]
    exact due_rounded hpos hfits hp
  · rw [hpaid p hp, hpaid q hq]
    exact due_mono hfits hp hq hlt
  · rw [hpaid p hp, hpaid q hq]
    exact due_ties hamount hseat

/-- Three winners with the same amount and one with more share ten chips; a rake took four. -/
theorem ten_chips_shared_fairly :
    FairShares [⟨3, .ofU128 2⟩, ⟨1, .ofU128 2⟩, ⟨2, .ofU128 8⟩, ⟨5, .ofU128 2⟩] 10
        (apportionByWeight [⟨3, .ofU128 2⟩, ⟨1, .ofU128 2⟩, ⟨2, .ofU128 8⟩, ⟨5, .ofU128 2⟩]
          (.ofU128 10)) ∧
      apportionByWeight [⟨3, .ofU128 2⟩, ⟨1, .ofU128 2⟩, ⟨2, .ofU128 8⟩, ⟨5, .ofU128 2⟩] (.ofU128 10) =
        [⟨1, .ofU128 2⟩, ⟨2, .ofU128 6⟩, ⟨3, .ofU128 1⟩, ⟨5, .ofU128 1⟩] :=
  ⟨rake_shared_fairly _ (.ofU128 10) (by decide) (by decide) (by decide) (by decide) (by decide),
    by decide +kernel⟩

end HoldemPlatform.Settlement.Apportionment
