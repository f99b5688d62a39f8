import HoldemPlatform.Engine.State

/-! # Pot layers

`build_pot_layers` cuts the contributions of a hand into layers: the levels are sorted by amount, and
each rise from one level to the next is paid by every seat at or above it. The walk stops at the
first layer with a single contributor, so what the top contributor paid beyond the second highest
level is in no layer. `sum_buildPotLayers` accounts for it exactly. -/

namespace HoldemPlatform.Engine.PotLayers

open HoldemPlatform.Lib.FiniteMap HoldemPlatform.Domain.Money HoldemPlatform.Domain.Game
open HoldemPlatform.Engine.State

/-- The positive contributions, sorted by amount. -/
def potLevels (contributions : HashMap SeatId Chips) : List (SeatId × Chips) :=
  ((pairs contributions).filter fun l => 0 < l.2).insertionSort fun a b => a.2.asU128 ≤ b.2.asU128

/-- The loop over the levels from index `idx` on; `prev` is the level already covered. -/
def layersFrom (foldedSeats : Finset SeatId) :
    ℕ → Chips → List (SeatId × Chips) → List PotLayer
  | _, _, [] => []
  | idx, prev, (seat, amount) :: rest =>
    if amount ≤ prev then layersFrom foldedSeats (idx + 1) prev rest
    else
      let layer := amount.subOrZero prev
      if layer = 0 then layersFrom foldedSeats (idx + 1) prev rest
      else
        let contributors := seat :: rest.map Prod.fst
        if contributors.length ≤ 1 then []
        else
          { amount := Chips.ofU128 (layer.asU128 * contributors.length)
            eligibleSeats := (contributors.filter (· ∉ foldedSeats)).insertionSort (· ≤ ·)
            isMain := idx = 0 } :: layersFrom foldedSeats (idx + 1) amount rest

def buildPotLayers (contributions : HashMap SeatId Chips) (foldedSeats : Finset SeatId) :
    List PotLayer :=
  if (potLevels contributions).length ≤ 1 then []
  else layersFrom foldedSeats 0 0 (potLevels contributions)

def buildSidePots (contributions : HashMap SeatId Chips) (foldedSeats : Finset SeatId) :
    List SidePot :=
  ((buildPotLayers contributions foldedSeats).filter fun layer => !layer.isMain).map fun layer =>
    { amount := layer.amount, eligibleSeats := layer.eligibleSeats }

/-! ### What the layers add up to -/

/-- What the single top contributor paid above every other level and above `prev`. -/
def topExcess : ℕ → List (SeatId × Chips) → ℕ
  | _, [] => 0
  | prev, [l] => l.2.asU128 - prev
  | prev, l :: l' :: rest => topExcess (max prev l.2.asU128) (l' :: rest)

def sumAbove (prev : ℕ) (levels : List (SeatId × Chips)) : ℕ :=
  (levels.map fun l => l.2.asU128 - prev).sum

/-- Levels in the order the loop meets them, none below `prev`. -/
structure LevelsFrom (prev : ℕ) (levels : List (SeatId × Chips)) : Prop where
  sorted : levels.Pairwise fun a b => a.2.asU128 ≤ b.2.asU128
  above : ∀ l ∈ levels, prev ≤ l.2.asU128

theorem LevelsFrom.tail {prev : ℕ} {l : SeatId × Chips} {rest : List (SeatId × Chips)}
    (h : LevelsFrom prev (l :: rest)) : LevelsFrom l.2.asU128 rest :=
  ⟨(List.pairwise_cons.1 h.sorted).2, (List.pairwise_cons.1 h.sorted).1⟩

theorem LevelsFrom.mono {prev prev' : ℕ} {levels : List (SeatId × Chips)}
    (h : LevelsFrom prev levels) (hle : prev' ≤ prev) : LevelsFrom prev' levels :=
  ⟨h.sorted, fun l hl => hle.trans (h.above l hl)⟩

/-- Raising the base from `prev` to a level below all amounts takes the difference from each. -/
theorem sumAbove_raise {prev base : ℕ} (hle : prev ≤ base) : ∀ {levels : List (SeatId × Chips)},
    (∀ l ∈ levels, base ≤ l.2.asU128) →
    sumAbove prev levels = sumAbove base levels + (base - prev) * levels.length
  | [], _ => by simp [sumAbove]
  | l :: rest, h => by
    have ih := sumAbove_raise hle fun l' hl' => h l' (List.mem_cons_of_mem _ hl')
    have hl := h l List.mem_cons_self
    simp only [sumAbove, List.map_cons, List.sum_cons, List.length_cons] at ih ⊢
    rw [ih, Nat.mul_succ]
    omega

/-- **The layers of a sorted suffix hold everything above `prev` except the top excess.** -/
theorem sum_layersFrom (foldedSeats : Finset SeatId) :
    ∀ (levels : List (SeatId × Chips)) (idx : ℕ) (prev : Chips),
      LevelsFrom prev.asU128 levels → sumAbove prev.asU128 levels < 2 ^ 128 →
      ((layersFrom foldedSeats idx prev levels).map fun l => l.amount.asU128).sum
        + topExcess prev.asU128 levels = sumAbove prev.asU128 levels
  | [], _, _, _, _ => rfl
  | [(seat, amount)], idx, prev, h, hlt => by
    by_cases hle : amount ≤ prev
    · simp [layersFrom, topExcess, sumAbove, hle]
    · simp [layersFrom, topExcess, sumAbove, hle]
  | (seat, amount) :: l' :: rest, idx, prev, h, hlt => by
    have hab : prev.asU128 ≤ amount.asU128 := h.above (seat, amount) List.mem_cons_self
    have htail := h.tail
    have hraise := sumAbove_raise hab htail.above
    have hsum : sumAbove prev.asU128 ((seat, amount) :: l' :: rest) =
        (amount.asU128 - prev.asU128) + sumAbove prev.asU128 (l' :: rest) := by
      simp [sumAbove]
    by_cases hle : amount ≤ prev
    · -- a level equal to the one before: skipped
      have heq : amount.asU128 = prev.asU128 := le_antisymm (Chips.le_iff.1 hle) hab
      have ih := sum_layersFrom foldedSeats (l' :: rest) (idx + 1) prev
        (htail.mono hab) (by omega)
      have htop : topExcess prev.asU128 ((seat, amount) :: l' :: rest) =
          topExcess prev.asU128 (l' :: rest) := by
        simp [topExcess, heq]
      rw [htop, hsum, heq, Nat.sub_self, Nat.zero_add, ← ih]
      simp [layersFrom, hle]
    · have hne : amount.subOrZero prev ≠ 0 := by
        rw [Ne, Chips.eq_zero_iff, Chips.asU128_subOrZero]
        rw [Chips.le_iff] at hle
        omega
      have ih := sum_layersFrom foldedSeats (l' :: rest) (idx + 1) amount htail (by omega)
      have htop : topExcess prev.asU128 ((seat, amount) :: l' :: rest) =
          topExcess amount.asU128 (l' :: rest) := by
        simp [topExcess, hab]
      have hlen : (seat :: (l' :: rest).map Prod.fst).length = (l' :: rest).length + 1 := by simp
      have hmul : (amount.asU128 - prev.asU128) * ((l' :: rest).length + 1) =
          (amount.asU128 - prev.asU128) * (l' :: rest).length + (amount.asU128 - prev.asU128) :=
        Nat.mul_succ _ _
      rw [layersFrom, if_neg hle]
      simp only [if_neg hne, hlen]
      rw [if_neg (by simp), List.map_cons, List.sum_cons, Chips.asU128_subOrZero,
        Chips.asU128_ofU128 (by omega), htop]
      omega

theorem topExcess_eq_zero_iff : ∀ {levels : List (SeatId × Chips)} {prev : ℕ},
    (levels.Pairwise fun a b => a.2.asU128 ≤ b.2.asU128) → (levels.map Prod.fst).Nodup →
    (topExcess prev levels = 0 ↔
      ∀ l ∈ levels, prev < l.2.asU128 → ∃ m ∈ levels, m.1 ≠ l.1 ∧ l.2.asU128 ≤ m.2.asU128)
  | [], _, _, _ => by simp [topExcess]
  | [l], prev, _, _ => by
    simp [topExcess, Nat.sub_eq_zero_iff_le]
  | l :: l' :: rest, prev, hs, hn => by
    obtain ⟨hl, hs'⟩ := List.pairwise_cons.1 hs
    obtain ⟨hfresh, hn'⟩ := List.nodup_cons.1 (by simpa only [List.map_cons] using hn)
    have hne : ∀ m ∈ l' :: rest, m.1 ≠ l.1 := fun m hm heq =>
      hfresh (by simpa only [← List.map_cons, ← heq] using List.mem_map_of_mem hm)
    rw [topExcess, topExcess_eq_zero_iff hs' (by simpa only [List.map_cons] using hn')]
    constructor
    · intro h m hm hprev
      rcases List.mem_cons.1 hm with rfl | hm
      · exact ⟨l', by simp, hne l' (by simp), hl l' (by simp)⟩
      · by_cases hmax : max prev l.2.asU128 < m.2.asU128
        · obtain ⟨t, ht, h1, h2⟩ := h m hm hmax
          exact ⟨t, List.mem_cons_of_mem _ ht, h1, h2⟩
        · exact ⟨l, by simp, (hne m hm).symm, by omega⟩
    · intro h m hm hmax
      obtain ⟨t, ht, h1, h2⟩ := h m (List.mem_cons_of_mem _ hm) (by omega)
      rcases List.mem_cons.1 ht with rfl | ht
      · omega
      · exact ⟨t, ht, h1, h2⟩

/-! ### The levels of a contribution map -/

theorem potLevels_perm (c : HashMap SeatId Chips) :
    (potLevels c).Perm ((pairs c).filter fun l => 0 < l.2) :=
  List.perm_insertionSort _ _

theorem mem_potLevels {c : HashMap SeatId Chips} {l : SeatId × Chips} :
    l ∈ potLevels c ↔ c.lookup l.1 = some l.2 ∧ 0 < l.2 := by
  rw [(potLevels_perm c).mem_iff, List.mem_filter, mem_pairs, decide_eq_true_iff]

theorem potLevels_sorted (c : HashMap SeatId Chips) :
    (potLevels c).Pairwise fun a b => a.2.asU128 ≤ b.2.asU128 := by
  have : Std.Total fun a b : SeatId × Chips => a.2.asU128 ≤ b.2.asU128 :=
    ⟨fun a b => Nat.le_total _ _⟩
  have : IsTrans (SeatId × Chips) fun a b => a.2.asU128 ≤ b.2.asU128 :=
    ⟨fun _ _ _ => Nat.le_trans⟩
  exact List.pairwise_insertionSort _ _

theorem potLevels_nodup (c : HashMap SeatId Chips) : ((potLevels c).map Prod.fst).Nodup :=
  ((potLevels_perm c).map Prod.fst).nodup_iff.2
    ((nodup_pairs_fst c).sublist (List.filter_sublist.map Prod.fst))

theorem sum_filter_pos : ∀ l : List (SeatId × Chips),
    ((l.filter fun x => 0 < x.2).map fun x => x.2.asU128).sum = (l.map fun x => x.2.asU128).sum
  | [] => rfl
  | x :: l => by
    have ih := sum_filter_pos l
    by_cases hx : 0 < x.2
    · simp [hx, ih]
    · have h0 : x.2.asU128 = 0 := by rw [Chips.lt_iff] at hx; simpa using hx
      simp [hx, ih, h0]

theorem sumAbove_potLevels (c : HashMap SeatId Chips) :
    sumAbove 0 (potLevels c) = total Chips.asU128 c := by
  have h := ((potLevels_perm c).map fun l => l.2.asU128).sum_eq
  rw [sum_filter_pos] at h
  exact h

/-- **The layers hold the contributions except the top excess.** -/
theorem sum_buildPotLayers {c : HashMap SeatId Chips} (foldedSeats : Finset SeatId)
    (h : total Chips.asU128 c < 2 ^ 128) :
    ((buildPotLayers c foldedSeats).map fun l => l.amount.asU128).sum
      + topExcess 0 (potLevels c) = total Chips.asU128 c := by
  unfold buildPotLayers
  split_ifs with hlen
  · match hl : potLevels c, hlen with
    | [], _ => simp [topExcess, ← sumAbove_potLevels, hl, sumAbove]
    | [l], _ => simp [topExcess, ← sumAbove_potLevels, hl, sumAbove]
  · rw [← sumAbove_potLevels] at h ⊢
    exact sum_layersFrom foldedSeats (potLevels c) 0 0
      ⟨potLevels_sorted c, fun _ _ => Nat.zero_le _⟩ h

/-- The top contribution is matched by another seat. -/
theorem topExcess_potLevels {c : HashMap SeatId Chips} :
    topExcess 0 (potLevels c) = 0 ↔
      ∀ s, ∃ t, t ≠ s ∧ weight Chips.asU128 c s ≤ weight Chips.asU128 c t := by
  rw [topExcess_eq_zero_iff (potLevels_sorted c) (potLevels_nodup c)]
  constructor
  · intro h s
    rcases Nat.eq_zero_or_pos (weight Chips.asU128 c s) with h0 | hpos
    · obtain ⟨t, ht⟩ := exists_ne s
      exact ⟨t, ht, by omega⟩
    · cases hs : c.lookup s with
      | none => rw [weight_of_lookup_none hs] at hpos; omega
      | some a =>
        rw [weight_of_lookup hs] at hpos ⊢
        obtain ⟨m, hm, hne, hle⟩ := h (s, a) (mem_potLevels.2 ⟨hs, Chips.lt_iff.2 hpos⟩) hpos
        exact ⟨m.1, hne, by rwa [weight_of_lookup (mem_potLevels.1 hm).1]⟩
  · intro h l hl hpos
    obtain ⟨t, hne, hle⟩ := h l.1
    rw [weight_of_lookup (mem_potLevels.1 hl).1] at hle
    cases ht : c.lookup t with
    | none => rw [weight_of_lookup_none ht] at hle; omega
    | some b =>
      rw [weight_of_lookup ht] at hle
      exact ⟨(t, b), mem_potLevels.2 ⟨ht, Chips.lt_iff.2 (hpos.trans_le hle)⟩, hne, hle⟩

end HoldemPlatform.Engine.PotLayers
