import Mathlib.Algebra.BigOperators.Group.List.Basic
import Mathlib.Algebra.Order.BigOperators.Group.List
import Mathlib.Algebra.BigOperators.Ring.List
import Mathlib.Algebra.Ring.Nat
import Mathlib.Algebra.Group.Action.Defs
import Mathlib.Algebra.BigOperators.Ring.Finset
import Mathlib.Data.Finset.Max

/-!
# Dividing a Total into Whole Shares

Two ways to cut a total into whole shares without losing a unit: equal shares, where the first places
get the remainder one unit each, and shares in proportion to weights, rounded down, where what is left
over is never more than one unit a place. Equal shares are also the only ones that fall by at most one
unit from the first place to the last.
-/

namespace HoldemPlatform.Lib.Shares

variable {α : Type}

/-- The number of the first `r` places among those numbered from `k` on. -/
theorem sum_zipIdx_lt (r : ℕ) : ∀ (l : List α) (k : ℕ),
    ((l.zipIdx k).map fun p => if p.2 < r then 1 else 0).sum = min l.length (r - k)
  | [], k => by simp
  | a :: l, k => by
    have ih := sum_zipIdx_lt r l (k + 1)
    simp only [List.zipIdx_cons, List.map_cons, List.sum_cons, List.length_cons, ih]
    split_ifs <;> omega

/-- **Equal shares with the remainder on the first places add up to the total.** -/
theorem sum_equalShares (total : ℕ) {l : List α} (h : l ≠ []) :
    (l.zipIdx.map fun p =>
      total / l.length + if p.2 < total % l.length then 1 else 0).sum = total := by
  have hpos : 0 < l.length := List.length_pos_iff.2 h
  have hmod := Nat.mod_lt total hpos
  have hdiv := Nat.div_add_mod total l.length
  rw [List.sum_map_add, sum_zipIdx_lt, List.map_const', List.sum_replicate, List.length_zipIdx,
    smul_eq_mul]
  omega

section Steps

variable {ι : Type} [LinearOrder ι] {places : Finset ι} {share : ι → ℕ}
  (h : ∀ s ∈ places, ∀ t ∈ places, s < t → share t ≤ share s ∧ share s ≤ share t + 1)
include h

/-- The last place has the least share, and no place has more than one unit on top of it. -/
theorem exists_least_share (hne : places.Nonempty) :
    ∃ last ∈ places, ∀ t ∈ places, share last ≤ share t ∧ share t ≤ share last + 1 := by
  refine ⟨_, places.max'_mem hne, fun t ht => ?_⟩
  rcases (places.le_max' t ht).eq_or_lt with heq | hlt
  · rw [← heq]
    omega
  · exact h t ht _ (places.max'_mem hne) hlt

/-- The places with more than `bound` come first. -/
theorem card_before_lt_iff (bound : ℕ) {s : ι} (hs : s ∈ places) :
    (places.filter (· < s)).card < (places.filter fun t => bound < share t).card ↔ bound < share s := by
  constructor
  · intro hcard
    by_contra hnot
    refine absurd (Finset.card_le_card fun t ht => ?_) (Nat.not_le.2 hcard)
    obtain ⟨ht, hmore⟩ := Finset.mem_filter.1 ht
    refine Finset.mem_filter.2 ⟨ht, lt_of_not_ge fun hle => ?_⟩
    rcases hle.eq_or_lt with rfl | hlt
    · exact hnot hmore
    · have hstep := h s hs t ht hlt
      omega
  · intro hmore
    refine Finset.card_lt_card ((Finset.ssubset_iff_of_subset fun t ht => ?_).2 ⟨s, ?_, ?_⟩)
    · obtain ⟨ht, hts⟩ := Finset.mem_filter.1 ht
      have hstep := h t ht s hs hts
      exact Finset.mem_filter.2 ⟨ht, by omega⟩
    · exact Finset.mem_filter.2 ⟨hs, hmore⟩
    · simp

/-- **Shares that fall by at most one unit from the first place to the last are equal shares** of their
total, with the remainder on the first places. -/
theorem equalShare_of_steps {s : ι} (hs : s ∈ places) :
    share s = (∑ t ∈ places, share t) / places.card +
      if (places.filter (· < s)).card < (∑ t ∈ places, share t) % places.card then 1 else 0 := by
  have hne : places.Nonempty := ⟨s, hs⟩
  obtain ⟨last, hlast, hbounds⟩ := exists_least_share h hne
  have hshare : ∀ t ∈ places, share t = share last + if share last < share t then 1 else 0 := by
    intro t ht
    have hbound := hbounds t ht
    split_ifs <;> omega
  have hsum : ∑ t ∈ places, share t =
      places.card * share last + (places.filter fun t => share last < share t).card := by
    rw [Finset.sum_congr rfl hshare, Finset.sum_add_distrib, Finset.sum_const, smul_eq_mul,
      Finset.card_filter]
  have hcard : (places.filter fun t => share last < share t).card < places.card := by
    refine Finset.card_lt_card (Finset.filter_ssubset.2 ⟨last, hlast, ?_⟩)
    omega
  rw [hsum, Nat.mul_add_div hne.card_pos, Nat.div_eq_of_lt hcard, Nat.add_zero, Nat.mul_add_mod,
    Nat.mod_eq_of_lt hcard]
  simp only [card_before_lt_iff h (share last) hs]
  exact hshare s hs

end Steps

theorem sum_div_add_sum_mod (f : α → ℕ) (W : ℕ) : ∀ l : List α,
    W * (l.map fun a => f a / W).sum + (l.map fun a => f a % W).sum = (l.map f).sum
  | [] => rfl
  | a :: l => by
    have ih := sum_div_add_sum_mod f W l
    have ha := Nat.div_add_mod (f a) W
    simp only [List.map_cons, List.sum_cons, Nat.mul_add]
    omega

theorem sum_mod_le (f : α → ℕ) {W : ℕ} (h : 0 < W) : ∀ l : List α,
    (l.map fun a => f a % W).sum ≤ W * l.length
  | [] => by simp
  | a :: l => by
    have ih := sum_mod_le f h l
    have ha := Nat.mod_lt (f a) h
    simp only [List.map_cons, List.sum_cons, List.length_cons, Nat.mul_succ]
    omega

section Proportional

variable {w : α → ℕ} {l : List α} (target : ℕ)

theorem mul_sum_floor :
    (l.map w).sum * (l.map fun a => w a * target / (l.map w).sum).sum +
      (l.map fun a => w a * target % (l.map w).sum).sum = (l.map w).sum * target := by
  rw [sum_div_add_sum_mod fun a => w a * target, List.sum_map_mul_right]

variable (h : 0 < (l.map w).sum)
include h

theorem sum_floor_le : (l.map fun a => w a * target / (l.map w).sum).sum ≤ target := by
  have hmul := mul_sum_floor (w := w) (l := l) target
  exact Nat.le_of_mul_le_mul_left (by omega) h

/-- **What rounding down leaves over is at most one unit a place.** -/
theorem leftover_le_length :
    target - (l.map fun a => w a * target / (l.map w).sum).sum ≤ l.length := by
  have hmul := mul_sum_floor (w := w) (l := l) target
  have hmod := sum_mod_le (fun a => w a * target) h l
  refine Nat.le_of_mul_le_mul_left ?_ h
  rw [Nat.mul_sub]
  omega

end Proportional

end HoldemPlatform.Lib.Shares
