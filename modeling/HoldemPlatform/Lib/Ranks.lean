import Mathlib.Algebra.Order.BigOperators.Group.List
import Mathlib.Algebra.Ring.Nat
import Mathlib.Data.List.Sort

/-!
# Places in an Order

In a list sorted by a strict order the place of an entry is the number of entries ahead of it, and that
number is the same for every listing of the entries. So what an algorithm does to the first `n` entries of
a sorted list can be said of each entry by itself. With remainders in decreasing order, places that are
less than the sum of the remainders in whole divisors belong to entries with a remainder.
-/

namespace HoldemPlatform.Lib.Ranks

variable {α β : Type} (r : α → α → Prop) [DecidableRel r]

/-- How many entries of the list come before `a`. -/
def ahead (l : List α) (a : α) : ℕ := l.countP fun b => r b a

variable {r}

theorem ahead_perm {l l' : List α} (h : l.Perm l') (a : α) : ahead r l a = ahead r l' a :=
  h.countP_eq _

theorem ahead_map (f : β → α) (l : List β) (b : β) :
    ahead r (l.map f) (f b) = ahead (fun x y => r (f x) (f y)) l b :=
  List.countP_map

/-- The first entry of a sorted list has nobody ahead. -/
theorem ahead_head (hr : ∀ a b, r a b → ¬ r b a) {a : α} {l : List α} (h : ∀ b ∈ l, r a b) :
    ahead r (a :: l) a = 0 := by
  refine List.countP_eq_zero.2 fun b hb => ?_
  rw [decide_eq_true_iff]
  rcases List.mem_cons.1 hb with rfl | hb
  · exact fun hbb => hr b b hbb hbb
  · exact hr a b (h b hb)

theorem ahead_cons {a b : α} {l : List α} (h : r a b) : ahead r (a :: l) b = ahead r l b + 1 :=
  List.countP_cons_of_pos (by simpa using h)

theorem ahead_le (ht : ∀ a b c, r a b → r b c → r a c) {a b : α} (h : r a b) (l : List α) :
    ahead r l a ≤ ahead r l b := by
  refine List.countP_mono_left fun c _ hc => ?_
  rw [decide_eq_true_iff] at hc ⊢
  exact ht c a b hc h

/-- **The place of an entry is the number of entries ahead.** -/
theorem map_zipIdx_eq (hr : ∀ a b, r a b → ¬ r b a) (f : α → ℕ → β) : ∀ {l : List α} (k : ℕ),
    l.Pairwise r → ((l.zipIdx k).map fun p => f p.1 p.2) = l.map fun a => f a (k + ahead r l a)
  | [], _, _ => rfl
  | a :: l, k, h => by
    obtain ⟨ha, hl⟩ := List.pairwise_cons.1 h
    have htail : (l.map fun b => f b (k + 1 + ahead r l b)) =
        l.map fun b => f b (k + ahead r (a :: l) b) := by
      refine List.map_congr_left fun b hb => ?_
      rw [ahead_cons (ha b hb)]
      congr 1
      omega
    rw [List.zipIdx_cons, List.map_cons, map_zipIdx_eq hr f (k + 1) hl, htail, List.map_cons,
      ahead_head hr ha, Nat.add_zero]

/-! ### Remainders -/

theorem sum_le_mul_countP {f : α → ℕ} {W : ℕ} : ∀ {l : List α}, (∀ a ∈ l, f a ≤ W) →
    (l.map f).sum ≤ W * l.countP fun a => 0 < f a
  | [], _ => by simp
  | a :: l, h => by
    have ih := sum_le_mul_countP fun b hb => h b (List.mem_cons_of_mem _ hb)
    have ha := h a List.mem_cons_self
    rw [List.map_cons, List.sum_cons, List.countP_cons]
    simp only [decide_eq_true_eq]
    split_ifs with hpos
    · rw [Nat.mul_add, Nat.mul_one]
      omega
    · rw [Nat.add_zero]
      omega

/-- **A place below the leftover has a remainder**, if the entries with a remainder come first. -/
theorem pos_of_ahead_lt {f : α → ℕ} {W n : ℕ} {l : List α} (hpos : 0 < W) (hW : ∀ a ∈ l, f a ≤ W)
    (hsum : (l.map f).sum = W * n) {a : α} (horder : ∀ b ∈ l, f a < f b → r b a)
    (hlt : ahead r l a < n) : 0 < f a := by
  by_contra hzero
  have hcount : (l.countP fun b => 0 < f b) ≤ ahead r l a :=
    List.countP_mono_left fun b hb hb0 => by
      rw [decide_eq_true_iff] at hb0 ⊢
      exact horder b hb (by omega)
  have hle := sum_le_mul_countP hW
  have hmul : W * (l.countP fun b => 0 < f b) ≤ W * ahead r l a := Nat.mul_le_mul_left W hcount
  have hstrict : W * ahead r l a < W * n := Nat.mul_lt_mul_of_pos_left hlt hpos
  omega

end HoldemPlatform.Lib.Ranks
