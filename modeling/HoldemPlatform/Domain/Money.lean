import Mathlib.Order.Basic
import Mathlib.Order.Lattice
import Mathlib.Tactic.NormNum

/-! # Chips

Amounts of chips are `u128` values. Additions and subtractions of the engine and of the settlement
service are checked; the places that compute on the raw `u128` go through `ofU128`, which wraps
around. `subOrZero` and `addOr` are the checked operations followed by `unwrap_or`. -/

namespace HoldemPlatform.Domain.Money

structure Chips where
  asU128 : ℕ
  lt : asU128 < 2 ^ 128
deriving DecidableEq

inductive MoneyError where
  | overflow
  | underflow
deriving DecidableEq, Repr

namespace Chips

/-- The newtype around raw `u128` arithmetic, modulo `2 ^ 128`. -/
def ofU128 (n : ℕ) : Chips := ⟨n % 2 ^ 128, Nat.mod_lt _ (by norm_num)⟩

instance : Zero Chips := ⟨⟨0, by norm_num⟩⟩

@[ext] theorem ext {a b : Chips} (h : a.asU128 = b.asU128) : a = b := by
  cases a; cases b; simp_all

instance : LinearOrder Chips := LinearOrder.lift' asU128 fun _ _ h => ext h

def max128 : ℕ := 2 ^ 128 - 1

theorem add_lt_of_le_max {a b : ℕ} (ha : a < 2 ^ 128) (h : b ≤ max128 - a) : a + b < 2 ^ 128 := by
  unfold max128 at h
  omega

-- The bound is on `b` alone, so that evaluation never counts down a sum with an unknown term.
def checkedAdd (a b : Chips) : Except MoneyError Chips :=
  if h : b.asU128 ≤ max128 - a.asU128 then .ok ⟨a.asU128 + b.asU128, add_lt_of_le_max a.lt h⟩
  else .error .overflow

def checkedSub (a b : Chips) : Except MoneyError Chips :=
  if b.asU128 ≤ a.asU128 then .ok ⟨a.asU128 - b.asU128, by have := a.lt; omega⟩
  else .error .underflow

/-- `a.checked_sub(b).unwrap_or(Chips::ZERO)`. -/
def subOrZero (a b : Chips) : Chips := ⟨a.asU128 - b.asU128, by have := a.lt; omega⟩

/-- `a.checked_add(b).unwrap_or(default)`. -/
def addOr (a b default : Chips) : Chips :=
  if h : b.asU128 ≤ max128 - a.asU128 then ⟨a.asU128 + b.asU128, add_lt_of_le_max a.lt h⟩
  else default

@[simp] theorem asU128_zero : (0 : Chips).asU128 = 0 := rfl

@[simp] theorem asU128_subOrZero (a b : Chips) : (a.subOrZero b).asU128 = a.asU128 - b.asU128 := rfl

theorem asU128_ofU128 {n : ℕ} (h : n < 2 ^ 128) : (ofU128 n).asU128 = n := Nat.mod_eq_of_lt h

theorem le_iff {a b : Chips} : a ≤ b ↔ a.asU128 ≤ b.asU128 := Iff.rfl

theorem lt_iff {a b : Chips} : a < b ↔ a.asU128 < b.asU128 := by
  rw [lt_iff_not_ge, le_iff, Nat.not_le]

theorem eq_zero_iff {a : Chips} : a = 0 ↔ a.asU128 = 0 :=
  ⟨fun h => by rw [h]; rfl, fun h => ext h⟩

theorem checkedSub_getD (a b : Chips) :
    (match a.checkedSub b with | .ok c => c | .error _ => 0) = a.subOrZero b := by
  unfold checkedSub
  split_ifs with h
  · rfl
  · exact ext (by simp; omega)

theorem checkedAdd_getD (a b default : Chips) :
    (match a.checkedAdd b with | .ok c => c | .error _ => default) = a.addOr b default := by
  unfold checkedAdd addOr
  split_ifs <;> rfl

theorem checkedAdd_eq_ok {a b c : Chips} :
    a.checkedAdd b = .ok c ↔ c.asU128 = a.asU128 + b.asU128 := by
  unfold checkedAdd
  split_ifs with h
  · constructor
    · intro hc; cases hc; rfl
    · intro hc; congr 1; exact ext hc.symm
  · constructor
    · intro hc; cases hc
    · intro hc; have := c.lt; unfold max128 at h; omega

theorem asU128_addOr {a b : Chips} (default : Chips) (h : a.asU128 + b.asU128 < 2 ^ 128) :
    (a.addOr b default).asU128 = a.asU128 + b.asU128 := by
  have hfit : b.asU128 ≤ max128 - a.asU128 := by
    unfold max128
    omega
  rw [addOr, dif_pos hfit]

theorem checkedAdd_of_lt {a b : Chips} (h : a.asU128 + b.asU128 < 2 ^ 128) :
    a.checkedAdd b = .ok ⟨a.asU128 + b.asU128, h⟩ :=
  checkedAdd_eq_ok.2 rfl

theorem checkedAdd_of_not_lt {a b : Chips} (h : ¬ a.asU128 + b.asU128 < 2 ^ 128) :
    a.checkedAdd b = .error .overflow := by
  have ha := a.lt
  exact dif_neg (by unfold max128; omega)

theorem checkedSub_eq_ok {a b c : Chips} :
    a.checkedSub b = .ok c ↔ b.asU128 ≤ a.asU128 ∧ c.asU128 = a.asU128 - b.asU128 := by
  unfold checkedSub
  split_ifs with h
  · constructor
    · intro hc; cases hc; exact ⟨h, rfl⟩
    · intro hc; congr 1; exact ext hc.2.symm
  · constructor
    · intro hc; cases hc
    · intro hc; exact absurd hc.1 h

end Chips

end HoldemPlatform.Domain.Money
