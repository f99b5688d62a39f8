import Mathlib.Data.List.Infix

/-!
# Stretches of a List

A stretch is a block of neighbours that all meet a condition. `StretchBound p l m n` bounds the stretches
of a list that grows at its end: none is longer than `n`, and the one at the end is not longer than `m`.
-/

namespace HoldemPlatform.Lib.Stretches

variable {α : Type} {p : α → Prop} {l : List α} {m n : ℕ} {x : α}

structure StretchBound (p : α → Prop) (l : List α) (m n : ℕ) : Prop where
  last : ∀ block, block <:+ l → (∀ x ∈ block, p x) → block.length ≤ m
  all : ∀ block, block <:+: l → (∀ x ∈ block, p x) → block.length ≤ n

theorem stretchBound_nil (m n : ℕ) : StretchBound p [] m n := by
  refine ⟨fun block h _ => ?_, fun block h _ => ?_⟩
  · rw [List.suffix_nil.1 h]
    exact Nat.zero_le m
  · rw [List.infix_nil.1 h]
    exact Nat.zero_le n

theorem StretchBound.mono (h : StretchBound p l m n) {m' : ℕ} (hm : m ≤ m') : StretchBound p l m' n :=
  ⟨fun block hblock hp => (h.last block hblock hp).trans hm, h.all⟩

/-- A new member that meets the condition makes the last stretch longer. -/
theorem StretchBound.grow (h : StretchBound p l m n) (hm : m < n) (x : α) :
    StretchBound p (l ++ [x]) (m + 1) n := by
  have hlast : ∀ block, block <:+ l ++ [x] → (∀ y ∈ block, p y) → block.length ≤ m + 1 := by
    intro block hblock hp
    rcases List.suffix_concat_iff.1 hblock with rfl | ⟨t, rfl, ht⟩
    · exact Nat.zero_le _
    · rw [List.length_append]
      exact Nat.succ_le_succ (h.last t ht fun y hy => hp y (List.mem_append_left _ hy))
  refine ⟨hlast, fun block hblock hp => ?_⟩
  rcases List.infix_concat_iff.1 hblock with hblock | hblock
  · exact (hlast block hblock hp).trans hm
  · exact h.all block hblock hp

/-- A new member that does not meet it ends the last stretch. -/
theorem StretchBound.cut (h : StretchBound p l m n) (hx : ¬ p x) : StretchBound p (l ++ [x]) 0 n := by
  have hlast : ∀ block, block <:+ l ++ [x] → (∀ y ∈ block, p y) → block.length ≤ 0 := by
    intro block hblock hp
    rcases List.suffix_concat_iff.1 hblock with rfl | ⟨t, rfl, -⟩
    · exact Nat.zero_le _
    · exact absurd (hp x (List.mem_append_right _ (List.mem_singleton_self x))) hx
  refine ⟨hlast, fun block hblock hp => ?_⟩
  rcases List.infix_concat_iff.1 hblock with hblock | hblock
  · exact (hlast block hblock hp).trans (Nat.zero_le n)
  · exact h.all block hblock hp

end HoldemPlatform.Lib.Stretches
