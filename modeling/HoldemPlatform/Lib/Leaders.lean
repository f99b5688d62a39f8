import Mathlib.Data.List.Basic
import Mathlib.Data.List.Induction
import Mathlib.Order.Lattice

/-!
# The Leaders of a List

The leaders of a list are its entries of the highest rank. A scan that keeps the best rank seen so far,
with the entries that hold it, ends with the leaders in the order of the list (`foldl_consider`), and who
leads does not depend on that order.
-/

namespace HoldemPlatform.Lib.Leaders

variable {α R : Type} [LinearOrder R] (rank : α → R)

/-- The entries of the highest rank. -/
def leaders (l : List α) : List α := l.filter fun a => ∀ b ∈ l, rank b ≤ rank a

/-- One entry of the scan: the best rank so far and those who hold it. -/
def consider (best : Option R × List α) (a : α) : Option R × List α :=
  match best.1 with
  | none => (some (rank a), [a])
  | some top =>
    if top < rank a then (some (rank a), [a])
    else if rank a = top then (best.1, best.2 ++ [a])
    else best

/-- Where the scan stands after the entries `l`. -/
inductive Scanned (l : List α) : Option R × List α → Prop
  | start (hnil : l = []) : Scanned l (none, [])
  | seen (top : R) (hheld : ∃ a ∈ l, rank a = top) (hmax : ∀ a ∈ l, rank a ≤ top) :
      Scanned l (some top, l.filter fun a => rank a = top)

variable {rank}

theorem scanned_concat {l : List α} {best : Option R × List α} (h : Scanned rank l best) (a : α) :
    Scanned rank (l ++ [a]) (consider rank best a) := by
  cases h with
  | start hnil =>
    subst hnil
    have hseen : Scanned rank [a] _ := .seen (rank a) ⟨a, by simp, rfl⟩ (by simp)
    simpa [consider] using hseen
  | seen top hheld hmax =>
    unfold consider
    dsimp only
    rcases lt_trichotomy top (rank a) with hlt | heq | hgt
    · -- a new best rank, which nobody before held
      rw [if_pos hlt]
      have hnone : (l.filter fun b => rank b = rank a) = [] := by
        refine List.filter_eq_nil_iff.2 fun b hb => ?_
        have hb' := lt_of_le_of_lt (hmax b hb) hlt
        simpa using hb'.ne
      have hseen : Scanned rank (l ++ [a]) _ := .seen (rank a) ⟨a, by simp, rfl⟩ fun b hb => by
        rcases List.mem_append.1 hb with hb | hb
        · exact (lt_of_le_of_lt (hmax b hb) hlt).le
        · rw [List.mem_singleton.1 hb]
      simpa [hnone] using hseen
    · rw [if_neg heq.not_lt, if_pos heq.symm]
      have hseen : Scanned rank (l ++ [a]) _ := .seen top ⟨a, by simp, heq.symm⟩ fun b hb => by
        rcases List.mem_append.1 hb with hb | hb
        · exact hmax b hb
        · rw [List.mem_singleton.1 hb, heq]
      simpa [heq.symm] using hseen
    · rw [if_neg hgt.not_gt, if_neg hgt.ne]
      obtain ⟨b, hb, hrank⟩ := hheld
      have hseen : Scanned rank (l ++ [a]) _ :=
        .seen top ⟨b, List.mem_append_left _ hb, hrank⟩ fun c hc => by
          rcases List.mem_append.1 hc with hc | hc
          · exact hmax c hc
          · rw [List.mem_singleton.1 hc]
            exact hgt.le
      simpa [hgt.ne] using hseen

theorem scanned_foldl (rank : α → R) (l : List α) : Scanned rank l (l.foldl (consider rank) (none, [])) := by
  induction l using List.reverseRecOn with
  | nil => exact .start rfl
  | append_singleton l a ih =>
    rw [List.foldl_append]
    exact scanned_concat ih a

/-- **The scan ends with the leaders.** -/
theorem foldl_consider (l : List α) : (l.foldl (consider rank) (none, [])).2 = leaders rank l := by
  have hscan := scanned_foldl rank l
  generalize l.foldl (consider rank) (none, []) = best at hscan
  cases hscan with
  | start hnil =>
    subst hnil
    rfl
  | seen top hheld hmax =>
    obtain ⟨c, hc, rfl⟩ := hheld
    refine List.filter_congr fun a ha => ?_
    rw [decide_eq_decide]
    constructor
    · intro heq b hb
      rw [heq]
      exact hmax b hb
    · intro hall
      exact le_antisymm (hmax a ha) (hall c hc)

theorem mem_leaders {l : List α} {a : α} : a ∈ leaders rank l ↔ a ∈ l ∧ ∀ b ∈ l, rank b ≤ rank a := by
  rw [leaders, List.mem_filter, decide_eq_true_iff]

theorem leaders_ne_nil (rank : α → R) {l : List α} (h : l ≠ []) : leaders rank l ≠ [] := by
  rw [← foldl_consider]
  have hscan := scanned_foldl rank l
  generalize l.foldl (consider rank) (none, []) = best at hscan
  cases hscan with
  | start hnil => exact absurd hnil h
  | seen top hheld hmax =>
    obtain ⟨a, ha, hrank⟩ := hheld
    exact List.ne_nil_of_mem (List.mem_filter.2 ⟨ha, by simpa using hrank⟩)

end HoldemPlatform.Lib.Leaders
