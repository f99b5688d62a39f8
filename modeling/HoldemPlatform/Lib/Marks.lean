import Mathlib.Data.List.Basic

/-!
# Logs Cut at Marks

A log grows at its end, and some of its entries are marks. `LastMark` is the last mark with what came
after it; `Between` is a mark, what came after it, and the next mark. The rules say how both change
when entries are appended: entries that are no marks extend the open piece, a mark closes it.
-/

namespace HoldemPlatform.Lib.Marks

variable {α : Type} {mark : α → Prop}

/-- `a` is the last mark of the log and `mid` is what follows it. -/
structure LastMark (mark : α → Prop) (log : List α) (a : α) (mid : List α) : Prop where
  split : ∃ pre, log = pre ++ a :: mid
  isMark : mark a
  noMark : ∀ e ∈ mid, ¬ mark e

/-- `a` and `b` are consecutive marks of the log and `mid` is what lies between them. -/
structure Between (mark : α → Prop) (log : List α) (a : α) (mid : List α) (b : α) : Prop where
  split : ∃ pre post, log = pre ++ a :: mid ++ b :: post
  left : mark a
  right : mark b
  noMark : ∀ e ∈ mid, ¬ mark e

theorem LastMark.append {log mid new : List α} {a : α} (h : LastMark mark log a mid)
    (hnew : ∀ e ∈ new, ¬ mark e) : LastMark mark (log ++ new) a (mid ++ new) := by
  obtain ⟨pre, rfl⟩ := h.split
  refine ⟨⟨pre, by simp⟩, h.isMark, fun e he => ?_⟩
  rcases List.mem_append.1 he with he | he
  · exact h.noMark e he
  · exact hnew e he

/-- What was appended after the last mark is the end of what follows it. -/
theorem lastMark_of_append {log new mid : List α} {a : α} (hnew : ∀ e ∈ new, ¬ mark e)
    (h : LastMark mark (log ++ new) a mid) :
    ∃ old, mid = old ++ new ∧ LastMark mark log a old := by
  obtain ⟨pre, heq⟩ := h.split
  rcases List.append_eq_append_iff.1 heq with ⟨cs, -, hcs⟩ | ⟨cs, hlog, hcs⟩
  · exact absurd h.isMark (hnew a (by rw [hcs]; simp))
  · cases cs with
    | nil =>
      rw [List.nil_append] at hcs
      exact absurd h.isMark (hnew a (by rw [← hcs]; simp))
    | cons c cs =>
      obtain ⟨rfl, rfl⟩ := List.cons.inj hcs
      exact ⟨cs, rfl, ⟨pre, hlog⟩, h.isMark, fun e he => h.noMark e (List.mem_append_left _ he)⟩

theorem lastMark_append_mark {log new : List α} {a : α} (ha : mark a) (hnew : ∀ e ∈ new, ¬ mark e) :
    LastMark mark (log ++ a :: new) a new :=
  ⟨⟨log, rfl⟩, ha, hnew⟩

theorem LastMark.unique {log mid mid' : List α} {a a' : α} (h : LastMark mark log a mid)
    (h' : LastMark mark log a' mid') : a = a' ∧ mid = mid' := by
  obtain ⟨pre, rfl⟩ := h.split
  obtain ⟨pre', heq⟩ := h'.split
  rcases List.append_eq_append_iff.1 heq with ⟨cs, -, hcs⟩ | ⟨cs, -, hcs⟩
  · cases cs with
    | nil => exact ⟨(List.cons.inj hcs).1, (List.cons.inj hcs).2⟩
    | cons c cs =>
      obtain ⟨-, rfl⟩ := List.cons.inj hcs
      exact absurd h'.isMark (h.noMark a' (by simp))
  · cases cs with
    | nil => exact ⟨(List.cons.inj hcs).1.symm, (List.cons.inj hcs).2.symm⟩
    | cons c cs =>
      obtain ⟨-, rfl⟩ := List.cons.inj hcs
      exact absurd h.isMark (h'.noMark a (by simp))

theorem Between.append {log mid : List α} {a b : α} (h : Between mark log a mid b) (new : List α) :
    Between mark (log ++ new) a mid b := by
  obtain ⟨pre, post, rfl⟩ := h.split
  exact ⟨⟨pre, post ++ new, by simp⟩, h.left, h.right, h.noMark⟩

/-- The last mark and the mark that is appended to the log are consecutive. -/
theorem LastMark.between {log mid new : List α} {a b : α} (h : LastMark mark log a mid)
    (hb : mark b) : Between mark (log ++ b :: new) a mid b := by
  obtain ⟨pre, rfl⟩ := h.split
  exact ⟨⟨pre, new, rfl⟩, h.isMark, hb, h.noMark⟩

/-- Entries that are no marks make no new pair of consecutive marks. -/
theorem between_of_append {log mid new : List α} {a b : α} (hnew : ∀ e ∈ new, ¬ mark e)
    (h : Between mark (log ++ new) a mid b) : Between mark log a mid b := by
  obtain ⟨pre, post, heq⟩ := h.split
  rcases List.append_eq_append_iff.1 heq with ⟨cs, -, hcs⟩ | ⟨cs, hlog, hcs⟩
  · exact absurd h.right (hnew b (by rw [hcs]; simp))
  · cases cs with
    | nil => exact absurd h.right (hnew b (by rw [List.nil_append] at hcs; rw [← hcs]; simp))
    | cons c cs =>
      obtain ⟨rfl, -⟩ := List.cons.inj hcs
      exact ⟨⟨pre, cs, hlog⟩, h.left, h.right, h.noMark⟩

/-- A mark that is appended makes one new pair of consecutive marks, with the last mark before it. -/
theorem between_of_append_mark {log mid new : List α} {a b c : α} (hnew : ∀ e ∈ new, ¬ mark e)
    (h : Between mark (log ++ c :: new) a mid b) :
    Between mark log a mid b ∨ (b = c ∧ LastMark mark log a mid) := by
  obtain ⟨pre, post, heq⟩ := h.split
  rcases List.append_eq_append_iff.1 heq with ⟨cs, hlog, hcs⟩ | ⟨cs, hlog, hcs⟩
  · cases cs with
    | nil =>
      obtain ⟨rfl, -⟩ := List.cons.inj hcs
      exact .inr ⟨rfl, ⟨pre, by rw [hlog, List.append_nil]⟩, h.left, h.noMark⟩
    | cons d cs =>
      obtain ⟨-, rfl⟩ := List.cons.inj hcs
      exact absurd h.right (hnew b (by simp))
  · cases cs with
    | nil =>
      obtain ⟨rfl, -⟩ := List.cons.inj hcs
      exact .inr ⟨rfl, ⟨pre, by rw [hlog, List.append_nil]⟩, h.left, h.noMark⟩
    | cons d cs =>
      obtain ⟨rfl, -⟩ := List.cons.inj hcs
      exact .inl ⟨⟨pre, cs, hlog⟩, h.left, h.right, h.noMark⟩

end HoldemPlatform.Lib.Marks
