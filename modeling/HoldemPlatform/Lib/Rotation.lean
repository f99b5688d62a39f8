import Mathlib.Data.List.Count
import Mathlib.Data.List.Rotate

/-!
# Going Around a Table

The places of a table are a list without repetitions, and a turn order is a rotation of it. A search
that starts after one place and wraps around is a search in the rotated list (`findSome?_around`);
seen from the place it started at, it finds the first of the others that passes, or comes back to
where it began (`find?_around_cases`). `isRotated_pass` is the turn order from the place so found. A place
that is found by counting on, modulo the length, is met once in every full round (`countP_around`).
-/

namespace HoldemPlatform.Lib.Rotation

variable {α : Type}

/-- Counting on from `start`, modulo the length, walks along the rotated list. -/
theorem map_around (l : List α) (start : ℕ) :
    ((List.range' start l.length).map fun k => l[k % l.length]?) = (l.rotate start).map some := by
  refine List.ext_getElem (by simp) fun k hk _ => ?_
  have hlt : k < l.length := by simpa using hk
  simp only [List.getElem_map, List.getElem_range', List.getElem_rotate]
  rw [show start + 1 * k = k + start by omega]
  exact List.getElem?_eq_getElem (Nat.mod_lt _ (by omega))

/-- A search over the places after `start`, modulo the length, is a search in the rotated list. -/
theorem findSome?_around (l : List α) (start : ℕ) (ok : α → Bool) :
    ((List.range' 1 l.length).findSome? fun step =>
      (l[(start + step) % l.length]?).filter ok) = (l.rotate (start + 1)).find? ok := by
  have hmap : ((List.range' 1 l.length).map fun step => l[(start + step) % l.length]?) =
      (l.rotate (start + 1)).map some := by
    rw [← map_around, ← List.map_add_range', List.map_map]
    rfl
  have hcomp : ∀ places : List ℕ,
      (places.findSome? fun step => (l[(start + step) % l.length]?).filter ok) =
        (places.map fun step => l[(start + step) % l.length]?).findSome? (Option.filter ok) := by
    intro places
    rw [List.findSome?_map]
    rfl
  rw [hcomp, hmap, List.findSome?_map, List.find?_eq_findSome?_guard]
  refine congrArg (List.findSome? · _) (funext fun x => ?_)
  by_cases hx : ok x <;> simp [Option.guard, hx]

theorem map_eq_range' {δ : Type} {f : δ → ℕ} : ∀ {d : δ} {w : List δ},
    (d :: w).IsChain (fun x y => f y = f x + 1) → (d :: w).map f = List.range' (f d) (w.length + 1)
  | d, [], _ => rfl
  | d, e :: w, h => by
    obtain ⟨hnext, hrest⟩ := List.isChain_cons_cons.1 h
    rw [List.map_cons, map_eq_range' hrest, hnext]
    rfl

/-- **Every place has its turn once** in as many consecutive turns as there are places. -/
theorem countP_around [DecidableEq α] {l : List α} (hn : l.Nodup) {a : α} (ha : a ∈ l) {δ : Type}
    {f : δ → ℕ} {w : List δ} (hchain : w.IsChain fun x y => f y = f x + 1)
    (hlen : w.length = l.length) : (w.countP fun d => l[f d % l.length]? = some a) = 1 := by
  cases w with
  | nil => simp [List.length_eq_zero_iff.1 hlen.symm] at ha
  | cons d w =>
    calc ((d :: w).countP fun d => l[f d % l.length]? = some a)
        = ((d :: w).map f).countP (fun k => l[k % l.length]? = some a) := by
          rw [List.countP_map]
          rfl
      _ = ((List.range' (f d) l.length).map fun k => l[k % l.length]?).count (some a) := by
          rw [map_eq_range' hchain, ← hlen, List.count, List.countP_map, List.length_cons]
          exact List.countP_congr fun k _ => by simp
      _ = (l.rotate (f d)).count a := by
          rw [map_around, List.count_map_of_injective _ _ fun _ _ => Option.some.inj]
      _ = 1 := List.count_eq_one_of_mem (List.nodup_rotate.2 hn) (List.mem_rotate.2 ha)

/-- In a list without repetitions the rotation is fixed by the element it starts with. -/
theorem rotate_of_isRotated {l rest : List α} {a : α} {i : ℕ} (hn : l.Nodup)
    (h : l ~r (a :: rest)) (hi : l[i]? = some a) : l.rotate i = a :: rest := by
  obtain ⟨n, hle, hrot⟩ := List.isRotated_iff_mod.1 h
  have hpos : 0 < l.length := by
    rw [← List.length_rotate l n, hrot]
    simp
  have hlt : n % l.length < l.length := Nat.mod_lt _ hpos
  rw [← List.rotate_mod] at hrot
  have hhead := List.head?_rotate hlt
  rw [hrot, List.head?_cons] at hhead
  have heq := (List.getElem?_inj hlt hn).1 (hhead.symm.trans hi.symm)
  rw [← heq, hrot]

theorem idxOf?_of_getElem? [DecidableEq α] {l : List α} {a : α} {i : ℕ} (hn : l.Nodup)
    (h : l[i]? = some a) : l.idxOf? a = some i := by
  obtain ⟨hlt, rfl⟩ := List.getElem?_eq_some_iff.1 h
  refine List.idxOf?_eq_some_iff.2 ⟨hlt, rfl, fun j hj heq => ?_⟩
  have hji := hn.getElem_inj_iff.1 heq
  omega

theorem getElem?_of_idxOf? [DecidableEq α] {l : List α} {a : α} {i : ℕ} (h : l.idxOf? a = some i) :
    l[i]? = some a := by
  obtain ⟨hlt, heq, -⟩ := List.idxOf?_eq_some_iff.1 h
  rw [List.getElem?_eq_getElem hlt, heq]

theorem rotate_succ_of_rotate {l rest : List α} {a : α} {i : ℕ} (h : l.rotate i = a :: rest) :
    l.rotate (i + 1) = rest ++ [a] := by
  rw [← List.rotate_rotate, h, List.rotate_cons_succ, List.rotate_zero]

theorem exists_isRotated {l : List α} {a : α} (h : a ∈ l) : ∃ rest, l ~r (a :: rest) := by
  obtain ⟨pre, post, rfl⟩ := List.append_of_mem h
  exact ⟨post ++ pre, List.isRotated_append⟩

/-- The turn order from the place after some that were passed over. -/
theorem isRotated_pass {l pre post : List α} {a b : α} (h : l ~r (a :: (pre ++ b :: post))) :
    l ~r (b :: (post ++ a :: pre)) :=
  h.trans (@List.isRotated_append _ (a :: pre) (b :: post))

/-- What a search finds that starts after `a` and ends at `a`. -/
theorem find?_around_cases {rest : List α} {a b : α} {ok : α → Bool}
    (h : (rest ++ [a]).find? ok = some b) :
    (∃ pre post, rest = pre ++ b :: post ∧ (∀ x ∈ pre, ok x = false) ∧ ok b = true) ∨
    (b = a ∧ (∀ x ∈ rest, ok x = false) ∧ ok a = true) := by
  rw [List.find?_append] at h
  cases hrest : rest.find? ok with
  | some c =>
    rw [hrest] at h
    cases h
    obtain ⟨hok, pre, post, rfl, hpre⟩ := List.find?_eq_some_iff_append.1 hrest
    exact .inl ⟨pre, post, rfl, fun x hx => by simpa using hpre x hx, hok⟩
  | none =>
    rw [hrest, Option.none_or, List.find?_singleton] at h
    split_ifs at h with hok
    cases h
    exact .inr ⟨rfl, fun x hx => by simpa using List.find?_eq_none.1 hrest x hx, hok⟩

end HoldemPlatform.Lib.Rotation
