import Mathlib.Data.List.AList
import Mathlib.Algebra.BigOperators.Group.List.Basic
import Mathlib.Algebra.BigOperators.Group.Finset.Basic
import Mathlib.Algebra.Order.Ring.Nat

/-! # Finite maps with totals

A hash map is a list of entries without repeated keys, in the order an iteration visits them; the
operations are those of `AList`. The *total* of a map under a weight is the sum over its entries,
and `total_insert` is the rule for it: an insertion adds the new weight and takes the old one away. -/

namespace HoldemPlatform.Lib.FiniteMap

/-- A finite map, as the list of its entries in iteration order. -/
abbrev HashMap (K V : Type) := AList fun _ : K => V

variable {K V : Type}

def pairs (m : HashMap K V) : List (K × V) := m.entries.map fun e => (e.1, e.2)

/-- The sum of the weights of the entries. -/
def total (f : V → ℕ) (m : HashMap K V) : ℕ := ((pairs m).map fun e => f e.2).sum

theorem nodup_pairs_fst (m : HashMap K V) : ((pairs m).map Prod.fst).Nodup := by
  have h : (pairs m).map Prod.fst = m.keys := by
    simp only [pairs, List.map_map, AList.keys, List.keys]
    rfl
  rw [h]; exact m.keys_nodup

/-- What is made of the entries of a map, one for each entry at most and under its key, has the keys at
most once. -/
theorem nodup_filterMap_key {E : Type} {key : E → K} {make : K × V → Option E}
    (hkey : ∀ p e, make p = some e → key e = p.1) : ∀ {entries : List (K × V)},
    (entries.map Prod.fst).Nodup → ((entries.filterMap make).map key).Nodup
  | [], _ => List.nodup_nil
  | p :: entries, h => by
    rw [List.map_cons, List.nodup_cons] at h
    have ih := nodup_filterMap_key hkey h.2
    cases hp : make p with
    | none => rwa [List.filterMap_cons_none hp]
    | some e =>
      rw [List.filterMap_cons_some hp, List.map_cons, List.nodup_cons]
      refine ⟨fun hmem => h.1 ?_, ih⟩
      obtain ⟨e', he', heq⟩ := List.mem_map.1 hmem
      obtain ⟨q, hq, hmake⟩ := List.mem_filterMap.1 he'
      rw [← hkey p e hp, ← heq, hkey q e' hmake]
      exact List.mem_map_of_mem hq

theorem total_empty (f : V → ℕ) : total f (∅ : HashMap K V) = 0 := rfl

theorem total_eq (f : V → ℕ) (m : HashMap K V) :
    total f m = (m.entries.map fun e => f e.2).sum := by
  simp only [total, pairs, List.map_map]
  rfl

variable [DecidableEq K]

/-- The weight stored under a key, `0` if there is none. -/
def weight (f : V → ℕ) (m : HashMap K V) (k : K) : ℕ := ((m.lookup k).map f).getD 0

theorem weight_empty (f : V → ℕ) (k : K) : weight f (∅ : HashMap K V) k = 0 := rfl

theorem weight_of_lookup {f : V → ℕ} {m : HashMap K V} {k : K} {v : V}
    (h : m.lookup k = some v) : weight f m k = f v := by
  simp [weight, h]

theorem weight_of_lookup_none {f : V → ℕ} {m : HashMap K V} {k : K} (h : m.lookup k = none) :
    weight f m k = 0 := by
  simp [weight, h]

theorem weight_eq_getD {f : V → ℕ} {d : V} (hd : f d = 0) (m : HashMap K V) (k : K) :
    weight f m k = f ((m.lookup k).getD d) := by
  cases h : m.lookup k <;> simp [weight, h, hd]

theorem mem_pairs {m : HashMap K V} {k : K} {v : V} : (k, v) ∈ pairs m ↔ m.lookup k = some v := by
  have h := @AList.mem_lookup_iff K (fun _ => V) _ k v m
  rw [Option.mem_def] at h
  rw [h]
  simp only [pairs, List.mem_map]
  constructor
  · rintro ⟨⟨k', v'⟩, he, hkv⟩
    cases hkv
    exact he
  · intro he
    exact ⟨⟨k, v⟩, he, rfl⟩

theorem weight_insert_self (f : V → ℕ) (m : HashMap K V) (k : K) (v : V) :
    weight f (m.insert k v) k = f v := by
  simp [weight]

theorem weight_insert_ne (f : V → ℕ) (m : HashMap K V) {k k' : K} (v : V) (h : k ≠ k') :
    weight f (m.insert k' v) k = weight f m k := by
  simp [weight, AList.lookup_insert_ne h]

-- Erasing a key takes its weight out of the sum; the induction is on the entries.
theorem sum_kerase (f : V → ℕ) (k : K) : ∀ l : List (Sigma fun _ : K => V),
    ((l.kerase k).map fun e => f e.2).sum + ((l.dlookup k).map f).getD 0 =
      (l.map fun e => f e.2).sum
  | [] => by simp
  | e :: l => by
    by_cases h : k = e.1
    · rw [List.kerase_cons_eq h]
      obtain ⟨k', v⟩ := e
      subst h
      simp [Nat.add_comm]
    · rw [List.kerase_cons_ne h, List.dlookup_cons_ne _ _ h]
      have ih := sum_kerase f k l
      simp only [List.map_cons, List.sum_cons]
      omega

/-- **The total after an insertion.** -/
theorem total_insert (f : V → ℕ) (m : HashMap K V) (k : K) (v : V) :
    total f (m.insert k v) + weight f m k = total f m + f v := by
  have h := sum_kerase f k m.entries
  rw [total_eq, total_eq, AList.entries_insert]
  simp only [List.map_cons, List.sum_cons, weight, AList.lookup]
  omega

theorem weight_le_total (f : V → ℕ) (m : HashMap K V) (k : K) : weight f m k ≤ total f m := by
  have h := sum_kerase f k m.entries
  rw [total_eq]
  simp only [weight, AList.lookup]
  omega

/-- **The total is the sum of the weights over all keys**, those without an entry included. -/
theorem total_eq_sum [Fintype K] (f : V → ℕ) (m : HashMap K V) :
    total f m = ∑ k, weight f m k := by
  induction m using AList.insertRec with
  | H0 => exact (Finset.sum_eq_zero fun _ _ => rfl).symm
  | IH k v m hk ih =>
    have hins := total_insert f m k v
    have hzero : weight f m k = 0 := weight_of_lookup_none (AList.lookup_eq_none.2 hk)
    have hrest : ∑ x ∈ Finset.univ.erase k, weight f (m.insert k v) x =
        ∑ x ∈ Finset.univ.erase k, weight f m x :=
      Finset.sum_congr rfl fun x hx => weight_insert_ne f m v (Finset.ne_of_mem_erase hx)
    have hnew := Finset.add_sum_erase Finset.univ (weight f (m.insert k v)) (Finset.mem_univ k)
    have hold := Finset.add_sum_erase Finset.univ (weight f m) (Finset.mem_univ k)
    rw [weight_insert_self] at hnew
    omega

/-! ### Lookups after updates -/

theorem lookup_insert_cases {m : HashMap K V} {k k' : K} {v v' : V}
    (h : (m.insert k v).lookup k' = some v') :
    (k' = k ∧ v' = v) ∨ (k' ≠ k ∧ m.lookup k' = some v') := by
  by_cases hk : k' = k
  · subst hk
    rw [AList.lookup_insert] at h
    exact .inl ⟨rfl, (Option.some.inj h).symm⟩
  · rw [AList.lookup_insert_ne hk] at h
    exact .inr ⟨hk, h⟩

theorem lookup_erase_some {m : HashMap K V} {k k' : K} {v : V}
    (h : (m.erase k).lookup k' = some v) : k' ≠ k ∧ m.lookup k' = some v := by
  by_cases hk : k' = k
  · subst hk
    rw [AList.lookup_erase] at h
    cases h
  · rw [AList.lookup_erase_ne hk] at h
    exact ⟨hk, h⟩

theorem mem_of_lookup_some {m : HashMap K V} {k : K} {v : V} (h : m.lookup k = some v) : k ∈ m :=
  AList.lookup_isSome.1 (by rw [h]; rfl)

theorem exists_lookup_of_mem {m : HashMap K V} {k : K} (h : k ∈ m) : ∃ v, m.lookup k = some v :=
  Option.isSome_iff_exists.1 (AList.lookup_isSome.2 h)

theorem lookup_insert_of_some {m : HashMap K V} {k k' : K} {v v' : V} (hnew : k ∉ m)
    (h : m.lookup k' = some v') : (m.insert k v).lookup k' = some v' := by
  have hne : k' ≠ k := by
    rintro rfl
    rw [AList.lookup_eq_none.2 hnew] at h
    cases h
  rw [AList.lookup_insert_ne hne, h]

def eraseAll (m : HashMap K V) (keys : List K) : HashMap K V := keys.foldl (fun m k => m.erase k) m

theorem lookup_eraseAll (keys : List K) (m : HashMap K V) (k : K) :
    (eraseAll m keys).lookup k = if k ∈ keys then none else m.lookup k := by
  induction keys generalizing m with
  | nil => rfl
  | cons k' keys ih =>
    show (eraseAll (m.erase k') keys).lookup k = _
    rw [ih]
    by_cases hmem : k ∈ keys
    · rw [if_pos hmem, if_pos (List.mem_cons_of_mem k' hmem)]
    · by_cases hk : k = k'
      · rw [if_neg hmem, hk, AList.lookup_erase, if_pos List.mem_cons_self]
      · rw [if_neg hmem, AList.lookup_erase_ne hk, if_neg (by simp [hk, hmem])]

end HoldemPlatform.Lib.FiniteMap
