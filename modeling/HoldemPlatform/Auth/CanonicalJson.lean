import HoldemPlatform.Auth.Texts

/-!
# What the Canonical Text Identifies

The canonical text of the parameters tells two values apart exactly if they are not the same up to the
order of the keys in their objects (`canonical_params_identify`). In one direction the keys in order are a
choice of one order, in the other the text determines the value (`render_injective`), and sorting only
permutes the entries.
-/

namespace HoldemPlatform.Auth.CanonicalJson

open HoldemPlatform.Auth.Json HoldemPlatform.Auth.Texts

variable {Num : Type}

/-! ### Values up to the order of keys -/

/-- The keys of every object are distinct. -/
inductive DistinctKeys : Value Num → Prop
  | null : DistinctKeys .null
  | bool (b : Bool) : DistinctKeys (.bool b)
  | number (n : Num) : DistinctKeys (.number n)
  | string (s : String) : DistinctKeys (.string s)
  | array {items : List (Value Num)} (hitems : ∀ v ∈ items, DistinctKeys v) :
    DistinctKeys (.array items)
  | object {map : List (String × Value Num)} (hkeys : (map.map Prod.fst).Nodup)
    (hvalues : ∀ e ∈ map, DistinctKeys e.2) : DistinctKeys (.object map)

/-- The values are equal up to the order of the keys of objects, at every level: the entries of an object
can be put in an order in which the keys are the same and the values the same in this sense. -/
inductive SameValue : Value Num → Value Num → Prop
  | null : SameValue .null .null
  | bool (b : Bool) : SameValue (.bool b) (.bool b)
  | number (n : Num) : SameValue (.number n) (.number n)
  | string (s : String) : SameValue (.string s) (.string s)
  | array {items items' : List (Value Num)} (hitems : List.Forall₂ SameValue items items') :
    SameValue (.array items) (.array items')
  | object {map reordered map' : List (String × Value Num)} (hperm : map.Perm reordered)
    (hkeys : reordered.map Prod.fst = map'.map Prod.fst)
    (hvalues : List.Forall₂ SameValue (reordered.map Prod.snd) (map'.map Prod.snd)) :
    SameValue (.object map) (.object map')

/-! ### Entries in order -/

def canonicalEntry (e : String × Value Num) : String × Value Num := (e.1, canonicalizeJson e.2)

theorem canonicalizeItems_eq_map : ∀ items : List (Value Num),
    canonicalizeItems items = items.map canonicalizeJson
  | [] => rfl
  | v :: rest => by rw [canonicalizeItems, canonicalizeItems_eq_map rest, List.map_cons]

theorem canonicalizeEntries_eq_map : ∀ map : List (String × Value Num),
    canonicalizeEntries map = map.map canonicalEntry
  | [] => rfl
  | (k, v) :: rest => by
    rw [canonicalizeEntries, canonicalizeEntries_eq_map rest, List.map_cons, canonicalEntry]

/-- The order of the entries in a canonical object. -/
def keyLE (a b : String × Value Num) : Prop := a.1 ≤ b.1

instance : DecidableRel (keyLE : String × Value Num → String × Value Num → Prop) :=
  fun a b => inferInstanceAs (Decidable (a.1 ≤ b.1))

instance : Std.Total (keyLE : String × Value Num → String × Value Num → Prop) :=
  ⟨fun a b => le_total a.1 b.1⟩

instance : IsTrans (String × Value Num) keyLE := ⟨fun a b _ hab hbc => le_trans (show a.1 ≤ b.1 from hab) hbc⟩

theorem canonicalizeJson_object (map : List (String × Value Num)) :
    canonicalizeJson (.object map) = .object ((map.map canonicalEntry).insertionSort keyLE) := by
  rw [canonicalizeJson, canonicalizeEntries_eq_map]
  rfl

theorem canonicalizeJson_array (items : List (Value Num)) :
    canonicalizeJson (.array items) = .array (items.map canonicalizeJson) := by
  rw [canonicalizeJson, canonicalizeItems_eq_map]

theorem map_fst_canonicalEntry (map : List (String × Value Num)) :
    (map.map canonicalEntry).map Prod.fst = map.map Prod.fst := by
  rw [List.map_map]
  rfl

/-- **With distinct keys there is one order only.** -/
theorem insertionSort_eq_of_perm {map map' : List (String × Value Num)}
    (hkeys : (map.map Prod.fst).Nodup) (hperm : map.Perm map') :
    map.insertionSort keyLE = map'.insertionSort keyLE := by
  have hsorted : (map.insertionSort keyLE).Perm (map'.insertionSort keyLE) :=
    ((List.perm_insertionSort _ _).trans hperm).trans (List.perm_insertionSort _ _).symm
  refine hsorted.eq_of_pairwise (fun a b ha hb hab hba => ?_) (List.pairwise_insertionSort _ _)
    (List.pairwise_insertionSort _ _)
  have hkey : a.1 = b.1 := le_antisymm (show a.1 ≤ b.1 from hab) hba
  rw [List.mem_insertionSort] at ha hb
  exact List.inj_on_of_nodup_map hkeys ha (hperm.mem_iff.2 hb) hkey

theorem map_canonicalEntry_eq_iff : ∀ {map map' : List (String × Value Num)},
    map.map canonicalEntry = map'.map canonicalEntry ↔ map.map Prod.fst = map'.map Prod.fst ∧
      (map.map Prod.snd).map canonicalizeJson = (map'.map Prod.snd).map canonicalizeJson
  | [], [] => by simp
  | [], _ :: _ => by simp
  | _ :: _, [] => by simp
  | e :: rest, e' :: rest' => by
    simp only [List.map_cons, List.cons.injEq, canonicalEntry, Prod.mk.injEq,
      map_canonicalEntry_eq_iff]
    tauto

/-- Lists whose canonical entries are a permutation of each other are, up to a permutation of the first,
entry by entry the same. -/
theorem exists_reordered {map map' : List (String × Value Num)}
    (h : (map.map canonicalEntry).Perm (map'.map canonicalEntry)) :
    ∃ reordered, map.Perm reordered ∧ reordered.map canonicalEntry = map'.map canonicalEntry := by
  have hself : List.Forall₂ (fun b a => canonicalEntry a = b) (map.map canonicalEntry) map :=
    List.forall₂_map_left_iff.2 (List.forall₂_same.2 fun _ _ => rfl)
  obtain ⟨reordered, hsame, hperm⟩ := List.perm_comp_forall₂ h.symm hself
  refine ⟨reordered, hperm.symm, ?_⟩
  rw [List.forall₂_map_left_iff] at hsame
  have hmaps : List.Forall₂ (· = ·) (reordered.map canonicalEntry) (map'.map canonicalEntry) :=
    List.forall₂_map_left_iff.2 (List.forall₂_map_right_iff.2 hsame.flip)
  rwa [List.forall₂_eq_eq_eq] at hmaps

/-! ### Lists compared item by item -/

theorem map_eq_of_forall₂ {R : Value Num → Value Num → Prop} {items items' : List (Value Num)}
    (h : List.Forall₂ R items items')
    (himp : ∀ v ∈ items, ∀ w, R v w → canonicalizeJson v = canonicalizeJson w) :
    items.map canonicalizeJson = items'.map canonicalizeJson := by
  induction h with
  | nil => rfl
  | cons hvw hrest ih =>
    rw [List.forall_mem_cons] at himp
    rw [List.map_cons, List.map_cons, himp.1 _ hvw, ih himp.2]

theorem forall₂_of_map_eq {R : Value Num → Value Num → Prop} : ∀ {items items' : List (Value Num)},
    items.map canonicalizeJson = items'.map canonicalizeJson →
    (∀ v ∈ items, ∀ w, canonicalizeJson v = canonicalizeJson w → R v w) → List.Forall₂ R items items'
  | [], [], _, _ => .nil
  | [], _ :: _, h, _ => by simp at h
  | _ :: _, [], h, _ => by simp at h
  | v :: items, w :: items', h, himp => by
    rw [List.map_cons, List.map_cons, List.cons.injEq] at h
    rw [List.forall_mem_cons] at himp
    exact .cons (himp.1 w h.1) (forall₂_of_map_eq h.2 himp.2)

/-! ### The same canonical value -/

/-- **Order independence**: values that are the same have the same canonical value. -/
theorem canonicalize_eq_of_same {v w : Value Num} (hv : DistinctKeys v) (h : SameValue v w) :
    canonicalizeJson v = canonicalizeJson w := by
  induction v using value_induction generalizing w with
  | null => cases h; rfl
  | bool b => cases h; rfl
  | number n => cases h; rfl
  | string s => cases h; rfl
  | array items ih =>
    cases hv with
    | array hdistinct =>
      cases h with
      | array hitems =>
        rw [canonicalizeJson_array, canonicalizeJson_array,
          map_eq_of_forall₂ hitems fun v hv w => ih v hv (hdistinct v hv)]
  | object map ih =>
    cases hv with
    | object hnodup hdistinct =>
      cases h with
      | @object _ reordered map' hperm hkeys hvalues =>
        have hsame : reordered.map canonicalEntry = map'.map canonicalEntry := by
          refine map_canonicalEntry_eq_iff.2 ⟨hkeys, map_eq_of_forall₂ hvalues fun v hv w => ?_⟩
          obtain ⟨e, he, rfl⟩ := List.mem_map.1 hv
          exact ih e (hperm.mem_iff.2 he) (hdistinct e (hperm.mem_iff.2 he))
        have hcanonical : (map.map canonicalEntry).Perm (map'.map canonicalEntry) :=
          hsame ▸ hperm.map canonicalEntry
        rw [canonicalizeJson_object, canonicalizeJson_object,
          insertionSort_eq_of_perm (by rwa [map_fst_canonicalEntry]) hcanonical]

theorem kindOf_canonicalizeJson (v : Value Num) : kindOf (canonicalizeJson v) = kindOf v := by
  cases v <;> simp only [canonicalizeJson, kindOf]

theorem kindOf_eq_of_canonicalize {v w : Value Num} (h : canonicalizeJson v = canonicalizeJson w) :
    kindOf v = kindOf w := by
  rw [← kindOf_canonicalizeJson v, h, kindOf_canonicalizeJson]

theorem same_of_canonicalize_eq {v w : Value Num} (h : canonicalizeJson v = canonicalizeJson w) :
    SameValue v w := by
  induction v using value_induction generalizing w with
  | null =>
    have hkind := kindOf_eq_of_canonicalize h
    cases w with
    | null => exact .null
    | _ => cases hkind
  | bool b =>
    have hkind := kindOf_eq_of_canonicalize h
    cases w with
    | bool b' =>
      cases h
      exact .bool b
    | _ => cases hkind
  | number n =>
    have hkind := kindOf_eq_of_canonicalize h
    cases w with
    | number n' =>
      cases h
      exact .number n
    | _ => cases hkind
  | string s =>
    have hkind := kindOf_eq_of_canonicalize h
    cases w with
    | string s' =>
      cases h
      exact .string s
    | _ => cases hkind
  | array items ih =>
    have hkind := kindOf_eq_of_canonicalize h
    cases w with
    | array items' =>
      rw [canonicalizeJson_array, canonicalizeJson_array, Value.array.injEq] at h
      exact .array (forall₂_of_map_eq h fun v hv w hvw => ih v hv hvw)
    | _ => cases hkind
  | object map ih =>
    have hkind := kindOf_eq_of_canonicalize h
    cases w with
    | object map' =>
      rw [canonicalizeJson_object, canonicalizeJson_object, Value.object.injEq] at h
      have hcanonical : (map.map canonicalEntry).Perm (map'.map canonicalEntry) := by
        refine (List.perm_insertionSort keyLE _).symm.trans ?_
        rw [h]
        exact List.perm_insertionSort keyLE _
      obtain ⟨reordered, hperm, hsame⟩ := exists_reordered hcanonical
      obtain ⟨hkeys, hvalues⟩ := map_canonicalEntry_eq_iff.1 hsame
      refine .object hperm hkeys (forall₂_of_map_eq hvalues fun v hv w hvw => ?_)
      obtain ⟨e, he, rfl⟩ := List.mem_map.1 hv
      exact ih e (hperm.mem_iff.2 he) hvw
    | _ => cases hkind

/-- **A canonical value is left as it is.** -/
theorem canonicalizeJson_idem (v : Value Num) :
    canonicalizeJson (canonicalizeJson v) = canonicalizeJson v := by
  induction v using value_induction with
  | null => rfl
  | bool b => rfl
  | number n => rfl
  | string s => rfl
  | array items ih =>
    rw [canonicalizeJson_array, canonicalizeJson_array, List.map_map]
    exact congrArg Value.array (List.map_congr_left ih)
  | object map ih =>
    -- the entries of the sorted list are canonical already, so it is mapped to itself
    have hfixed : ((map.map canonicalEntry).insertionSort keyLE).map canonicalEntry =
        (map.map canonicalEntry).insertionSort keyLE := by
      refine (List.map_congr_left fun e he => ?_).trans (List.map_id _)
      rw [List.mem_insertionSort] at he
      obtain ⟨e', he', rfl⟩ := List.mem_map.1 he
      exact congrArg (Prod.mk e'.1) (ih e' he')
    rw [canonicalizeJson_object, canonicalizeJson_object, hfixed,
      (List.pairwise_insertionSort keyLE _).insertionSort_eq]

/-- **The canonical text identifies the parameters**, up to the order of the keys of objects at every
level, as long as numbers are written as different texts; and canonicalizing twice is canonicalizing
once. -/
theorem canonical_params_identify [ToString Num] (hnum : NumberTexts Num) {v : Value Num}
    (hv : DistinctKeys v) (w : Value Num) :
    (canonicalParamsJson v = canonicalParamsJson w ↔ SameValue v w) ∧
      canonicalizeJson (canonicalizeJson v) = canonicalizeJson v := by
  refine ⟨⟨fun h => ?_, fun h => ?_⟩, canonicalizeJson_idem v⟩
  · exact same_of_canonicalize_eq (render_injective hnum h)
  · rw [canonicalParamsJson, canonicalParamsJson, canonicalize_eq_of_same hv h]

/-- The parameters of an action, with the keys in the order of the request. -/
def actionParams : Value :=
  .object [("room_id", .string "r"), ("amount", .number 20), ("cards", .array [.null, .bool true])]

def actionParamsReordered : Value :=
  .object [("amount", .number 20), ("room_id", .string "r"), ("cards", .array [.null, .bool true])]

theorem actionParams_reordered :
    SameValue actionParams actionParamsReordered ∧
      canonicalParamsJson actionParams = canonicalParamsJson actionParamsReordered := by
  have hdistinct : DistinctKeys actionParams := by
    refine .object (by decide) ?_
    simp only [List.forall_mem_cons]
    refine ⟨.string "r", .number 20, .array ?_, nofun⟩
    simp only [List.forall_mem_cons]
    exact ⟨.null, .bool true, nofun⟩
  have hsame : SameValue actionParams actionParamsReordered := by
    refine .object (List.Perm.swap _ _ _) rfl ?_
    exact .cons (.number 20) (.cons (.string "r")
      (.cons (.array (.cons .null (.cons (.bool true) .nil))) .nil))
  exact ⟨hsame, (canonical_params_identify numberTexts_int hdistinct _).1.2 hsame⟩

end HoldemPlatform.Auth.CanonicalJson
