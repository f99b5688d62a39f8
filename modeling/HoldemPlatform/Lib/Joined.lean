import Mathlib.Data.List.Basic
import Mathlib.Data.List.Infix

/-!
# Fields Joined by Separating Words

A text that joins free-form fields by fixed words, `f₀ L₁ f₁ L₂ f₂ …`, where every word starts with a
marker it does not repeat. Occurrences of such words never overlap, so another way to read the text
has to find a word inside a field. The fields are determined by the text exactly if no word occurs in
one of its two neighbours (`joined_unique_iff`); where it stands further off does no harm.

Fields without the marker are read off from the left (`append_cons_inj_left`) or from the right
(`append_cons_inj_right`).
-/

namespace HoldemPlatform.Lib.Joined

variable {α : Type*}

/-- The text does not go on with a symbol that satisfies `p`. -/
def Stops (p : α → Prop) (r : List α) : Prop := ∀ c ∈ r.head?, ¬ p c

theorem stops_cons {p : α → Prop} {c : α} {r : List α} (h : ¬ p c) : Stops p (c :: r) := by
  intro c' hc'
  cases hc'
  exact h

/-- A field is read off from the left as far as its symbols go. -/
theorem append_inj_of_stops {p : α → Prop} : ∀ {a a' r r' : List α}, (∀ c ∈ a, p c) →
    (∀ c ∈ a', p c) → Stops p r → Stops p r' → a ++ r = a' ++ r' → a = a' ∧ r = r'
  | [], [], _, _, _, _, _, _, h => ⟨rfl, h⟩
  | [], b :: a', r, r', _, ha', hr, _, h => by
    have hr' : r = b :: (a' ++ r') := h
    exact absurd (ha' b List.mem_cons_self) (hr b (by simp [hr']))
  | b :: a, [], r, r', ha, _, _, hr', h => by
    have hr : b :: (a ++ r) = r' := h
    exact absurd (ha b List.mem_cons_self) (hr' b (by simp [← hr]))
  | b :: a, b' :: a', r, r', ha, ha', hr, hr', h => by
    obtain ⟨rfl, htail⟩ := List.cons.inj h
    obtain ⟨rfl, rfl⟩ := append_inj_of_stops (fun c hc => ha c (List.mem_cons_of_mem _ hc))
      (fun c hc => ha' c (List.mem_cons_of_mem _ hc)) hr hr' htail
    exact ⟨rfl, rfl⟩

/-- A first field without the marker is read off from the left. -/
theorem append_cons_inj_left {d : α} {a a' x x' : List α} (ha : d ∉ a) (ha' : d ∉ a')
    (h : a ++ d :: x = a' ++ d :: x') : a = a' ∧ x = x' := by
  have hstop : ∀ y : List α, Stops (· ≠ d) (d :: y) := fun y => stops_cons (not_not_intro rfl)
  have hne : ∀ {b : List α}, d ∉ b → ∀ c ∈ b, c ≠ d := by
    rintro b hb c hc rfl
    exact hb hc
  obtain ⟨hfield, hrest⟩ := append_inj_of_stops (hne ha) (hne ha') (hstop x) (hstop x') h
  exact ⟨hfield, (List.cons.inj hrest).2⟩

/-- A last field without the marker is read off from the right. -/
theorem append_cons_inj_right {x x' a a' : List α} {d : α} (ha : d ∉ a) (ha' : d ∉ a')
    (h : x ++ d :: a = x' ++ d :: a') : x = x' ∧ a = a' := by
  have hrev := congrArg List.reverse h
  simp only [List.reverse_append, List.reverse_cons, List.append_assoc, List.singleton_append]
    at hrev
  have hmem : d ∉ a.reverse := by simpa using ha
  have hmem' : d ∉ a'.reverse := by simpa using ha'
  obtain ⟨hlast, hfirst⟩ := append_cons_inj_left hmem hmem' hrev
  exact ⟨List.reverse_injective hfirst, List.reverse_injective hlast⟩

/-! ### Fields without the marker -/

/-- The fields, each after a marker. -/
def barred (d : α) (fields : List (List α)) : List α := fields.flatMap (d :: ·)

theorem barred_cons (d : α) (f : List α) (fields : List (List α)) :
    barred d (f :: fields) = d :: (f ++ barred d fields) := rfl

/-- None of the fields has the marker. -/
def Plain (d : α) (fields : List (List α)) : Prop := ∀ f ∈ fields, d ∉ f

/-- **Plain fields before a marker** are read off from the left. -/
theorem barred_inj_left {d : α} : ∀ {fs fs' : List (List α)} {f f' y y' : List α},
    Plain d (f :: fs) → Plain d (f' :: fs') → fs.length = fs'.length →
    f ++ (barred d fs ++ d :: y) = f' ++ (barred d fs' ++ d :: y') → f = f' ∧ fs = fs' ∧ y = y'
  | [], [], f, f', y, y', hf, hf', _, h => by
    obtain ⟨rfl, rfl⟩ := append_cons_inj_left (hf f (by simp)) (hf' f' (by simp)) h
    exact ⟨rfl, rfl, rfl⟩
  | [], _ :: _, _, _, _, _, _, _, hlen, _ => by simp at hlen
  | _ :: _, [], _, _, _, _, _, _, hlen, _ => by simp at hlen
  | g :: fs, g' :: fs', f, f', y, y', hf, hf', hlen, h => by
    simp only [barred_cons, List.cons_append, List.append_assoc] at h
    obtain ⟨rfl, hrest⟩ := append_cons_inj_left (hf f (by simp)) (hf' f' (by simp)) h
    obtain ⟨rfl, rfl, rfl⟩ := barred_inj_left
      (fun k hk => hf k (List.mem_cons_of_mem _ hk)) (fun k hk => hf' k (List.mem_cons_of_mem _ hk))
      (by simpa using hlen) hrest
    exact ⟨rfl, rfl, rfl⟩

/-- **Plain fields at the end** are read off from the right. -/
theorem barred_inj_right {d : α} : ∀ {fs fs' : List (List α)} {x x' : List α},
    Plain d fs → Plain d fs' → fs.length = fs'.length →
    x ++ barred d fs = x' ++ barred d fs' → x = x' ∧ fs = fs'
  | [], [], x, x', _, _, _, h => ⟨by simpa [barred] using h, rfl⟩
  | [], _ :: _, _, _, _, _, hlen, _ => by simp at hlen
  | _ :: _, [], _, _, _, _, hlen, _ => by simp at hlen
  | g :: fs, g' :: fs', x, x', hf, hf', hlen, h => by
    have hjoin : (x ++ d :: g) ++ barred d fs = (x' ++ d :: g') ++ barred d fs' := by
      simpa [barred_cons] using h
    obtain ⟨hfirst, rfl⟩ := barred_inj_right
      (fun k hk => hf k (List.mem_cons_of_mem _ hk)) (fun k hk => hf' k (List.mem_cons_of_mem _ hk))
      (by simpa using hlen) hjoin
    obtain ⟨rfl, rfl⟩ := append_cons_inj_right (hf g (by simp)) (hf' g' (by simp)) hfirst
    exact ⟨rfl, rfl⟩

/-! ### Codes -/

/-- No code word is the start of another. -/
def PrefixFree {β : Type*} (code : β → List α) : Prop := ∀ b b', code b <+: code b' → b = b'

theorem PrefixFree.append_inj {β : Type*} {code : β → List α} (hcode : PrefixFree code) {b b' : β}
    {x x' : List α} (h : code b ++ x = code b' ++ x') : b = b' ∧ x = x' := by
  have hb : b = b' := by
    rcases List.append_eq_append_iff.1 h with ⟨t, ht, -⟩ | ⟨t, ht, -⟩
    · exact hcode b b' ⟨t, ht.symm⟩
    · exact (hcode b' b ⟨t, ht.symm⟩).symm
  subst hb
  exact ⟨rfl, List.append_cancel_left h⟩

/-- **Code words up to a symbol that none of them starts with** are read off from the left. -/
theorem PrefixFree.flatMap_inj {β : Type*} {code : β → List α} (hcode : PrefixFree code) {e : α}
    (hend : ∀ b x x', code b ++ x ≠ e :: x') : ∀ {s s' : List β} {x x' : List α},
    s.flatMap code ++ e :: x = s'.flatMap code ++ e :: x' → s = s' ∧ x = x'
  | [], [], x, x', h => ⟨rfl, (List.cons.inj h).2⟩
  | [], b :: s', x, x', h => by
    simp only [List.flatMap_cons, List.append_assoc] at h
    exact absurd h.symm (hend b _ _)
  | b :: s, [], x, x', h => by
    simp only [List.flatMap_cons, List.append_assoc] at h
    exact absurd h (hend b _ _)
  | b :: s, b' :: s', x, x', h => by
    simp only [List.flatMap_cons, List.append_assoc] at h
    obtain ⟨rfl, hrest⟩ := hcode.append_inj h
    obtain ⟨rfl, rfl⟩ := hcode.flatMap_inj hend hrest
    exact ⟨rfl, rfl⟩

/-! ### Sequences -/

/-- The code words with `sep` between them. -/
def sequence {β : Type*} (code : β → List α) (sep : α) (items : List β) : List α :=
  [sep].intercalate (items.map code)

theorem sequence_cons {β : Type*} (code : β → List α) (sep : α) (b c : β) (rest : List β) :
    sequence code sep (b :: c :: rest) = code b ++ sep :: sequence code sep (c :: rest) := by
  simp only [sequence, List.map_cons, List.intercalate_cons_cons, List.append_assoc,
    List.singleton_append]

/-- The code word determines the item and where it ends, if nothing after it goes on with `p`. -/
def Readable {β : Type*} (p : α → Prop) (code : β → List α) (b : β) : Prop :=
  ∀ b' r r', Stops p r → Stops p r' → code b ++ r = code b' ++ r' → b = b' ∧ r = r'

/-- **A sequence of readable items up to its closing symbol** is read off from the left. -/
theorem sequence_inj {β : Type*} {p : α → Prop} {code : β → List α} {sep close : α}
    (hsep : ¬ p sep) (hclose : ¬ p close) (hne : sep ≠ close)
    (hopen : ∀ b r r', code b ++ r ≠ close :: r') : ∀ {items items' : List β} {r r' : List α},
    (∀ b ∈ items, Readable p code b) →
    sequence code sep items ++ close :: r = sequence code sep items' ++ close :: r' →
    items = items' ∧ r = r'
  | [], [], r, r', _, h => ⟨rfl, (List.cons.inj h).2⟩
  | [], [b'], r, r', _, h => by
    simp only [sequence, List.map_cons, List.map_nil, List.intercalate_singleton] at h
    exact absurd h.symm (hopen b' _ _)
  | [], b' :: c' :: rest', r, r', _, h => by
    rw [sequence_cons, List.append_assoc] at h
    exact absurd h.symm (hopen b' _ _)
  | [b], [], r, r', _, h => by
    simp only [sequence, List.map_cons, List.map_nil, List.intercalate_singleton] at h
    exact absurd h (hopen b _ _)
  | b :: c :: rest, [], r, r', _, h => by
    rw [sequence_cons, List.append_assoc] at h
    exact absurd h (hopen b _ _)
  | [b], [b'], r, r', hread, h => by
    simp only [sequence, List.map_cons, List.map_nil, List.intercalate_singleton] at h
    obtain ⟨rfl, hrest⟩ := hread b List.mem_cons_self b' _ _ (stops_cons hclose) (stops_cons hclose) h
    exact ⟨rfl, (List.cons.inj hrest).2⟩
  | [b], b' :: c' :: rest', r, r', hread, h => by
    rw [sequence_cons, List.append_assoc] at h
    simp only [sequence, List.map_cons, List.map_nil, List.intercalate_singleton] at h
    obtain ⟨-, hrest⟩ := hread b List.mem_cons_self b' _ _ (stops_cons hclose) (stops_cons hsep) h
    exact absurd (List.cons.inj hrest).1.symm hne
  | b :: c :: rest, [b'], r, r', hread, h => by
    rw [sequence_cons, List.append_assoc] at h
    simp only [sequence, List.map_cons, List.map_nil, List.intercalate_singleton] at h
    obtain ⟨-, hrest⟩ := hread b List.mem_cons_self b' _ _ (stops_cons hsep) (stops_cons hclose) h
    exact absurd (List.cons.inj hrest).1 hne
  | b :: c :: rest, b' :: c' :: rest', r, r', hread, h => by
    rw [sequence_cons, sequence_cons, List.append_assoc, List.append_assoc] at h
    obtain ⟨rfl, hrest⟩ := hread b List.mem_cons_self b' _ _ (stops_cons hsep) (stops_cons hsep) h
    obtain ⟨htail, rfl⟩ := sequence_inj hsep hclose hne hopen
      (fun d hd => hread d (List.mem_cons_of_mem _ hd)) (List.cons.inj hrest).2
    exact ⟨by rw [htail], rfl⟩

/-! ### Words -/

/-- A word with the marker at its start and nowhere else. -/
structure Marked (d : α) (L : List α) : Prop where
  head : ∃ w, L = d :: w
  once : d ∉ L.tail

theorem marked_cons {d : α} {w : List α} (h : d ∉ w) : Marked d (d :: w) := ⟨⟨w, rfl⟩, h⟩

/-- Neither word is the start of the other. -/
def Clash (K L : List α) : Prop := ∀ y y', K ++ y ≠ L ++ y'

/-- Words that differ after a common start clash. -/
theorem clash_of_ne {d a b : α} {v w : List α} (h : a ≠ b) : Clash (d :: a :: v) (d :: b :: w) := by
  intro y y' heq
  simp only [List.cons_append, List.cons.injEq, true_and] at heq
  exact h heq.1

/-- **Two readings of a text at marked words**: they read at the same place, or one reads within what
the other takes for the first field. -/
theorem split_cases {d : α} {K L x x' y y' : List α} (hK : Marked d K) (hL : Marked d L)
    (h : x ++ (K ++ y) = x' ++ (L ++ y')) :
    (x = x' ∧ K ++ y = L ++ y') ∨ (∃ t, x' = x ++ (K ++ t) ∧ y = t ++ (L ++ y')) ∨
      ∃ t, x = x' ++ (L ++ t) ∧ y' = t ++ (K ++ y) := by
  -- it suffices to read further on the side that is shorter
  have hlong : ∀ {K L y y' a : List α}, Marked d K → Marked d L → K ++ y = a ++ (L ++ y') →
      a = [] ∨ ∃ t, a = K ++ t ∧ y = t ++ (L ++ y') := by
    intro K L y y' a hK hL heq
    rcases List.append_eq_append_iff.1 heq with ⟨t, ha, hy⟩ | ⟨t, hKa, ht⟩
    · exact .inr ⟨t, ha, hy⟩
    · -- `K` ends inside the next word: then it is over there, or has not begun
      obtain ⟨w, rfl⟩ := hL.head
      cases t with
      | nil => exact .inr ⟨[], by simpa using hKa.symm, by simpa using ht.symm⟩
      | cons c t =>
        rw [List.cons_append, List.cons_append, List.cons.injEq] at ht
        obtain ⟨rfl, -⟩ := ht
        cases a with
        | nil => exact .inl rfl
        | cons b a =>
          refine absurd ?_ hK.once
          rw [hKa]
          simp
  rcases List.append_eq_append_iff.1 h with ⟨a, hx, hy⟩ | ⟨a, hx, hy⟩
  · rcases hlong hK hL hy with rfl | ⟨t, rfl, ht⟩
    · exact .inl ⟨by simpa using hx.symm, by simpa using hy⟩
    · exact .inr (.inl ⟨t, hx, ht⟩)
  · rcases hlong hL hK hy with rfl | ⟨t, rfl, ht⟩
    · exact .inl ⟨by simpa using hx, by simpa using hy.symm⟩
    · exact .inr (.inr ⟨t, hx, ht⟩)

/-! ### Joined fields -/

/-- A first field and then, after each word, another one. -/
def joined : List α → List (List α × List α) → List α
  | f, [] => f
  | f, (L, g) :: rest => f ++ (L ++ joined g rest)

/-- No word occurs in one of its two neighbours. -/
def Separated : List α → List (List α × List α) → Prop
  | _, [] => True
  | f, (L, g) :: rest => ¬ L <:+: f ∧ ¬ L <:+: g ∧ Separated g rest

/-- The words have the marker and each clashes with the one before. -/
def Words (d : α) : List (List α) → Prop
  | [] => True
  | [L] => Marked d L
  | L :: K :: rest => Marked d L ∧ Clash K L ∧ Words d (K :: rest)

theorem Words.head {d : α} {L : List α} : ∀ {rest : List (List α)}, Words d (L :: rest) → Marked d L
  | [], h => h
  | _ :: _, h => h.1

theorem Words.tail {d : α} {L : List α} : ∀ {rest : List (List α)}, Words d (L :: rest) →
    Words d rest
  | [], _ => trivial
  | _ :: _, h => h.2.2

theorem infix_middle (t L y : List α) : L <:+: t ++ (L ++ y) := ⟨t, y, List.append_assoc ..⟩

/-- After a word that does not occur in the next field, the fields cannot be read one word late. -/
theorem not_late {d : α} : ∀ {rest rest' : List (List α × List α)} {L g g' t : List α},
    Words d (L :: rest.map Prod.fst) → ¬ L <:+: g → Separated g rest →
    rest'.map Prod.fst = rest.map Prod.fst → joined g rest ≠ t ++ (L ++ joined g' rest')
  | [], _, L, g, g', t, _, hg, _, _, h => hg (by rw [show g = _ from h]; exact infix_middle ..)
  | (K, k) :: rest, [], _, _, _, _, _, _, _, hwords, _ => by simp at hwords
  | (K, k) :: rest, (K', k') :: rest', L, g, g', t, hw, hg, hsep, hwords, h => by
    simp only [List.map_cons, List.cons.injEq] at hwords
    obtain ⟨hK, hwords⟩ := hwords
    subst hK
    obtain ⟨-, hk, hsep⟩ := hsep
    rw [joined, joined] at h
    rcases split_cases hw.tail.head hw.head h with ⟨-, h⟩ | ⟨u, -, h⟩ | ⟨u, hgu, -⟩
    · exact hw.2.1 _ _ h
    · -- the next word would be late as well
      have hlate : joined k rest = (u ++ (L ++ g')) ++ (K' ++ joined k' rest') := by
        rw [h]
        simp only [List.append_assoc]
      exact not_late hw.tail hk hsep hwords hlate
    · exact hg (by rw [hgu]; exact infix_middle ..)

/-- **Separated fields are determined by the text.** -/
theorem Separated.unique {d : α} : ∀ {rest rest' : List (List α × List α)} {f f' : List α},
    Words d (rest.map Prod.fst) → Separated f rest → rest'.map Prod.fst = rest.map Prod.fst →
    joined f rest = joined f' rest' → f = f' ∧ rest = rest'
  | [], [], f, f', _, _, _, h => ⟨h, rfl⟩
  | [], _ :: _, _, _, _, _, hwords, _ => by simp at hwords
  | _ :: _, [], _, _, _, _, hwords, _ => by simp at hwords
  | (L, g) :: rest, (L', g') :: rest', f, f', hw, hsep, hwords, h => by
    simp only [List.map_cons, List.cons.injEq] at hwords
    obtain ⟨hL, hwords⟩ := hwords
    subst hL
    obtain ⟨hf, hg, hsep⟩ := hsep
    rw [joined, joined] at h
    rcases split_cases hw.head hw.head h with ⟨rfl, hjoin⟩ | ⟨t, -, h⟩ | ⟨t, hft, -⟩
    · have hrest : joined g rest = joined g' rest' := List.append_cancel_left hjoin
      obtain ⟨rfl, rfl⟩ := Separated.unique hw.tail hsep hwords hrest
      exact ⟨rfl, rfl⟩
    · exact absurd h (not_late hw hg hsep hwords)
    · exact absurd (by rw [hft]; exact infix_middle ..) hf

/-- Fields that are not separated can be read in another way. -/
theorem exists_other_reading : ∀ {rest : List (List α × List α)} {f : List α},
    (∀ L ∈ rest.map Prod.fst, L ≠ []) → ¬ Separated f rest →
    ∃ f' rest', rest'.map Prod.fst = rest.map Prod.fst ∧ joined f rest = joined f' rest' ∧
      ¬ (f = f' ∧ rest = rest')
  | [], f, _, h => absurd trivial h
  | (L, g) :: rest, f, hne, h => by
    have hL : L ≠ [] := hne L (by simp)
    have hpos := List.length_pos_iff.2 hL
    by_cases hf : L <:+: f
    · -- the word is taken where it occurs in the field before
      obtain ⟨u, v, rfl⟩ := hf
      refine ⟨u, (L, v ++ (L ++ g)) :: rest, rfl, ?_, fun heq => ?_⟩
      · cases rest <;> simp [joined]
      · have hlen := congrArg List.length heq.1
        simp only [List.length_append] at hlen
        omega
    by_cases hg : L <:+: g
    · obtain ⟨u, v, rfl⟩ := hg
      refine ⟨f ++ (L ++ u), (L, v) :: rest, rfl, ?_, fun heq => ?_⟩
      · cases rest <;> simp [joined]
      · have hlen := congrArg List.length heq.1
        simp only [List.length_append] at hlen
        omega
    · have hrest : ¬ Separated g rest := fun hsep => h ⟨hf, hg, hsep⟩
      obtain ⟨g', rest', hwords, hjoin, hother⟩ := exists_other_reading
        (fun K hK => hne K (List.mem_cons_of_mem _ hK)) hrest
      refine ⟨f, (L, g') :: rest', by simp [hwords], by rw [joined, joined, hjoin], fun heq => ?_⟩
      have htail := heq.2
      simp only [List.cons.injEq, Prod.mk.injEq, true_and] at htail
      exact hother htail

theorem Words.ne_nil {d : α} : ∀ {words : List (List α)}, Words d words → ∀ L ∈ words, L ≠ []
  | [], _, _, hL => absurd hL List.not_mem_nil
  | K :: rest, h, L, hL => by
    rcases List.mem_cons.1 hL with rfl | hL
    · obtain ⟨w, rfl⟩ := h.head.head
      exact List.cons_ne_nil _ _
    · exact Words.ne_nil h.tail L hL

/-- **The fields are determined by the text exactly if they are separated.** -/
theorem joined_unique_iff {d : α} {rest : List (List α × List α)} {f : List α}
    (hw : Words d (rest.map Prod.fst)) :
    (∀ f' rest', rest'.map Prod.fst = rest.map Prod.fst → joined f rest = joined f' rest' →
      f = f' ∧ rest = rest') ↔ Separated f rest := by
  constructor
  · intro h
    by_contra hsep
    obtain ⟨f', rest', hwords, hjoin, hother⟩ := exists_other_reading hw.ne_nil hsep
    exact hother (h f' rest' hwords hjoin)
  · exact fun hsep f' rest' hwords hjoin => hsep.unique hw hwords hjoin

end HoldemPlatform.Lib.Joined
