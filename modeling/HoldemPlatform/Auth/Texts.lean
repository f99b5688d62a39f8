import HoldemPlatform.Auth.Signing
import HoldemPlatform.Lib.Joined

/-!
# Texts That Can Be Read Back

What the fields of a signed message are written as. Decimal numbers and the texts of identifiers and
times have no bar in them. The text of a JSON value determines the value and where it ends
(`readable_value`), provided it is not followed by a symbol that could continue a number: a string ends at
its first quote that is not escaped, and an array or object at its closing bracket.
-/

namespace HoldemPlatform.Auth.Texts

open HoldemPlatform.Lib.Joined HoldemPlatform.Auth.Json HoldemPlatform.Auth.Signing

/-- How identifiers and times are written: as different texts without a bar. -/
structure TextFormats (ext : Externals) : Prop where
  uuid_injective : Function.Injective ext.uuidText
  uuid_no_bar : ∀ n, '|' ∉ (ext.uuidText n).toList
  time_injective : Function.Injective ext.toRfc3339
  time_no_bar : ∀ t, '|' ∉ (ext.toRfc3339 t).toList

/-- They are never written as nothing, which is how a missing one is written. -/
structure NonemptyFormats (ext : Externals) : Prop extends TextFormats ext where
  uuid_ne_empty : ∀ n, ext.uuidText n ≠ ""
  time_ne_empty : ∀ t, ext.toRfc3339 t ≠ ""

theorem getD_map_injective {α : Type} {text : α → String} (hinj : Function.Injective text)
    (hne : ∀ a, text a ≠ "") : ∀ {o o' : Option α},
    (o.map text).getD "" = (o'.map text).getD "" → o = o'
  | none, none, _ => rfl
  | none, some a, h => absurd h.symm (hne a)
  | some a, none, h => absurd h (hne a)
  | some _, some _, h => congrArg some (hinj h)

theorem no_bar_getD_map {α : Type} {text : α → String} (h : ∀ a, '|' ∉ (text a).toList) :
    ∀ o : Option α, '|' ∉ ((o.map text).getD "").toList
  | none => List.not_mem_nil
  | some a => h a

/-- A field of a message: its label and its value. -/
def field (label value : String) : List Char := label.toList ++ value.toList

theorem no_bar_field {label value : String} (hlabel : '|' ∉ label.toList)
    (hvalue : '|' ∉ value.toList) : '|' ∉ field label value := by
  intro h
  rcases List.mem_append.1 h with h | h
  · exact hlabel h
  · exact hvalue h

theorem field_inj {label value value' : String} (h : field label value = field label value') :
    value = value' :=
  String.toList_inj.1 (List.append_cancel_left h)

/-! ### Numbers -/

def NumberChar (c : Char) : Prop := c.isDigit = true ∨ c ∈ ['-', '+', '.', 'e', 'E']

theorem not_numberChar {c : Char} (h : c.isDigit = false) (hother : c ∉ ['-', '+', '.', 'e', 'E']) :
    ¬ NumberChar c :=
  fun hnum => hnum.elim (fun hdigit => by rw [h] at hdigit; cases hdigit) hother

/-- Numbers are written as different texts, in the symbols of numbers. -/
structure NumberTexts (Num : Type) [ToString Num] : Prop where
  injective : Function.Injective (toString : Num → String)
  ne_empty : ∀ n : Num, toString n ≠ ""
  chars : ∀ (n : Num), ∀ c ∈ (toString n).toList, NumberChar c

theorem numberChar_nat {n : ℕ} {c : Char} (h : c ∈ (toString n).toList) : c.isDigit = true := by
  rw [Nat.toString_eq_repr, Nat.toList_repr] at h
  exact Nat.isDigit_of_mem_toDigits (by decide) (by decide) h

theorem numberChar_int {n : ℤ} {c : Char} (h : c ∈ (toString n).toList) : NumberChar c := by
  rw [Int.toString_eq_repr, Int.repr_eq_if] at h
  split_ifs at h
  · exact .inl (numberChar_nat (by rwa [Nat.toString_eq_repr]))
  · rw [String.toList_append, List.mem_append] at h
    rcases h with h | h
    · have hneg : c = '-' := by simpa using h
      exact .inr (by simp [hneg])
    · exact .inl (numberChar_nat (by rwa [Nat.toString_eq_repr]))

theorem no_bar_nat (n : ℕ) : '|' ∉ (toString n).toList :=
  fun h => absurd (numberChar_nat h) (by decide)

theorem no_bar_int (n : ℤ) : '|' ∉ (toString n).toList :=
  fun h => absurd (numberChar_int h) (not_numberChar (by decide) (by decide))

theorem toString_nat_injective : Function.Injective (toString : ℕ → String) := by
  intro m n h
  have hdigits : Nat.toDigits 10 m = Nat.toDigits 10 n := by
    rw [← Nat.toList_repr, ← Nat.toList_repr, ← Nat.toString_eq_repr, ← Nat.toString_eq_repr, h]
  have hvalue := congrArg (fun digits => Nat.ofDigitChars 10 digits 0) hdigits
  simpa using hvalue

/-- A sign is not the start of a number without one. -/
theorem nat_ne_negative (m n : ℕ) : toString m ≠ "-" ++ toString n := by
  intro h
  have hlist := congrArg String.toList h
  rw [String.toList_append] at hlist
  have hmem : '-' ∈ (toString m).toList := by
    rw [hlist]
    exact List.mem_append_left _ (by decide)
  exact absurd (numberChar_nat hmem) (by decide)

theorem toString_int_injective : Function.Injective (toString : ℤ → String) := by
  intro m n h
  simp only [Int.toString_eq_repr, Int.repr_eq_if, ← Nat.toString_eq_repr] at h
  split_ifs at h
  · have hnat := toString_nat_injective h
    omega
  · exact absurd h (nat_ne_negative _ _)
  · exact absurd h.symm (nat_ne_negative _ _)
  · have hnat := toString_nat_injective (String.append_right_inj _ |>.1 h)
    omega

theorem toString_nat_ne_empty (n : ℕ) : toString n ≠ "" := by
  rw [Nat.toString_eq_repr]
  exact Nat.repr_ne_empty

theorem toString_int_ne_empty (n : ℤ) : toString n ≠ "" := by
  rw [Int.toString_eq_repr, Int.repr_eq_if]
  split_ifs
  · exact Nat.repr_ne_empty
  · intro h
    have hlist := congrArg String.toList h
    rw [String.toList_append] at hlist
    simp at hlist

theorem numberTexts_int : NumberTexts ℤ where
  injective := toString_int_injective
  ne_empty := toString_int_ne_empty
  chars _ _ := numberChar_int

theorem nonemptyFormats_decimal : NonemptyFormats decimalFormats where
  uuid_injective := toString_nat_injective
  uuid_ne_empty := toString_nat_ne_empty
  uuid_no_bar := no_bar_nat
  time_injective := toString_int_injective
  time_ne_empty := toString_int_ne_empty
  time_no_bar := no_bar_int

/-! ### Strings -/

def escaped (c : Char) : List Char := (escapeChar c).toList

/-- The value of a hex digit in lower case. -/
def hexValue (c : Char) : ℕ := if c.toNat < 58 then c.toNat - 48 else c.toNat - 87

theorem hexValue_hexDigitChar : ∀ n < 16, hexValue (hexDigitChar n) = n := by
  decide

/-- The character that a text inside a string starts with. -/
def unescape : List Char → Option Char
  | '\\' :: 'u' :: _ :: _ :: high :: low :: _ => some (Char.ofNat (16 * hexValue high + hexValue low))
  | '\\' :: c :: _ =>
    if c = 'b' then some (Char.ofNat 0x8)
    else if c = 't' then some (Char.ofNat 0x9)
    else if c = 'n' then some (Char.ofNat 0xa)
    else if c = 'f' then some (Char.ofNat 0xc)
    else if c = 'r' then some (Char.ofNat 0xd)
    else some c
  | c :: _ => some c
  | [] => none

theorem ofNat_of_toNat {c : Char} {n : ℕ} (h : c.toNat = n) : Char.ofNat n = c := by
  rw [← h, Char.ofNat_toNat]

theorem unescape_escaped (c : Char) (rest : List Char) : unescape (escaped c ++ rest) = some c := by
  unfold escaped escapeChar
  -- the quote and the backslash stand for themselves
  iterate 2
    split
    case isTrue h => rw [String.toList_ofList, h]; rfl
  -- the five control characters with a letter of their own
  iterate 5
    split
    case isTrue h => rw [String.toList_ofList, ← ofNat_of_toNat h]; rfl
  split
  case isTrue h =>
    rw [String.toList_append, String.toList_append, String.toList_ofList, Char.toString, Char.toString,
      String.toList_singleton, String.toList_singleton]
    change some (Char.ofNat (16 * hexValue (hexDigitChar (c.toNat / 16)) +
      hexValue (hexDigitChar (c.toNat % 16)))) = some c
    rw [hexValue_hexDigitChar _ (by omega), hexValue_hexDigitChar _ (by omega), Nat.div_add_mod,
      Char.ofNat_toNat]
  case isFalse =>
    rw [Char.toString, String.toList_singleton]
    unfold unescape
    split <;> simp_all

theorem prefixFree_escaped : PrefixFree escaped := by
  rintro c c' ⟨rest, h⟩
  have hc : unescape (escaped c') = some c := h ▸ unescape_escaped c rest
  have hc' : unescape (escaped c' ++ []) = some c' := unescape_escaped c' []
  rw [List.append_nil, hc] at hc'
  exact Option.some.inj hc'

theorem escaped_ne_quote (c : Char) (x x' : List Char) : escaped c ++ x ≠ '"' :: x' := by
  intro h
  have hc : unescape ('"' :: x') = some c := h ▸ unescape_escaped c x
  obtain rfl : '"' = c := Option.some.inj hc
  -- the quote itself is escaped
  have hquote : escaped '"' = ['\\', '"'] := String.toList_ofList
  rw [hquote, List.cons_append, List.cons.injEq] at h
  exact absurd h.1 (by decide)

theorem toList_quote (s : String) :
    (quote s).toList = '"' :: (s.toList.flatMap escaped ++ ['"']) := by
  unfold quote
  rw [String.toList_append, String.toList_append, String.toList_join, List.flatMap_map]
  rfl

/-- **A quoted string ends at its quote.** -/
theorem quote_inj {s s' : String} {r r' : List Char}
    (h : (quote s).toList ++ r = (quote s').toList ++ r') : s = s' ∧ r = r' := by
  simp only [toList_quote, List.cons_append, List.append_assoc, List.nil_append, List.cons.injEq,
    true_and] at h
  obtain ⟨hs, hr⟩ := prefixFree_escaped.flatMap_inj escaped_ne_quote h
  exact ⟨String.toList_inj.1 hs, hr⟩

/-! ### Values -/

section

variable {Num : Type} [ToString Num]

def text (v : Value Num) : List Char := (render v).toList

def entryText (e : String × Value Num) : List Char := (quote e.1).toList ++ ':' :: text e.2

theorem map_renderItems : ∀ items : List (Value Num),
    (renderItems items).map String.toList = items.map text
  | [] => rfl
  | v :: rest => by rw [renderItems, List.map_cons, List.map_cons, map_renderItems rest, text]

theorem map_renderEntries : ∀ map : List (String × Value Num),
    (renderEntries map).map String.toList = map.map entryText
  | [] => rfl
  | (k, v) :: rest => by
    have hentry : (quote k ++ ":" ++ render v).toList = entryText (k, v) := by
      rw [String.toList_append, String.toList_append, List.append_assoc]
      rfl
    rw [renderEntries, List.map_cons, List.map_cons, map_renderEntries rest, hentry]

theorem text_null : text (.null : Value Num) = 'n' :: "ull".toList := by
  change "null".toList = _
  rfl

theorem text_true : text (.bool true : Value Num) = 't' :: "rue".toList := by
  change "true".toList = _
  rfl

theorem text_false : text (.bool false : Value Num) = 'f' :: "alse".toList := by
  change "false".toList = _
  rfl

theorem text_array (items : List (Value Num)) :
    text (.array items) = '[' :: (sequence text ',' items ++ [']']) := by
  change ("[" ++ ",".intercalate (renderItems items) ++ "]").toList = _
  rw [String.toList_append, String.toList_append, String.toList_intercalate, map_renderItems]
  rfl

theorem text_object (map : List (String × Value Num)) :
    text (.object map) = '\x7b' :: (sequence entryText ',' map ++ ['\x7d']) := by
  change ("\x7b" ++ ",".intercalate (renderEntries map) ++ "\x7d").toList = _
  rw [String.toList_append, String.toList_append, String.toList_intercalate, map_renderEntries]
  rfl

inductive Kind where
  | null | bool | number | string | array | object
deriving DecidableEq

def kindOf : Value Num → Kind
  | .null => .null
  | .bool _ => .bool
  | .number _ => .number
  | .string _ => .string
  | .array _ => .array
  | .object _ => .object

/-- The kind that the first symbol tells. -/
def leadKind (c : Char) : Kind :=
  if c = 'n' then .null
  else if c = 't' ∨ c = 'f' then .bool
  else if c = '"' then .string
  else if c = '[' then .array
  else if c = '\x7b' then .object
  else .number

theorem leadKind_numberChar {c : Char} (h : NumberChar c) : leadKind c = .number := by
  rcases h with h | h
  · have hne : ∀ d : Char, d.isDigit = false → c ≠ d := by
      rintro d hd rfl
      rw [h] at hd
      cases hd
    simp [leadKind, hne]
  · simp only [List.mem_cons, List.not_mem_nil, or_false] at h
    rcases h with rfl | rfl | rfl | rfl | rfl <;> decide

variable (hnum : NumberTexts Num)
include hnum

/-- The first symbol of a value tells its kind, and it closes nothing. -/
theorem text_lead (v : Value Num) : ∃ c t, text v = c :: t ∧ leadKind c = kindOf v ∧ c ≠ ']' := by
  cases v with
  | null => exact ⟨'n', _, text_null, rfl, by decide⟩
  | bool b =>
    cases b with
    | true => exact ⟨'t', _, text_true, rfl, by decide⟩
    | false => exact ⟨'f', _, text_false, rfl, by decide⟩
  | number n =>
    have hne : text (.number n) ≠ [] := by
      intro h
      exact hnum.ne_empty n (String.toList_inj.1 h)
    obtain ⟨c, t, hct⟩ := List.exists_cons_of_ne_nil hne
    have hchar : NumberChar c := by
      have hmem : c ∈ text (.number n) := by rw [hct]; exact List.mem_cons_self
      exact hnum.chars n c hmem
    refine ⟨c, t, hct, leadKind_numberChar hchar, ?_⟩
    rintro rfl
    exact not_numberChar (by decide) (by decide) hchar
  | string s => exact ⟨'"', _, toList_quote s, rfl, by decide⟩
  | array items => exact ⟨'[', _, text_array items, rfl, by decide⟩
  | object map => exact ⟨'\x7b', _, text_object map, rfl, by decide⟩

theorem kindOf_eq {v v' : Value Num} {r r' : List Char} (h : text v ++ r = text v' ++ r') :
    kindOf v = kindOf v' := by
  obtain ⟨c, t, hct, hkind, -⟩ := text_lead hnum v
  obtain ⟨c', t', hct', hkind', -⟩ := text_lead hnum v'
  rw [hct, hct', List.cons_append, List.cons_append, List.cons.injEq] at h
  rw [← hkind, ← hkind', h.1]

theorem text_ne_close (v : Value Num) (r r' : List Char) : text v ++ r ≠ ']' :: r' := by
  obtain ⟨c, t, hct, -, hclose⟩ := text_lead hnum v
  rw [hct, List.cons_append]
  exact fun h => hclose (List.cons.inj h).1

omit hnum in
theorem entryText_ne_close (e : String × Value Num) (r r' : List Char) :
    entryText e ++ r ≠ '\x7d' :: r' := by
  rw [entryText, toList_quote, List.cons_append, List.cons_append]
  exact fun h => absurd (List.cons.inj h).1 (by decide)

omit hnum in
/-- An entry is readable if its value is: the key ends at its quote. -/
theorem readable_entry {e : String × Value Num} (h : Readable NumberChar text e.2) :
    Readable NumberChar entryText e := by
  intro e' r r' hr hr' heq
  simp only [entryText, List.append_assoc, List.cons_append] at heq
  obtain ⟨hkey, hrest⟩ := quote_inj heq
  obtain ⟨hvalue, rfl⟩ := h e'.2 r r' hr hr' (List.cons.inj hrest).2
  exact ⟨Prod.ext hkey hvalue, rfl⟩

omit hnum [ToString Num] in
theorem sep_stops : ¬ NumberChar ',' := not_numberChar (by decide) (by decide)

/-- **The text of a value determines it and where it ends**, if no number goes on after it. -/
theorem readable_value (v : Value Num) : Readable NumberChar text v := by
  induction v using value_induction with
  | null =>
    intro v' r r' _ _ h
    have hkind := kindOf_eq hnum h
    cases v' with
    | null => exact ⟨rfl, List.append_cancel_left h⟩
    | _ => cases hkind
  | bool b =>
    intro v' r r' _ _ h
    have hkind := kindOf_eq hnum h
    cases v' with
    | bool b' =>
      cases b <;> cases b'
      · exact ⟨rfl, List.append_cancel_left h⟩
      · rw [text_false, text_true] at h
        exact absurd (List.cons.inj h).1 (by decide)
      · rw [text_false, text_true] at h
        exact absurd (List.cons.inj h).1 (by decide)
      · exact ⟨rfl, List.append_cancel_left h⟩
    | _ => cases hkind
  | number n =>
    intro v' r r' hr hr' h
    have hkind := kindOf_eq hnum h
    cases v' with
    | number n' =>
      obtain ⟨htext, hrest⟩ := append_inj_of_stops (hnum.chars n) (hnum.chars n') hr hr' h
      exact ⟨congrArg Value.number (hnum.injective (String.toList_inj.1 htext)), hrest⟩
    | _ => cases hkind
  | string s =>
    intro v' r r' _ _ h
    have hkind := kindOf_eq hnum h
    cases v' with
    | string s' =>
      obtain ⟨rfl, rfl⟩ := quote_inj h
      exact ⟨rfl, rfl⟩
    | _ => cases hkind
  | array items hitems =>
    intro v' r r' _ _ h
    have hkind := kindOf_eq hnum h
    cases v' with
    | array items' =>
      simp only [text_array, List.cons_append, List.append_assoc, List.nil_append, List.cons.injEq,
        true_and] at h
      obtain ⟨rfl, rfl⟩ := sequence_inj sep_stops (not_numberChar (by decide) (by decide))
        (by decide) (text_ne_close hnum) hitems h
      exact ⟨rfl, rfl⟩
    | _ => cases hkind
  | object map hvalues =>
    intro v' r r' _ _ h
    have hkind := kindOf_eq hnum h
    cases v' with
    | object map' =>
      simp only [text_object, List.cons_append, List.append_assoc, List.nil_append,
        List.cons.injEq, true_and] at h
      obtain ⟨rfl, rfl⟩ := sequence_inj sep_stops (not_numberChar (by decide) (by decide))
        (by decide) entryText_ne_close (fun e he => readable_entry (hvalues e he)) h
      exact ⟨rfl, rfl⟩
    | _ => cases hkind

theorem render_injective : Function.Injective (render : Value Num → String) := by
  intro v w h
  have hstops : Stops NumberChar [] := nofun
  have htext : text v ++ [] = text w ++ [] := by rw [text, text, h]
  exact (readable_value hnum v w [] [] hstops hstops htext).1

end

end HoldemPlatform.Auth.Texts
