import Mathlib.Data.List.Sort
import Mathlib.Data.String.Basic

/-!
# Canonical Parameters

The parameters of a signed request are a JSON value. It is signed as text with the keys of every object
in order, so that both sides sign the same text.
-/

namespace HoldemPlatform.Auth.Json

/-- `serde_json::Value`. The numbers of the requests are integers. -/
inductive Value (Num : Type := ℤ) where
  | null
  | bool (b : Bool)
  | number (n : Num)
  | string (s : String)
  | array (items : List (Value Num))
  | object (map : List (String × Value Num))

variable {Num : Type}

/-- **Induction over a value**: an array has what its items have, an object what its values have. -/
@[elab_as_elim]
theorem value_induction {P : Value Num → Prop} (null : P .null) (bool : ∀ b, P (.bool b))
    (number : ∀ n, P (.number n)) (string : ∀ s, P (.string s))
    (array : ∀ items, (∀ v ∈ items, P v) → P (.array items))
    (object : ∀ map, (∀ e ∈ map, P (Prod.snd e)) → P (.object map)) (v : Value Num) : P v :=
  @Value.rec Num P (fun items => ∀ v ∈ items, P v) (fun map => ∀ e ∈ map, P e.2) (fun e => P e.2)
    null bool number string array object
    (List.forall_mem_nil _) (fun _ _ hv hrest => List.forall_mem_cons.2 ⟨hv, hrest⟩)
    (List.forall_mem_nil _) (fun _ _ he hrest => List.forall_mem_cons.2 ⟨he, hrest⟩)
    (fun _ _ hvalue => hvalue) v

/-! ### Keys in order -/

mutual

def canonicalizeJson : Value Num → Value Num
  | .object map => .object ((canonicalizeEntries map).insertionSort fun a b => a.1 ≤ b.1)
  | .array items => .array (canonicalizeItems items)
  | value => value

def canonicalizeItems : List (Value Num) → List (Value Num)
  | [] => []
  | value :: rest => canonicalizeJson value :: canonicalizeItems rest

def canonicalizeEntries : List (String × Value Num) → List (String × Value Num)
  | [] => []
  | (k, v) :: rest => (k, canonicalizeJson v) :: canonicalizeEntries rest

end

/-! ### Text -/

def hexDigitChar (n : ℕ) : Char := Char.ofNat (if n < 10 then 48 + n else 87 + n)

def escapeChar (c : Char) : String :=
  if c = '"' then "\\\""
  else if c = '\\' then "\\\\"
  else if c.toNat = 0x8 then "\\b"
  else if c.toNat = 0x9 then "\\t"
  else if c.toNat = 0xa then "\\n"
  else if c.toNat = 0xc then "\\f"
  else if c.toNat = 0xd then "\\r"
  else if c.toNat < 0x20 then
    "\\u00" ++ (hexDigitChar (c.toNat / 16)).toString ++ (hexDigitChar (c.toNat % 16)).toString
  else c.toString

def quote (s : String) : String := "\"" ++ String.join (s.toList.map escapeChar) ++ "\""

variable [ToString Num]

mutual

/-- `serde_json::to_string`. -/
def render : Value Num → String
  | .null => "null"
  | .bool b => if b then "true" else "false"
  | .number n => toString n
  | .string s => quote s
  | .array items => "[" ++ ",".intercalate (renderItems items) ++ "]"
  | .object map => "\x7b" ++ ",".intercalate (renderEntries map) ++ "\x7d"

def renderItems : List (Value Num) → List String
  | [] => []
  | value :: rest => render value :: renderItems rest

def renderEntries : List (String × Value Num) → List String
  | [] => []
  | (k, v) :: rest => (quote k ++ ":" ++ render v) :: renderEntries rest

end

def canonicalParamsJson (params : Value Num) : String := render (canonicalizeJson params)

end HoldemPlatform.Auth.Json
