import Mathlib.Data.List.Sort
import Mathlib.Data.Rat.Defs

namespace js_value

/-- Data values of JavaScript. The members of an object are its own enumerable
properties, and `notFinite` stands for the numbers that JSON cannot write. -/
inductive JsValue where
  | undefined
  | null
  | bool (value : Bool)
  | number (value : Rat)
  | notFinite
  | bigint (value : Int)
  | string (text : String)
  | date (time : Int)
  | array (items : List JsValue)
  | object (members : List (String × JsValue))
deriving Inhabited

/-- UTF-16 code units of a text. -/
def codeUnits (text : String) : List Nat :=
  text.toList.flatMap fun char =>
    if char.toNat ≤ 0xffff then [char.toNat]
    else [0xd800 + (char.toNat - 0x10000) / 0x400, 0xdc00 + (char.toNat - 0x10000) % 0x400]

/-- Order of `sort` on texts. -/
def keyLe (first second : String) : Prop := ¬codeUnits second < codeUnits first

instance : DecidableRel keyLe := fun first second => inferInstanceAs (Decidable (¬codeUnits second < codeUnits first))

/-- A character as `JSON.stringify` writes it inside a text. -/
def quoteChar (char : Char) : List Char :=
  match char.toNat with
  | 8 => ['\\', 'b']
  | 9 => ['\\', 't']
  | 10 => ['\\', 'n']
  | 12 => ['\\', 'f']
  | 13 => ['\\', 'r']
  | 34 => ['\\', Char.ofNat 34]
  | 92 => ['\\', '\\']
  | code =>
    if code < 0x20 then ['\\', 'u', '0', '0', Nat.digitChar (code / 16), Nat.digitChar (code % 16)] else [char]

/-- `JSON.stringify` of a text. -/
def quote (text : String) : String :=
  String.ofList (Char.ofNat 34 :: text.toList.flatMap quoteChar ++ [Char.ofNat 34])

section Canonicalize

-- `JSON.stringify` of a number is left open
variable (numberText : Rat → String)

mutual

/-- The canonical text of a value: JSON with sorted keys. It is undefined for a
value without JSON text, and a BigInt cannot be written. -/
def canonicalize : JsValue → Except String (Option String)
  | .undefined => .ok none
  | .null => .ok (some "null")
  | .notFinite => .ok (some "null")
  | .bool value => .ok (some (toString value))
  | .number value => .ok (some (numberText value))
  | .bigint _ => .error "Do not know how to serialize a BigInt"
  | .string text => .ok (some (quote text))
  | .date _ => .ok (some "\x7b\x7d")
  | .array items => do
    let texts ← canonicalizeItems items
    -- `join` writes nothing for an undefined item
    return some ("[" ++ ",".intercalate (texts.map (·.getD "")) ++ "]")
  | .object members => do
    let texts ← canonicalizeMembers members
    let sorted := texts.insertionSort fun first second => keyLe first.1 second.1
    return some ("\x7b" ++ ",".intercalate (sorted.map fun member =>
      quote member.1 ++ ":" ++ member.2.getD "undefined") ++ "\x7d")
termination_by structural value => value

def canonicalizeItems : List JsValue → Except String (List (Option String))
  | [] => .ok []
  | item :: rest => do
    let text ← canonicalize item
    let texts ← canonicalizeItems rest
    return text :: texts
termination_by structural items => items

def canonicalizeMembers : List (String × JsValue) → Except String (List (String × Option String))
  | [] => .ok []
  | (key, value) :: rest => do
    let text ← canonicalize value
    let texts ← canonicalizeMembers rest
    return (key, text) :: texts
termination_by structural members => members

end

end Canonicalize

mutual

/-- Whether a BigInt stands anywhere in a value. -/
def hasBigInt : JsValue → Bool
  | .bigint _ => true
  | .array items => hasBigIntItems items
  | .object members => hasBigIntMembers members
  | _ => false
termination_by structural value => value

def hasBigIntItems : List JsValue → Bool
  | [] => false
  | item :: rest => hasBigInt item || hasBigIntItems rest
termination_by structural items => items

def hasBigIntMembers : List (String × JsValue) → Bool
  | [] => false
  | (_, value) :: rest => hasBigInt value || hasBigIntMembers rest
termination_by structural members => members

end

theorem hasBigIntMembers_append {first second : List (String × JsValue)} :
    hasBigIntMembers (first ++ second) = (hasBigIntMembers first || hasBigIntMembers second) := by
  induction first with
  | nil => rfl
  | cons entry rest ih =>
    obtain ⟨key, value⟩ := entry
    simp only [List.cons_append, hasBigIntMembers, ih, Bool.or_assoc]

theorem hasBigIntItems_of_forall {items : List JsValue} (h : ∀ item ∈ items, hasBigInt item = false) :
    hasBigIntItems items = false := by
  induction items with
  | nil => rfl
  | cons item rest ih =>
    rw [hasBigIntItems, h item List.mem_cons_self, ih fun other hother => h other (List.mem_cons_of_mem _ hother)]
    rfl

section Failure

variable {numberText : Rat → String}

mutual

/-- Exactly the values without a BigInt have a canonical text. -/
theorem canonicalize_isOk : ∀ value, (canonicalize numberText value).isOk = !hasBigInt value
  | .undefined | .null | .notFinite | .bool _ | .number _ | .bigint _ | .string _ | .date _ => rfl
  | .array items => by
    have hitems := canonicalizeItems_isOk items
    simp only [canonicalize, hasBigInt]
    cases h : canonicalizeItems numberText items with
    | error message => simpa [h, bind, Except.bind, Except.isOk, Except.toBool] using hitems
    | ok texts => simpa [h, bind, Except.bind, Except.isOk, Except.toBool, pure, Except.pure] using hitems
  | .object members => by
    have hmembers := canonicalizeMembers_isOk members
    simp only [canonicalize, hasBigInt]
    cases h : canonicalizeMembers numberText members with
    | error message => simpa [h, bind, Except.bind, Except.isOk, Except.toBool] using hmembers
    | ok texts => simpa [h, bind, Except.bind, Except.isOk, Except.toBool, pure, Except.pure] using hmembers
termination_by structural value => value

theorem canonicalizeItems_isOk : ∀ items, (canonicalizeItems numberText items).isOk = !hasBigIntItems items
  | [] => rfl
  | item :: rest => by
    have hitem := canonicalize_isOk item
    have hrest := canonicalizeItems_isOk rest
    simp only [canonicalizeItems, hasBigIntItems, Bool.not_or]
    rw [← hitem, ← hrest]
    cases canonicalize numberText item with
    | error message => rfl
    | ok text => cases canonicalizeItems numberText rest <;> rfl
termination_by structural items => items

theorem canonicalizeMembers_isOk :
    ∀ members, (canonicalizeMembers numberText members).isOk = !hasBigIntMembers members
  | [] => rfl
  | (key, value) :: rest => by
    have hvalue := canonicalize_isOk value
    have hrest := canonicalizeMembers_isOk rest
    simp only [canonicalizeMembers, hasBigIntMembers, Bool.not_or]
    rw [← hvalue, ← hrest]
    cases canonicalize numberText value with
    | error message => rfl
    | ok text => cases canonicalizeMembers numberText rest <;> rfl
termination_by structural members => members

end

theorem canonicalize_eq_ok_iff {value : JsValue} :
    (∃ text, canonicalize numberText value = .ok text) ↔ hasBigInt value = false := by
  have h := @canonicalize_isOk numberText value
  cases hrun : canonicalize numberText value with
  | error message =>
    simp only [hrun, Except.isOk, Except.toBool] at h
    simp [← Bool.not_eq_true', ← h]
  | ok text =>
    simp only [hrun, Except.isOk, Except.toBool] at h
    simp [← Bool.not_eq_true', ← h]

/-- The canonical text of an object is a text. -/
theorem canonicalize_object_eq_some {members : List (String × JsValue)} (h : hasBigIntMembers members = false) :
    ∃ text, canonicalize numberText (.object members) = .ok (some text) := by
  have hmembers := @canonicalizeMembers_isOk numberText members
  rw [h] at hmembers
  cases hrun : canonicalizeMembers numberText members with
  | error message => simp [hrun, Except.isOk, Except.toBool] at hmembers
  | ok texts =>
    simp only [canonicalize, hrun, bind, Except.bind]
    exact ⟨_, rfl⟩

end Failure

end js_value
