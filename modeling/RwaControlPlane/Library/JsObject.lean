import RwaControlPlane.Library.JsValue
import RwaControlPlane.Library.KeyedRows

namespace js_value

/-- A property of a value. Nothing has properties but an object, and `undefined` and
`null` cannot be asked for one. -/
def property (value : JsValue) (key : String) : Option JsValue :=
  match value with
  | .undefined | .null => none
  | .object members => some (((members.find? (·.1 = key)).map (·.2)).getD .undefined)
  | _ => some .undefined

/-- A member of an object is read under its key. -/
theorem property_of_mem {members : List (String × JsValue)} (hkeys : (members.map Prod.fst).Nodup) {key : String}
    {value : JsValue} (h : (key, value) ∈ members) : property (.object members) key = some value := by
  have hfind := keyed_rows.find_key_of_mem hkeys h
  simp only [property]
  rw [hfind]
  rfl

/-- What is read of an object, and not undefined, is one of its members. -/
theorem mem_of_property {members : List (String × JsValue)} {key : String} {value : JsValue}
    (hvalue : value ≠ .undefined) (h : property (.object members) key = some value) : (key, value) ∈ members := by
  simp only [property, Option.some.injEq] at h
  cases hfind : members.find? (·.1 = key) with
  | none =>
    rw [hfind] at h
    exact absurd h.symm hvalue
  | some member =>
    rw [hfind] at h
    obtain rfl : member.1 = key := by simpa using List.find?_some hfind
    obtain rfl : member.2 = value := h
    exact List.mem_of_find?_eq_some hfind

/-- `Boolean(value)` -/
def isTruthy : JsValue → Bool
  | .undefined | .null | .notFinite => false
  | .bool value => value
  | .number value => value ≠ 0
  | .bigint value => value ≠ 0
  | .string text => text ≠ ""
  | .date _ | .array _ | .object _ => true

/-- `first === second`, where neither is the same object as the other. -/
def strictEquals : JsValue → JsValue → Bool
  | .undefined, .undefined => true
  | .null, .null => true
  | .bool first, .bool second => first = second
  | .number first, .number second => first = second
  | .bigint first, .bigint second => first = second
  | .string first, .string second => first = second
  | _, _ => false

/-- A value that is a text. -/
def asText : JsValue → Option String
  | .string text => some text
  | _ => none

section Texts

-- `String` of a number and of a date
variable (numberText : Rat → String) (dateText : Int → String)

mutual

/-- `String(value)` -/
def stringOf : JsValue → String
  | .undefined => "undefined"
  | .null => "null"
  | .bool value => toString value
  | .number value => numberText value
  | .notFinite => "NaN"
  | .bigint value => toString value
  | .string text => text
  | .date time => dateText time
  | .array items => ",".intercalate (stringItems items)
  | .object _ => "[object Object]"
termination_by structural value => value

/-- `join` writes nothing for an item that is undefined or null. -/
def stringItems : List JsValue → List String
  | [] => []
  | .undefined :: rest => "" :: stringItems rest
  | .null :: rest => "" :: stringItems rest
  | item :: rest => stringOf item :: stringItems rest
termination_by structural items => items

end

/-- The text of a date that is none. -/
def invalidDate : Int → String := fun _ => "Invalid Date"

end Texts

mutual

/-- Whether asking for the text of a value meets an object with a member named
`toString`. -/
def hasOwnToString : JsValue → Bool
  | .array items => hasOwnToStringItems items
  | .object members => members.any (·.1 = "toString")
  | _ => false
termination_by structural value => value

def hasOwnToStringItems : List JsValue → Bool
  | [] => false
  | item :: rest => hasOwnToString item || hasOwnToStringItems rest
termination_by structural items => items

end

end js_value
