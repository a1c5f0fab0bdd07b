import RwaControlPlane.Gate.Store
import RwaControlPlane.Library.JsJson

open checked js_value

namespace rwa.storage

/-- What the services take from the runtime: the hash of a text, and the texts of
numbers and dates. -/
structure Platform where
  sha256 : String → String
  numberText : Rat → String
  isoText : Int → String

def typeError (message : String) : Failure := ⟨"", message⟩

def notNullViolation : Failure := ⟨"23502", "null value violates not-null constraint"⟩

def checkViolation : Failure := ⟨"23514", "new row violates check constraint"⟩

def bigintOutOfRange : Failure := ⟨"22003", "value is out of range for type bigint"⟩

variable (platform : Platform)

/-- The hash of the canonical text of a value. -/
def sha256Canonical (value : JsValue) : Except Failure String :=
  match canonicalize platform.numberText value with
  | .ok (some text) => .ok (platform.sha256 text)
  | .ok none => .error (typeError "The data argument must be of type string")
  | .error message => .error (typeError message)

/-- `JSON.stringify(value)` as the parameter of a `jsonb NOT NULL` column, and
what is read back from the column. -/
def jsonParameter (value : JsValue) : Except Failure JsValue := do
  let copy ← rethrow typeError (stored platform.isoText value)
  require copy notNullViolation

/-- `CHECK (… ~ '^[0-9a-f]{64}$')` -/
def IsHash (text : String) : Prop :=
  text.toList.length = 64 ∧ text.toList.all (fun char => char.isDigit || ('a' ≤ char && char ≤ 'f')) = true

instance (text : String) : Decidable (IsHash text) :=
  inferInstanceAs (Decidable (_ ∧ _))

end rwa.storage
