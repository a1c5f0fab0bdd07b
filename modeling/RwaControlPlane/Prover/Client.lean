import RwaControlPlane.Catalog.Inputs
import RwaControlPlane.Library.JsObject
import RwaControlPlane.Callbacks.Envelope

open checked js_value
open rwa.storage (typeError)
open rwa.catalog (lookup leads isKeyIdPart sha256Pattern)
open rwa.callbacks (textOf)

namespace rwa.prover

/-- An answer of the service. A body that is no JSON is `none`. -/
structure ServiceResponse where
  /-- `x-rwa-prover-id` -/
  proverId : Option String
  byteLength : Nat
  ok : Bool
  status : Nat
  body : Option JsValue

def maxResponseBytes : Nat := 2 * 1024 * 1024

def identifierPattern : String → Bool := leads Char.isAlphanum isKeyIdPart 0 199

def errorCodePattern : String → Bool :=
  leads Char.isUpper (fun char => char.isUpper || char.isDigit || char = '_') 0 79

/-- An opaque reference to a vault, an HSM or a KMS, with the bound on its length. -/
def witnessReferencePattern (text : String) : Bool :=
  js_text.length text ≤ 500 &&
    ["vault://", "hsm://", "kmsref://"].any fun scheme =>
      scheme.toList.isPrefixOf text.toList &&
        match text.toList.drop scheme.length with
        | [] => false
        | char :: rest => char.isAlphanum && rest.all fun other => isKeyIdPart other || other = '/'

def boundedIdentifier (value label : String) : Except Failure Unit :=
  throwIf (identifierPattern value = false)
    ⟨"INVALID_PROVER_REQUEST", label ++ " is not a bounded canonical identifier"⟩

def invalidResponse (message : String) : Failure := ⟨"INVALID_PROVER_RESPONSE", message⟩

/-- A property of a body. -/
def member (body : JsValue) (key : String) : Except Failure JsValue :=
  require (property body key) (typeError ("Cannot read properties of null (reading '" ++ key ++ "')"))

/-- `#request` -/
def receive (expectedServiceId : String) (response : ServiceResponse) : Except Failure JsValue := do
  throwIf (response.proverId ≠ some expectedServiceId)
    ⟨"PROVER_IDENTITY_MISMATCH", "prover response identity does not match the deployment pin"⟩
  throwIf (maxResponseBytes < response.byteLength)
    ⟨"PROVER_RESPONSE_TOO_LARGE", "prover response exceeds the configured size limit"⟩
  let body ← require response.body (invalidResponse "prover response is not valid JSON")
  throwIf (response.ok = false)
    ⟨"PROVER_SERVICE_REJECTED", "prover service rejected the request with status " ++ toString response.status⟩
  pure body

section Texts

variable (numberText : Rat → String)

/-- An item of an array literal of the driver. -/
def escapeElement (text : String) : String :=
  String.ofList (Char.ofNat 34 ::
    (text.toList.flatMap fun char => if char = '\\' ∨ char = Char.ofNat 34 then ['\\', char] else [char]) ++
    [Char.ofNat 34])

mutual

/-- The text that the driver sends for a parameter of type text. -/
def parameterText : JsValue → String
  | .array items => "\x7b" ++ ",".intercalate (elementTexts items) ++ "\x7d"
  | .undefined => stringOf numberText invalidDate .undefined
  | .null => stringOf numberText invalidDate .null
  | .bool value => stringOf numberText invalidDate (.bool value)
  | .number value => stringOf numberText invalidDate (.number value)
  | .notFinite => stringOf numberText invalidDate .notFinite
  | .bigint value => stringOf numberText invalidDate (.bigint value)
  | .string text => text
  | .date time => stringOf numberText invalidDate (.date time)
  | .object members => stringOf numberText invalidDate (.object members)
termination_by structural value => value

def elementTexts : List JsValue → List String
  | [] => []
  | .undefined :: rest => "NULL" :: elementTexts rest
  | .null :: rest => "NULL" :: elementTexts rest
  | .array items :: rest => parameterText (.array items) :: elementTexts rest
  | item :: rest => escapeElement (parameterText item) :: elementTexts rest
termination_by structural items => items

end

/-- `IDENTIFIER.test(value ?? "")` -/
def isIdentifier : JsValue → Bool
  | .undefined | .null => identifierPattern ""
  | value => identifierPattern (stringOf numberText invalidDate value)

/-- Arguments of `submitJob`. -/
structure SubmitRequest where
  requestId : String
  transactionId : String
  circuitId : String
  circuitVersion : String
  authorizationHash : String
  witnessReference : String

/-- The identity that the service gives to a submitted job. -/
def submitJob (expectedServiceId : String) (request : SubmitRequest) (response : ServiceResponse) :
    Except Failure String := do
  boundedIdentifier request.requestId "requestId"
  boundedIdentifier request.transactionId "transactionId"
  boundedIdentifier request.circuitId "circuitId"
  boundedIdentifier request.circuitVersion "circuitVersion"
  throwIf (witnessReferencePattern request.witnessReference = false)
    ⟨"INVALID_WITNESS_REFERENCE", "witnessReference must be an opaque vault, HSM or KMS reference"⟩
  throwIf (sha256Pattern request.authorizationHash = false)
    ⟨"INVALID_PROVER_REQUEST", "authorizationHash must be a lowercase SHA-256 digest"⟩
  let body ← receive expectedServiceId response
  let schema ← member body "schema"
  let jobId ← member body "jobId"
  let state ← member body "state"
  throwIf (textOf (some schema) ≠ some "rwa.prover-job-status.v1" ∨ isIdentifier numberText jobId = false ∨
      ∀ text ∈ ["QUEUED", "RUNNING"], textOf (some state) ≠ some text)
    (invalidResponse "prover submission response has an invalid job identity or state")
  pure (parameterText numberText jobId)

end Texts

/-- What `getJob` returns for a job. -/
inductive RemoteJob
  | pending
  | succeeded (proof : JsValue) (publicSignals : List String)
  | failed (errorCode : String)
  | cancelled

/-- `validateProofPackage` -/
def validateProofPackage (value : JsValue) : Except Failure (JsValue × List String) :=
  let failure := invalidResponse
    "completed prover job must return a proof and exactly 13 canonical public signals"
  match value with
  | .object members =>
    match lookup members "proof", lookup members "publicSignals" with
    | some proof, some (.array items) => do
      throwIf (isTruthy proof = false ∨ items.length ≠ 13 ∨
          ¬∀ item ∈ items, ∃ text ∈ textOf (some item), decimal.isCanonical text = true) failure
      pure (proof, items.filterMap fun item => textOf (some item))
    | _, _ => .error failure
  | _ => .error failure

/-- `getJob` -/
def getJob (expectedServiceId jobId : String) (response : ServiceResponse) : Except Failure RemoteJob := do
  boundedIdentifier jobId "jobId"
  let body ← receive expectedServiceId response
  let schema ← member body "schema"
  let answered ← member body "jobId"
  let state ← member body "state"
  throwIf (textOf (some schema) ≠ some "rwa.prover-job-status.v1" ∨ textOf (some answered) ≠ some jobId)
    (invalidResponse "prover status response has an invalid identity or state")
  match textOf (some state) with
  | some "QUEUED" => pure .pending
  | some "RUNNING" => pure .pending
  | some "SUCCEEDED" => do
    let result ← member body "result"
    let (proof, publicSignals) ← validateProofPackage result
    pure (.succeeded proof publicSignals)
  | some "FAILED" => do
    let errorCode ← member body "errorCode"
    pure (.failed (((textOf (some errorCode)).filter errorCodePattern).getD "PROVER_JOB_FAILED"))
  | some "CANCELLED" => pure .cancelled
  | _ => .error (invalidResponse "prover status response has an invalid identity or state")

section Identity

variable {numberText : Rat → String} {value : JsValue}

theorem ne_empty_of_identifierPattern {text : String} (h : identifierPattern text = true) : text ≠ "" := by
  rintro rfl
  cases h

/-- The identity of a submitted job is never empty. -/
theorem parameterText_ne_empty (h : isIdentifier numberText value = true) : parameterText numberText value ≠ "" := by
  cases value with
  | undefined => cases h
  | null => cases h
  | array items =>
    intro hempty
    have hlength := congrArg String.length hempty
    simp [parameterText, String.length_append] at hlength
  | _ => exact ne_empty_of_identifierPattern h

theorem submitJob_ne_empty {expectedServiceId : String} {request : SubmitRequest} {response : ServiceResponse}
    {jobId : String} (h : submitJob numberText expectedServiceId request response = .ok jobId) : jobId ≠ "" := by
  simp only [submitJob, bind_eq_ok_iff, throwIf_eq_ok_iff, exists_unit, pure_eq_ok_iff, not_or,
    Bool.not_eq_false] at h
  obtain ⟨_, _, _, _, _, _, body, _, schema, _, identity, _, state, _, ⟨_, hidentity, _⟩, rfl⟩ := h
  exact parameterText_ne_empty hidentity

end Identity

end rwa.prover
