import RwaControlPlane.Callbacks.Schema
import RwaControlPlane.Library.Decimal
import RwaControlPlane.Library.JsObject

open checked js_value
open rwa.storage (typeError sha256Canonical)
open rwa.catalog (lookup leads currencyPattern keyIdPattern)

namespace rwa.callbacks

/-- A callback as it is posted: an object that was read from JSON. -/
structure PostedCallback where
  members : List (String × JsValue)
  json (isoText : Int → String) : jsonCopy isoText (.object members) = some (.object members)

def defaultCallbackKeyId : String := "primary-v1"

def callbackSchema : String := "rwa.institution-callback.v1"

def invalidCallback (field : String) : Failure := ⟨"INVALID_CALLBACK", field ++ " is required"⟩

def invalidPayload (message : String) : Failure := ⟨"INVALID_CALLBACK_PAYLOAD", message⟩

/-- A required text of an envelope. -/
def requiredText (members : List (String × JsValue)) (field : String) : Except Failure String :=
  match lookup members field with
  | some (.string text) => if text = "" then .error (invalidCallback field) else .ok text
  | _ => .error (invalidCallback field)

/-- `Number.isSafeInteger(value) && value > 0` -/
def positiveInteger : Option JsValue → Option Nat
  | some (.number value) => if value.den = 1 ∧ 0 < value ∧ value ≤ 9007199254740991 then some value.num.toNat else none
  | _ => none

/-- The members of a value that is an object and no array. -/
def objectMembers : Option JsValue → Option (List (String × JsValue))
  | some (.object members) => some members
  | _ => none

/-- A value that is a text. -/
def textOf : Option JsValue → Option String
  | some (.string text) => some text
  | _ => none

def assetCodePattern : String → Bool :=
  leads Char.isAlphanum (fun char => char.isAlphanum || [':', '_', '-'].contains char) 1 127

/-- The properties that every object inherits. -/
def inheritedProperties : List String :=
  ["constructor", "hasOwnProperty", "isPrototypeOf", "propertyIsEnumerable", "toLocaleString", "toString", "valueOf",
    "__proto__", "__defineGetter__", "__defineSetter__", "__lookupGetter__", "__lookupSetter__"]

/-- A channel that has an entry in the table of channels. The entry can be an
inherited one. -/
inductive ChannelName
  | known (channel : Channel)
  | inherited (name : String)

namespace ChannelName

def text : ChannelName → String
  | known channel => channel.text
  | inherited name => name

def subjectType : ChannelName → String
  | known channel => channel.subjectType
  | inherited _ => "TRANSACTION"

def ofText (text : String) : Option ChannelName :=
  match Channel.ofText text with
  | some channel => some (known channel)
  | none => if text ∈ inheritedProperties then some (inherited text) else none

end ChannelName

/-- The members of an envelope that are read, once its form was checked. -/
structure Form where
  callbackId : String
  tenantId : String
  institutionId : String
  productId : String
  channel : ChannelName
  eventType : String
  occurredAt : String
  expiresAt : String
  payloadHash : String
  signature : String
  keyId : Option String
  sequence : Nat
  payload : List (String × JsValue)
  subjectRef : String
  outcome : Outcome
  /-- `new Date(envelope.occurredAt)` -/
  signedAt : Int

/-- An envelope on a channel that institutions are assigned to. -/
structure Envelope extends Form where
  stream : Stream

variable (service : CallbackService)

/-- `validateInstitutionCallbackEnvelope` without the business rules. -/
def checkForm (now : Int) (members : List (String × JsValue)) : Except Failure Form := do
  throwIf (textOf (lookup members "schema") ≠ some callbackSchema)
    ⟨"UNSUPPORTED_CALLBACK_SCHEMA", "callback schema is unsupported"⟩
  let callbackId ← requiredText members "callbackId"
  let tenantId ← requiredText members "tenantId"
  let institutionId ← requiredText members "institutionId"
  let productId ← requiredText members "productId"
  let channel ← requiredText members "channel"
  let eventType ← requiredText members "eventType"
  let occurredAt ← requiredText members "occurredAt"
  let expiresAt ← requiredText members "expiresAt"
  let payloadHash ← requiredText members "payloadHash"
  let signature ← requiredText members "signature"
  let channel ← require (ChannelName.ofText channel) ⟨"INVALID_CALLBACK_CHANNEL", "callback channel is unsupported"⟩
  let keyId := lookup members "keyId"
  throwIf (keyId.isSome ∧ ((textOf keyId).any keyIdPattern) = false)
    ⟨"INVALID_CALLBACK_KEY_ID", "callback keyId is not a bounded key identifier"⟩
  let sequence ← require (positiveInteger (lookup members "sequence"))
    ⟨"INVALID_CALLBACK_SEQUENCE", "callback sequence must be positive"⟩
  let payload ← require (objectMembers (lookup members "payload")) (invalidPayload "callback payload is required")
  let missing := invalidPayload "callback outcome and subjectRef are required"
  let outcome ← require ((textOf (lookup payload "outcome")).bind Outcome.ofText) missing
  let subjectRef ← require (textOf (lookup payload "subjectRef")) missing
  let hash ← sha256Canonical service.platform (.object payload)
  throwIf (hash ≠ payloadHash) ⟨"CALLBACK_PAYLOAD_TAMPERED", "callback payload hash mismatch"⟩
  let invalidTime : Failure := ⟨"INVALID_CALLBACK_TIME", "callback time window is invalid"⟩
  let occurred ← require (service.dateTime occurredAt) invalidTime
  let expires ← require (service.dateTime expiresAt) invalidTime
  throwIf (expires ≤ occurred) invalidTime
  throwIf (service.maxClockSkewMs < occurred - now)
    ⟨"CALLBACK_FROM_FUTURE", "callback occurredAt is too far in the future"⟩
  throwIf (expires ≤ now) ⟨"CALLBACK_EXPIRED", "callback has expired"⟩
  throwIf (service.maxValidityMs < expires - occurred)
    ⟨"CALLBACK_VALIDITY_TOO_LONG", "callback validity window is too long"⟩
  pure
    { callbackId, tenantId, institutionId, productId, channel, eventType, occurredAt, expiresAt, payloadHash, signature
      sequence, payload, subjectRef, outcome, keyId := textOf keyId, signedAt := occurred }

/-- `String(value)`. An object with a `toString` of its own, which JSON cannot make
a function, has no text. -/
def textOrThrow (value : JsValue) : Except Failure String := do
  throwIf (hasOwnToString value = true) (typeError "Cannot convert object to primitive value")
  pure (stringOf service.platform.numberText service.dateText value)

/-- Whether `new Date(value)` is a time. -/
def isTime (value : JsValue) : Except Failure Bool :=
  match value with
  | .number value => .ok (|value| ≤ 8640000000000000)
  | .null | .bool _ | .date _ => .ok true
  | .undefined | .notFinite => .ok false
  | other => do
    let text ← textOrThrow service other
    pure (service.dateTime text).isSome

/-- A test of a member of `details`. -/
inductive DetailTest
  | isText (field : String)
  | pattern (field : String) (accepts : String → Bool)
  | nonZero (field : String)
  | positive (field : String)
  | isDate (field : String)

/-- The tests of the members of `details`, in their order. -/
def detailTests : Channel → List DetailTest
  | .register =>
    [.isText "registerReference", .pattern "assetCode" assetCodePattern, .pattern "units" decimal.isCanonical,
      .nonZero "units", .positive "registerVersion"]
  | .cash =>
    [.isText "bankReference", .pattern "currency" currencyPattern, .pattern "amountMinor" decimal.isCanonical,
      .nonZero "amountMinor", .pattern "feeMinor" decimal.isCanonical]
  | .custody =>
    [.isText "statementId", .pattern "assetCode" assetCodePattern, .pattern "balanceUnits" decimal.isCanonical,
      .isDate "asOf"]

/-- A pattern is tested on the text of a value, and a missing value is undefined. -/
def DetailTest.run (details : List (String × JsValue)) : DetailTest → Except Failure Bool
  | .isText field => .ok (textOf (lookup details field)).isSome
  | .pattern field accepts => do
    let text ← textOrThrow service ((lookup details field).getD .undefined)
    pure (accepts text)
  | .nonZero field => .ok (textOf (lookup details field) ≠ some "0")
  | .positive field => .ok (positiveInteger (lookup details field)).isSome
  | .isDate field => isTime service ((lookup details field).getD .undefined)

/-- The names of the members of `details`. -/
def detailFields : Channel → List String
  | .register => ["registerReference", "assetCode", "units", "registerVersion"]
  | .cash => ["bankReference", "currency", "amountMinor", "feeMinor"]
  | .custody => ["statementId", "assetCode", "balanceUnits", "asOf"]

/-- `rules.validate(payload.details)` after the test of the members' names. -/
def checkDetails (channel : ChannelName) (details : List (String × JsValue)) : Except Failure Unit :=
  match channel with
  | .inherited _ => .error (typeError "Cannot read properties of undefined (reading 'length')")
  | .known channel => do
    let mismatched := invalidPayload (channel.text ++ " callback details do not match schema")
    throwIf (details.length ≠ (detailFields channel).length ∨
      ∃ field ∈ detailFields channel, (lookup details field).isNone) mismatched
    let matched ← (detailTests channel).allM (DetailTest.run service details)
    throwIf (matched = false) mismatched

/-- The business rules up to the details. -/
def checkSubject (form : Form) : Except Failure (List (String × JsValue)) := do
  throwIf (form.eventType ≠ form.channel.text ++ "." ++ form.outcome.text)
    ⟨"CALLBACK_EVENT_OUTCOME_MISMATCH", "eventType must match channel and outcome"⟩
  throwIf (textOf (lookup form.payload "subjectType") ≠ some form.channel.subjectType)
    ⟨"INVALID_CALLBACK_SUBJECT", form.channel.text ++ " requires " ++ form.channel.subjectType⟩
  let unsupported := invalidPayload "callback payload contains unsupported fields"
  throwIf (∃ member ∈ form.payload, member.1 ∉ ["subjectType", "subjectRef", "outcome", "details"]) unsupported
  require (objectMembers (lookup form.payload "details")) unsupported

/-- `validateInstitutionCallbackEnvelope` with the business rules, on a value that
was read from JSON. Only an object has a schema. -/
def validateInstitutionCallbackEnvelope (now : Int) (envelope : JsValue) :
    Except Failure (Form × List (String × JsValue)) :=
  match envelope with
  | .object members => do
    let form ← checkForm service now members
    let details ← checkSubject form
    checkDetails service form.channel details
    pure (form, details)
  | _ => .error ⟨"UNSUPPORTED_CALLBACK_SCHEMA", "callback schema is unsupported"⟩

def authenticationFailed : Failure := ⟨"CALLBACK_AUTHENTICATION_FAILED", "callback could not be authenticated"⟩

/-- An envelope whose form was checked, on a channel that institutions are assigned
to. No assignment has an inherited entry as its role. -/
def checkEnvelope (now : Int) (members : List (String × JsValue)) : Except Failure Envelope := do
  let form ← checkForm service now members
  match form.channel with
  | .inherited _ => .error authenticationFailed
  | .known channel =>
    pure
      { form with
        stream :=
          { tenantId := form.tenantId, institutionId := form.institutionId, productId := form.productId, channel } }

/-- The payload of an envelope that meets the business rules. -/
def checkBusinessRules (envelope : Envelope) : Except Failure Payload := do
  let details ← checkSubject envelope.toForm
  checkDetails service envelope.channel details
  pure { members := envelope.payload, subjectRef := envelope.subjectRef, outcome := envelope.outcome, details }

/-- `unsigned(envelope)` -/
def unsigned (members : List (String × JsValue)) : JsValue := .object (members.filter (·.1 ≠ "signature"))

/-- `verifyInstitutionCallbackSignature` -/
def signatureValid (members : List (String × JsValue)) (signature publicKeyPem : String) : Bool :=
  match canonicalize service.platform.numberText (unsigned members) with
  | .ok (some message) =>
    service.asymmetricKeyType publicKeyPem = some "ed25519" && service.verify message publicKeyPem signature
  | _ => false

end rwa.callbacks
