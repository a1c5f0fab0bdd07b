import RwaControlPlane.Callbacks.Accepted
import RwaControlPlane.Library.JsJson

open checked js_value
open rwa.storage (typeError sha256Canonical Platform)
open rwa.catalog (lookup keyIdPattern)

namespace rwa.callbacks

/-- What a connector is asked to make an envelope of. A missing argument is
undefined. -/
structure EnvelopeArguments where
  callbackId : JsValue
  tenantId : JsValue
  institutionId : JsValue
  productId : JsValue
  channel : JsValue
  sequence : JsValue
  payload : JsValue
  occurredAt : JsValue
  validityMs : JsValue
  keyId : JsValue
  payloadKeys : distinctKeys payload = true

def latestTime : Int := 8640000000000000

/-- A time as a date holds it. -/
def timeClip (time : Int) : Option Int := if |time| ≤ latestTime then some time else none

variable (service : CallbackService)

/-- `new Date(value)` -/
def dateOf (value : JsValue) : Except Failure (Option Int) :=
  match value with
  | .number value => .ok (if |value| ≤ latestTime then some (value.num.tdiv value.den) else none)
  | .null => .ok (some 0)
  | .bool value => .ok (some (if value then 1 else 0))
  | .date time => .ok (timeClip time)
  | .undefined | .notFinite => .ok none
  | .bigint _ => .error (typeError "Cannot convert a BigInt value to a number")
  | other => do
    let text ← textOrThrow service other
    pure (service.dateTime text)

/-- A text of 1 to 200 code units. -/
def bounded (value : JsValue) (label : String) : Except Failure String :=
  match value with
  | .string text =>
    if 1 ≤ (codeUnits text).length ∧ (codeUnits text).length ≤ 200 then .ok text
    else .error ⟨"INVALID_CONNECTOR_FIELD", label ++ " must be a bounded non-empty string"⟩
  | _ => .error ⟨"INVALID_CONNECTOR_FIELD", label ++ " must be a bounded non-empty string"⟩

/-- The value of an argument with a default. -/
def orDefault (value default : JsValue) : JsValue :=
  match value with
  | .undefined => default
  | value => value

/-- An integer from 1 000 to 86 400 000. -/
def validityOf : JsValue → Option Int
  | .number value => if value.den = 1 ∧ 1000 ≤ value ∧ value ≤ 86400000 then some value.num else none
  | _ => none

/-- A value that is an object and no array. -/
def isObject : JsValue → Bool
  | .object _ | .date _ => true
  | _ => false

/-- An envelope before it is signed. -/
structure EnvelopeBody where
  callbackId : String
  tenantId : String
  institutionId : String
  productId : String
  channel : String
  sequence : Nat
  keyId : String
  eventType : String
  occurredAt : String
  expiresAt : String
  payloadHash : String
  payload : JsValue

def EnvelopeBody.members (body : EnvelopeBody) : List (String × JsValue) :=
  [("schema", .string callbackSchema), ("callbackId", .string body.callbackId), ("tenantId", .string body.tenantId),
    ("institutionId", .string body.institutionId), ("productId", .string body.productId),
    ("channel", .string body.channel), ("sequence", .number body.sequence), ("keyId", .string body.keyId),
    ("eventType", .string body.eventType), ("occurredAt", .string body.occurredAt),
    ("expiresAt", .string body.expiresAt), ("payloadHash", .string body.payloadHash), ("payload", body.payload)]

/-- The arguments of `createSignedCallback` in `createEnvelope`. `now` is the default
of the time at which the event occurred. -/
def envelopeBody (now : Int) (arguments : EnvelopeArguments) : Except Failure EnvelopeBody := do
  let callbackId ← bounded arguments.callbackId "callbackId"
  let tenantId ← bounded arguments.tenantId "tenantId"
  let institutionId ← bounded arguments.institutionId "institutionId"
  let productId ← bounded arguments.productId "productId"
  let channel ← bounded arguments.channel "channel"
  let sequence ← require (positiveInteger (some arguments.sequence))
    ⟨"INVALID_CONNECTOR_SEQUENCE", "sequence must be a positive safe integer"⟩
  throwIf (isObject arguments.payload = false) ⟨"INVALID_CONNECTOR_PAYLOAD", "payload object is required"⟩
  let occurred ← dateOf service (orDefault arguments.occurredAt (.date now))
  let invalidTime : Failure := ⟨"INVALID_CONNECTOR_TIME", "callback time and validity window are invalid"⟩
  let occurred ← require occurred invalidTime
  let validity ← require (validityOf (orDefault arguments.validityMs (.number 300000))) invalidTime
  let keyId ← bounded (orDefault arguments.keyId (.string defaultCallbackKeyId)) "keyId"
  let outcome ← textOrThrow service ((property arguments.payload "outcome").getD .undefined)
  let expires ← require (timeClip (occurred + validity)) ⟨"", "Invalid time value"⟩
  let payloadHash ← sha256Canonical service.platform arguments.payload
  pure
    { callbackId, tenantId, institutionId, productId, channel, sequence, keyId, payloadHash
      eventType := channel ++ "." ++ outcome, occurredAt := service.platform.isoText occurred
      expiresAt := service.platform.isoText expires, payload := arguments.payload }

/-- `Buffer.from(canonicalize(value))` -/
def canonicalText (value : JsValue) : Except Failure String :=
  match canonicalize service.platform.numberText value with
  | .ok (some text) => .ok text
  | .ok none => .error (typeError "The first argument must be of type string")
  | .error message => .error (typeError message)

/-- `createSignedCallback` -/
def createSignedCallback (sign : String → Option String) (body : EnvelopeBody) :
    Except Failure (List (String × JsValue)) := do
  let message ← canonicalText service (.object body.members)
  let signature ← require (sign message) ⟨"", "the private key cannot sign"⟩
  pure (body.members ++ [("signature", .string signature)])

def createEnvelope (sign : String → Option String) (now : Int) (arguments : EnvelopeArguments) :
    Except Failure (List (String × JsValue)) := do
  let body ← envelopeBody service now arguments
  createSignedCallback service sign body

/-- The payload meets the business rules of its channel. -/
def MeetsBusinessRules (arguments : EnvelopeArguments) : Prop :=
  ∃ channel : Channel, ∃ payload details, arguments.channel = .string channel.text ∧
    arguments.payload = .object payload ∧ lookup payload "subjectType" = some (.string channel.subjectType) ∧
    (∀ member ∈ payload, member.1 ∈ ["subjectType", "subjectRef", "outcome", "details"]) ∧
    lookup payload "details" = some (.object details) ∧ checkDetails service (.known channel) details = .ok ()

/-- At every time of its window an envelope that was sent as JSON is accepted, and
its signature is valid. -/
def AcceptedInTime (publicKeyPem : String) (envelope : List (String × JsValue)) : Prop :=
  ∀ now occurred expires, (textOf (lookup envelope "occurredAt")).bind service.dateTime = some occurred →
    (textOf (lookup envelope "expiresAt")).bind service.dateTime = some expires → occurred ≤ now → now < expires →
    ∃ received form details, jsonCopy service.platform.isoText (.object envelope) = some (.object received) ∧
      validateInstitutionCallbackEnvelope service now (.object received) = .ok (form, details) ∧
      signatureValid service received form.signature publicKeyPem = true

/-- What the validator asks of the arguments and `createEnvelope` does not. -/
structure Conforms (publicKeyPem : String) (arguments : EnvelopeArguments) : Prop where
  keyId : ∃ keyId, orDefault arguments.keyId (.string defaultCallbackKeyId) = .string keyId ∧ keyIdPattern keyId = true
  outcome : ∃ outcome : Outcome, property arguments.payload "outcome" = some (.string outcome.text)
  subjectRef : ∃ subjectRef, property arguments.payload "subjectRef" = some (.string subjectRef)
  stable : jsonStable arguments.payload = true
  details : ∀ (channel : Channel) (details : List (String × JsValue)), arguments.channel = .string channel.text →
    property arguments.payload "details" = some (.object details) →
    ∀ test ∈ detailTests channel, test.run service (jsonMembers service.platform.isoText details) = .ok true
  ed25519 : service.asymmetricKeyType publicKeyPem = some "ed25519"

/-- How the runtime reads the times that it writes. -/
structure TimesRead : Prop where
  reads : ∀ time, |time| ≤ latestTime → service.dateTime (service.platform.isoText time) = some time
  range : ∀ text time, service.dateTime text = some time → |time| ≤ latestTime
  empty : service.dateTime "" = none

/-- A private key, by its signatures, and its public key. -/
structure KeyPair (sign : String → Option String) (publicKeyPem : String) : Prop where
  nonempty : ∀ message signature, sign message = some signature → signature ≠ ""
  verifies : ∀ message signature, sign message = some signature → service.verify message publicKeyPem signature = true

section Created

variable {service : CallbackService} {sign : String → Option String} {now : Int} {arguments : EnvelopeArguments}
  {body : EnvelopeBody}

private theorem bounded_eq_ok {value : JsValue} {label text : String} (h : bounded value label = .ok text) :
    value = .string text ∧ text ≠ "" := by
  unfold bounded at h
  split at h
  · next found =>
    split at h
    · next hlength =>
      cases h
      refine ⟨rfl, ?_⟩
      rintro rfl
      exact absurd hlength.1 (by decide)
    · cases h
  · cases h

private theorem timeClip_eq_some {time clipped : Int} (h : timeClip time = some clipped) :
    clipped = time ∧ |time| ≤ latestTime := by
  unfold timeClip at h
  split at h
  · next hrange => exact ⟨(Option.some.inj h).symm, hrange⟩
  · cases h

/-- A number is cut to an integer that is no further from zero. -/
private theorem abs_tdiv_le {value : Rat} (h : |value| ≤ latestTime) : |value.num.tdiv value.den| ≤ latestTime := by
  have hden : (0 : Rat) ≤ value.den := Nat.cast_nonneg value.den
  have hscaled : |(value.num : Rat)| ≤ latestTime * value.den := by
    calc |(value.num : Rat)| = |value * value.den| := by rw [Rat.mul_den_eq_num]
      _ = |value| * value.den := by rw [abs_mul, abs_of_nonneg hden]
      _ ≤ latestTime * value.den := mul_le_mul_of_nonneg_right h hden
  have hnum : |value.num| ≤ latestTime * value.den := by exact_mod_cast hscaled
  have hlatest : latestTime = ((8640000000000000 : Nat) : Int) := rfl
  rw [Int.abs_eq_natAbs, hlatest] at hnum ⊢
  rw [Int.natAbs_tdiv, Int.natAbs_natCast]
  have hnat : value.num.natAbs ≤ 8640000000000000 * value.den := by exact_mod_cast hnum
  exact_mod_cast Nat.div_le_of_le_mul (by rwa [Nat.mul_comm] at hnat)

private theorem dateOf_range (htimes : TimesRead service) {value : JsValue} {time : Int}
    (h : dateOf service value = .ok (some time)) : |time| ≤ latestTime := by
  unfold dateOf at h
  split at h
  · split at h
    · next hrange =>
      cases h
      exact abs_tdiv_le hrange
    · cases h
  · cases h
    decide
  · next value =>
    cases h
    cases value <;> decide
  · exact (timeClip_eq_some (Except.ok.inj h)).1 ▸ (timeClip_eq_some (Except.ok.inj h)).2
  · cases h
  · cases h
  · cases h
  · obtain ⟨text, -, htext⟩ := bind_eq_ok_iff.mp h
    exact htimes.range text time (pure_eq_ok_iff.mp htext)

/-- What is known of the body of an envelope. -/
private structure Created (service : CallbackService) (arguments : EnvelopeArguments) (body : EnvelopeBody) : Prop where
  callbackId : body.callbackId ≠ ""
  tenantId : body.tenantId ≠ ""
  institutionId : body.institutionId ≠ ""
  productId : body.productId ≠ ""
  channel : arguments.channel = .string body.channel
  sequence : 0 < body.sequence ∧ body.sequence ≤ 9007199254740991
  keyId : orDefault arguments.keyId (.string defaultCallbackKeyId) = .string body.keyId
  eventType : ∃ outcome, textOrThrow service ((property arguments.payload "outcome").getD .undefined) = .ok outcome ∧
    body.eventType = body.channel ++ "." ++ outcome
  window : ∃ occurred expires : Int, |occurred| ≤ latestTime ∧ |expires| ≤ latestTime ∧ occurred < expires ∧
    expires - occurred ≤ 86400000 ∧ body.occurredAt = service.platform.isoText occurred ∧
    body.expiresAt = service.platform.isoText expires
  hash : sha256Canonical service.platform arguments.payload = .ok body.payloadHash
  payload : body.payload = arguments.payload

private theorem validityOf_range {value : JsValue} {validity : Int} (h : validityOf value = some validity) :
    1000 ≤ validity ∧ validity ≤ 86400000 := by
  unfold validityOf at h
  split at h
  · next value =>
    split at h
    · next hrange =>
      obtain ⟨hden, hleast, hmost⟩ := hrange
      cases h
      have hnum : ((value.num : Int) : Rat) = value := (Rat.den_eq_one_iff value).mp hden
      rw [← hnum] at hleast hmost
      exact ⟨by exact_mod_cast hleast, by exact_mod_cast hmost⟩
    · cases h
  · cases h

private theorem envelopeBody_eq_ok (htimes : TimesRead service) (h : envelopeBody service now arguments = .ok body) :
    Created service arguments body := by
  unfold envelopeBody at h
  simp only [bind_eq_ok_iff, exists_unit, require_eq_ok_iff, pure_eq_ok_iff] at h
  obtain ⟨callbackId, hcallbackId, tenantId, htenantId, institutionId, hinstitutionId, productId, hproductId, channel,
    hchannel, sequence, hsequence, -, date, hdate, occurred, rfl, validity, hvalidity, keyId, hkeyId, outcome, houtcome,
    expires, hexpires, payloadHash, hhash, rfl⟩ := h
  obtain ⟨hleast, hmost⟩ := validityOf_range hvalidity
  obtain ⟨rfl, hrange⟩ := timeClip_eq_some hexpires
  exact
    { callbackId := (bounded_eq_ok hcallbackId).2
      tenantId := (bounded_eq_ok htenantId).2
      institutionId := (bounded_eq_ok hinstitutionId).2
      productId := (bounded_eq_ok hproductId).2
      channel := (bounded_eq_ok hchannel).1
      sequence := (positiveInteger_eq_some_iff.mp hsequence).2
      keyId := (bounded_eq_ok hkeyId).1
      eventType := ⟨outcome, houtcome, rfl⟩
      window := ⟨occurred, _, dateOf_range htimes hdate, hrange, by omega, by omega, rfl, rfl⟩
      hash := hhash
      payload := rfl }

private theorem createSignedCallback_eq_ok {envelope : List (String × JsValue)}
    (h : createSignedCallback service sign body = .ok envelope) :
    ∃ message signature, canonicalize service.platform.numberText (.object body.members) = .ok (some message) ∧
      sign message = some signature ∧ envelope = body.members ++ [("signature", .string signature)] := by
  unfold createSignedCallback at h
  obtain ⟨message, hmessage, signature, hsignature, henvelope⟩ := by simpa only [bind_eq_ok_iff] using h
  refine ⟨message, signature, ?_, require_eq_ok_iff.mp hsignature, (pure_eq_ok_iff.mp henvelope).symm⟩
  unfold canonicalText at hmessage
  split at hmessage
  · next text htext => rw [htext, Except.ok.inj hmessage]
  · cases hmessage
  · cases hmessage

end Created

section Received

variable {service : CallbackService} {body : EnvelopeBody} {payload : List (String × JsValue)} {signature : String}

/-- An envelope as it is received: only its payload can have changed. -/
private def received (body : EnvelopeBody) (payload : List (String × JsValue)) (signature : String) :
    List (String × JsValue) :=
  { body with payload := .object payload }.members ++ [("signature", .string signature)]

private theorem jsonCopy_envelope {isoText : Int → String} (h : body.payload = .object payload) :
    jsonCopy isoText (.object (body.members ++ [("signature", .string signature)])) =
      some (.object (received body (jsonMembers isoText payload) signature)) := by
  simp only [received, EnvelopeBody.members, h, List.cons_append, List.nil_append, jsonCopy, jsonMembers]

private theorem unsigned_received :
    unsigned (received body payload signature) = .object { body with payload := .object payload }.members := by
  simp [unsigned, received, EnvelopeBody.members]

private theorem distinctKeys_members (h : distinctKeys body.payload = true) :
    distinctKeys (.object body.members) = true := by
  simp [EnvelopeBody.members, distinctKeys, distinctKeysMembers, h]

private theorem jsonStable_members : jsonStable (.object body.members) = jsonStable body.payload := by
  simp [EnvelopeBody.members, jsonStable, jsonStableMembers]

private theorem sha256Canonical_eq_ok_iff {platform : Platform} {value : JsValue} {hash : String} :
    sha256Canonical platform value = .ok hash ↔
      ∃ text, canonicalize platform.numberText value = .ok (some text) ∧ platform.sha256 text = hash := by
  unfold sha256Canonical
  split
  · next text htext => simp [htext]
  · next hnone => simp [hnone]
  · next message herror => simp [herror]

/-- The texts that are hashed of a payload before and after it is sent. -/
def payloadTexts (platform : Platform) (payload : JsValue) : Set String :=
  {text | canonicalize platform.numberText payload = .ok (some text) ∨
    ∃ copy, jsonCopy platform.isoText payload = some copy ∧ canonicalize platform.numberText copy = .ok (some text)}

/-- The hash of a payload survives the transport exactly for a stable payload. -/
private theorem hash_received_iff {platform : Platform} {hash : String} (hkeys : distinctKeys (.object payload) = true)
    (hinj : Set.InjOn platform.sha256 (payloadTexts platform (.object payload)))
    (h : sha256Canonical platform (.object payload) = .ok hash) :
    sha256Canonical platform (.object (jsonMembers platform.isoText payload)) = .ok hash ↔
      jsonStable (.object payload) = true := by
  obtain ⟨text, htext, rfl⟩ := sha256Canonical_eq_ok_iff.mp h
  obtain ⟨copy, copyText, hcopy, hcopyText, hiff⟩ := @canonicalize_jsonCopy _ platform.isoText _ _ hkeys htext
  obtain rfl := Option.some.inj hcopy
  rw [← hiff, sha256Canonical_eq_ok_iff]
  constructor
  · rintro ⟨other, hother, hsame⟩
    rw [hcopyText] at hother
    obtain rfl := Option.some.inj (Except.ok.inj hother)
    exact hinj (Or.inr ⟨_, rfl, hcopyText⟩) (Or.inl htext) hsame
  · rintro rfl
    exact ⟨_, hcopyText, rfl⟩

/-- A stable member is received as it was sent. -/
private theorem lookup_received {isoText : Int → String} (h : jsonStable (.object payload) = true) {key : String} :
    lookup (jsonMembers isoText payload) key = (lookup payload key).bind (jsonCopy isoText) :=
  find_jsonMembers h

private theorem lookup_received_text {isoText : Int → String} (h : jsonStable (.object payload) = true)
    {key text : String} :
    lookup (jsonMembers isoText payload) key = some (.string text) ↔ lookup payload key = some (.string text) := by
  rw [lookup_received h, Option.bind_eq_some_iff]
  constructor
  · rintro ⟨value, hvalue, hcopy⟩
    have hstable : jsonStable value = true := stable_of_mem h (lookup_mem hvalue)
    cases value with
    | string => rwa [JsValue.string.inj (Option.some.inj hcopy)] at hvalue
    | date => cases hstable
    | undefined | null | bool | number | notFinite | bigint | array | object => cases hcopy
  · exact fun hvalue => ⟨_, hvalue, rfl⟩

private theorem property_eq_text_iff {key text : String} :
    property (.object payload) key = some (.string text) ↔ lookup payload key = some (.string text) := by
  have hproperty : property (.object payload) key = some ((lookup payload key).getD .undefined) := rfl
  rw [hproperty]
  cases lookup payload key <;> simp

private theorem property_eq_object_iff {key : String} {members : List (String × JsValue)} :
    property (.object payload) key = some (.object members) ↔ lookup payload key = some (.object members) := by
  have hproperty : property (.object payload) key = some ((lookup payload key).getD .undefined) := rfl
  rw [hproperty]
  cases lookup payload key <;> simp

/-- The details of a stable payload have the members that they had. -/
private theorem fieldsMatch_received {isoText : Int → String} (h : jsonStable (.object payload) = true)
    {channel : Channel} (hmatch : FieldsMatch payload channel) : FieldsMatch (jsonMembers isoText payload) channel := by
  refine ⟨?_, fun field hfield => ?_⟩
  · have hlength := congrArg List.length (@keys_jsonMembers isoText payload h)
    rw [List.length_map, List.length_map] at hlength
    rw [hlength]
    exact hmatch.1
  · obtain ⟨value, hvalue⟩ := Option.isSome_iff_exists.mp (hmatch.2 field hfield)
    obtain ⟨copy, hcopy⟩ := @exists_copy_of_stable isoText value (stable_of_mem h (lookup_mem hvalue))
    rw [lookup_received h, hvalue, Option.bind_some, hcopy]
    rfl

end Received

section Agreement

variable {service : CallbackService} {sign : String → Option String} {publicKeyPem signature message : String}
  {arguments : EnvelopeArguments} {body : EnvelopeBody} {channel : Channel} {payload details : List (String × JsValue)}

/-- The signature of an envelope that is received as it was signed is valid. -/
private theorem signatureValid_received (hkeyPair : KeyPair service sign publicKeyPem)
    (hbody : body.payload = .object payload)
    (hkeys : distinctKeys body.payload = true) (hstable : jsonStable body.payload = true)
    (hmessage : canonicalize service.platform.numberText (.object body.members) = .ok (some message))
    (hsign : sign message = some signature) (hed25519 : service.asymmetricKeyType publicKeyPem = some "ed25519") :
    signatureValid service (received body (jsonMembers service.platform.isoText payload) signature)
    signature publicKeyPem =
      true := by
  obtain ⟨copy, copyText, hcopy, hcopyText, hiff⟩ :=
    @canonicalize_jsonCopy _ service.platform.isoText _ _ (distinctKeys_members hkeys) hmessage
  obtain rfl := hiff.mpr (jsonStable_members.trans hstable)
  have hmembers : jsonCopy service.platform.isoText (.object body.members) =
      some (.object { body with payload := .object (jsonMembers service.platform.isoText payload) }.members) := by
    simp only [EnvelopeBody.members, hbody, jsonCopy, jsonMembers]
  obtain rfl := Option.some.inj (hmembers.symm.trans hcopy)
  unfold signatureValid
  rw [unsigned_received, hcopyText]
  simp [hed25519, hkeyPair.verifies _ _ hsign]

/-- What is accepted conforms. -/
private theorem conforms_of_checked (hcreated : Created service arguments body) {time : Int} {form : Form}
    {members : List (String × JsValue)}
    (hchannel : arguments.channel = .string channel.text) (hpayload : arguments.payload = .object payload)
    (hdetails : lookup payload "details" = some (.object details))
    (hinj : Set.InjOn service.platform.sha256 (payloadTexts service.platform arguments.payload))
    (hform : FormChecked service time (received body (jsonMembers service.platform.isoText payload) signature) form)
    (hsubject : SubjectChecked form members) (hchecked : checkDetails service form.channel members = .ok ())
    (hsignature : signatureValid service (received body (jsonMembers service.platform.isoText payload) signature)
      form.signature publicKeyPem = true) :
    Conforms service publicKeyPem arguments := by
  have hkeys := arguments.payloadKeys
  have hhash := hcreated.hash
  rw [hpayload] at hkeys hhash hinj
  obtain hsame : jsonMembers service.platform.isoText payload = form.payload :=
    JsValue.object.inj (Option.some.inj hform.payload)
  obtain hsent : body.payloadHash = form.payloadHash := JsValue.string.inj (Option.some.inj hform.payloadHash.1)
  have hname : body.channel = form.channel.text := JsValue.string.inj (Option.some.inj hform.channel.1)
  have hstable : jsonStable (.object payload) = true := by
    rw [← hash_received_iff hkeys hinj hhash, hsame, hsent]
    exact hform.hash
  have hbodyChannel : body.channel = channel.text := JsValue.string.inj (hcreated.channel.symm.trans hchannel)
  refine
    { keyId := ⟨body.keyId, hcreated.keyId, ?_⟩
      outcome := ⟨form.outcome, ?_⟩
      subjectRef := ⟨form.subjectRef, ?_⟩
      stable := hpayload ▸ hstable
      details := ?_
      ed25519 := ?_ }
  · have hkeyId : form.keyId = some body.keyId := hform.keyId.symm
    by_contra hnot
    refine hform.keyIdBounded ⟨rfl, ?_⟩
    rw [hkeyId]
    exact Bool.eq_false_iff.mpr hnot
  · rw [hpayload, property_eq_text_iff, ← @lookup_received_text _ service.platform.isoText hstable, hsame]
    exact hform.outcome
  · rw [hpayload, property_eq_text_iff, ← @lookup_received_text _ service.platform.isoText hstable, hsame]
    exact hform.subjectRef
  · intro other otherDetails hother hotherDetails
    obtain rfl : other = channel := Channel.text_injective (JsValue.string.inj (hother.symm.trans hchannel))
    rw [hpayload, property_eq_object_iff, hdetails] at hotherDetails
    obtain rfl := JsValue.object.inj (Option.some.inj hotherDetails)
    have hreceived := hsubject.details
    rw [← hsame, lookup_received hstable, hdetails] at hreceived
    obtain rfl : jsonMembers service.platform.isoText details = members :=
      JsValue.object.inj (Option.some.inj hreceived)
    obtain ⟨known, hknown, -, htests⟩ := checkDetails_eq_ok_iff.mp hchecked
    rw [hknown, hbodyChannel] at hname
    obtain rfl : other = known := Channel.text_injective hname
    exact htests
  · unfold signatureValid at hsignature
    split at hsignature
    · simp only [Bool.and_eq_true, decide_eq_true_eq] at hsignature
      exact hsignature.1
    · cases hsignature

/-- What conforms is accepted. -/
private theorem checked_of_conforms (htimes : TimesRead service) (hhashes : ∀ text, service.platform.sha256 text ≠ "")
    (hvalidity : service.maxValidityMs = 86400000) (hskew : service.maxClockSkewMs = 300000)
    (hcreated : Created service arguments body) (hsigned : signature ≠ "")
    (hchannel : arguments.channel = .string channel.text) (hpayload : arguments.payload = .object payload)
    (hsubjectType : lookup payload "subjectType" = some (.string channel.subjectType))
    (hkeyNames : ∀ member ∈ payload, member.1 ∈ ["subjectType", "subjectRef", "outcome", "details"])
    (hdetails : lookup payload "details" = some (.object details))
    (hchecked : checkDetails service (.known channel) details = .ok ())
    (hinj : Set.InjOn service.platform.sha256 (payloadTexts service.platform arguments.payload))
    (h : Conforms service publicKeyPem arguments) {time occurred expires : Int}
    (hoccurred : service.dateTime body.occurredAt = some occurred)
    (hexpires : service.dateTime body.expiresAt = some expires) (hstart : occurred ≤ time) (hend : time < expires) :
    ∃ form members, form.signature = signature ∧
      FormChecked service time (received body (jsonMembers service.platform.isoText payload) signature) form ∧
      SubjectChecked form members ∧ checkDetails service form.channel members = .ok () := by
  have hkeys := arguments.payloadKeys
  have hhash := hcreated.hash
  have hstable := h.stable
  obtain ⟨keyId, hkeyId, hpattern⟩ := h.keyId
  obtain rfl : body.keyId = keyId := JsValue.string.inj (hcreated.keyId.symm.trans hkeyId)
  obtain ⟨outcome, houtcome⟩ := h.outcome
  obtain ⟨subjectRef, hsubjectRef⟩ := h.subjectRef
  have hproperty := (@property_eq_object_iff payload "details" details).mpr hdetails
  have htests := h.details channel details hchannel (hpayload ▸ hproperty)
  obtain ⟨text, htext, heventType⟩ := hcreated.eventType
  rw [houtcome] at htext
  obtain rfl : outcome.text = text := Except.ok.inj htext
  have hbodyChannel : body.channel = channel.text := JsValue.string.inj (hcreated.channel.symm.trans hchannel)
  rw [hbodyChannel] at heventType
  rw [hpayload] at hkeys hhash hinj hstable houtcome hsubjectRef
  rw [property_eq_text_iff] at houtcome hsubjectRef
  have hreceivedHash := (hash_received_iff hkeys hinj hhash).mpr hstable
  obtain ⟨hashed, -, hhashed⟩ := sha256Canonical_eq_ok_iff.mp hhash
  have htimeText {time : Int} (hrange : |time| ≤ latestTime) : service.platform.isoText time ≠ "" := by
    intro hempty
    have hread := htimes.reads time hrange
    rw [hempty, htimes.empty] at hread
    cases hread
  obtain ⟨start, stop, hstartRange, hstopRange, horder, hlength, hoccurredAt, hexpiresAt⟩ := hcreated.window
  obtain rfl : occurred = start := by
    rw [hoccurredAt, htimes.reads start hstartRange] at hoccurred
    exact (Option.some.inj hoccurred).symm
  obtain rfl : expires = stop := by
    rw [hexpiresAt, htimes.reads stop hstopRange] at hexpires
    exact (Option.some.inj hexpires).symm
  have hoccurredText : body.occurredAt ≠ "" := hoccurredAt ▸ htimeText hstartRange
  have hexpiresText : body.expiresAt ≠ "" := hexpiresAt ▸ htimeText hstopRange
  have hhashText : body.payloadHash ≠ "" := hhashed ▸ hhashes hashed
  have hevent : body.eventType ≠ "" := by
    rw [heventType]
    cases channel <;> cases outcome <;> decide
  have hname : channel.text ≠ "" := by cases channel <;> decide
  have hlookupChannel : lookup (received body (jsonMembers service.platform.isoText payload) signature) "channel" =
      some (.string body.channel) := rfl
  let form : Form :=
    { callbackId := body.callbackId, tenantId := body.tenantId, institutionId := body.institutionId
      productId := body.productId, channel := .known channel, eventType := body.eventType, occurredAt := body.occurredAt
      expiresAt := body.expiresAt, payloadHash := body.payloadHash, signature, keyId := some body.keyId
      sequence := body.sequence, payload := jsonMembers service.platform.isoText payload, subjectRef, outcome
      signedAt := occurred }
  have hform : FormChecked service time (received body (jsonMembers service.platform.isoText payload) signature) form :=
    { schema := rfl
      callbackId := ⟨rfl, hcreated.callbackId⟩
      tenantId := ⟨rfl, hcreated.tenantId⟩
      institutionId := ⟨rfl, hcreated.institutionId⟩
      productId := ⟨rfl, hcreated.productId⟩
      channel := ⟨hlookupChannel.trans (by rw [hbodyChannel]; rfl), hname⟩
      named := ChannelName.ofText_known
      eventType := ⟨rfl, hevent⟩
      occurredAt := ⟨rfl, hoccurredText⟩
      expiresAt := ⟨rfl, hexpiresText⟩
      payloadHash := ⟨rfl, hhashText⟩
      signature := ⟨rfl, hsigned⟩
      keyId := rfl
      keyIdBounded := fun hnot => absurd (hpattern.symm.trans hnot.2) (by decide)
      sequence := positiveInteger_eq_some_iff.mpr ⟨rfl, hcreated.sequence⟩
      payload := rfl
      outcome := (lookup_received_text hstable).mpr houtcome
      subjectRef := (lookup_received_text hstable).mpr hsubjectRef
      hash := hreceivedHash
      signedAt := hoccurred
      window := ⟨expires, hexpires, horder, by show occurred - time ≤ service.maxClockSkewMs; omega, hend,
        by show expires - occurred ≤ service.maxValidityMs; omega⟩ }
  refine ⟨form, jsonMembers service.platform.isoText details, rfl, hform, ?_, ?_⟩
  · refine
      { eventType := heventType
        subjectType := (lookup_received_text hstable).mpr hsubjectType
        keys := ?_
        details := ?_ }
    · intro member hmember
      have hkey : member.1 ∈ (jsonMembers service.platform.isoText payload).map Prod.fst :=
        List.mem_map_of_mem hmember
      rw [keys_jsonMembers hstable] at hkey
      obtain ⟨sent, hsent, hsame⟩ := List.mem_map.mp hkey
      exact hsame ▸ hkeyNames sent hsent
    · show lookup (jsonMembers service.platform.isoText payload) "details" = _
      rw [lookup_received hstable, hdetails]
      rfl
  · obtain ⟨known, hknown, hmatch, -⟩ := checkDetails_eq_ok_iff.mp hchecked
    cases hknown
    exact checkDetails_eq_ok_iff.mpr
      ⟨channel, rfl, fieldsMatch_received (stable_of_mem hstable (lookup_mem hdetails)) hmatch, htests⟩

/-- An envelope that a connector makes of a payload that meets the business rules of
its channel is accepted throughout its window, exactly if its arguments conform to
what only the validator asks. -/
theorem created_envelope_accepted_iff {now : Int} {envelope : List (String × JsValue)}
    (hskew : service.maxClockSkewMs = 300000) (hvalidity : service.maxValidityMs = 86400000)
    (htimes : TimesRead service)
    (hkeyPair : KeyPair service sign publicKeyPem) (hhashes : ∀ text, service.platform.sha256 text ≠ "")
    (hinj : Set.InjOn service.platform.sha256 (payloadTexts service.platform arguments.payload))
    (hcreated : createEnvelope service sign now arguments = .ok envelope)
    (hrules : MeetsBusinessRules service arguments) :
    AcceptedInTime service publicKeyPem envelope ↔ Conforms service publicKeyPem arguments := by
  obtain ⟨body, hbody, hsigned⟩ := bind_eq_ok_iff.mp hcreated
  obtain ⟨message, signature, hmessage, hsign, rfl⟩ := createSignedCallback_eq_ok hsigned
  obtain ⟨channel, payload, details, hchannel, hpayload, hsubjectType, hkeyNames, hdetails, hchecked⟩ := hrules
  have hfacts := envelopeBody_eq_ok htimes hbody
  have hbodyPayload := hfacts.payload.trans hpayload
  have hcopy := @jsonCopy_envelope body payload signature service.platform.isoText hbodyPayload
  constructor
  · intro haccepted
    obtain ⟨occurred, expires, hoccurredRange, hexpiresRange, horder, -, hoccurredAt, hexpiresAt⟩ := hfacts.window
    have hoccurred : service.dateTime body.occurredAt = some occurred :=
      hoccurredAt ▸ htimes.reads occurred hoccurredRange
    have hexpires : service.dateTime body.expiresAt = some expires := hexpiresAt ▸ htimes.reads expires hexpiresRange
    obtain ⟨members, form, found, hsent, hvalid, hsignature⟩ :=
      haccepted occurred occurred expires hoccurred hexpires (le_refl occurred) horder
    obtain rfl := JsValue.object.inj (Option.some.inj (hcopy.symm.trans hsent))
    obtain ⟨hform, hsubject, hdetailsChecked⟩ := validate_eq_ok_iff.mp hvalid
    exact conforms_of_checked hfacts hchannel hpayload hdetails hinj hform hsubject hdetailsChecked hsignature
  · intro hconforms time occurred expires hoccurred hexpires hstart hend
    obtain ⟨form, found, hsame, hform, hsubject, hdetailsChecked⟩ :=
      checked_of_conforms htimes hhashes hvalidity hskew hfacts (hkeyPair.nonempty _ _ hsign) hchannel hpayload
        hsubjectType hkeyNames hdetails hchecked hinj hconforms hoccurred hexpires hstart hend
    refine ⟨_, form, found, hcopy, validate_eq_ok_iff.mpr ⟨hform, hsubject, hdetailsChecked⟩, ?_⟩
    rw [hsame]
    exact signatureValid_received hkeyPair hbodyPayload (hfacts.payload ▸ arguments.payloadKeys)
      (hfacts.payload ▸ hconforms.stable) hmessage hsign hconforms.ed25519

end Agreement

section Sample

private def epochText : String := "1970-01-01T00:00:00.000Z"

private def laterText : String := "1970-01-01T00:05:00.000Z"

/-- Times as ISO texts: those of the sample as they are, the others by their
milliseconds. -/
private def sampleIsoText (time : Int) : String :=
  if time = 0 then epochText
  else if time = 300000 then laterText
  else String.ofList ((if 0 ≤ time then '+' else '-') :: time.natAbs.repr.toList)

private def sampleDateTime (text : String) : Option Int :=
  if text = epochText then some 0
  else if text = laterText then some 300000
  else
    match text.toList with
    | '+' :: digits => timeClip (decimal.value (String.ofList digits))
    | '-' :: digits => timeClip (-decimal.value (String.ofList digits))
    | _ => none

private def connectorRuntime : CallbackService where
  platform := { sha256 text := "sha256:" ++ text, numberText number := toString number.num, isoText := sampleIsoText }
  asymmetricKeyType publicKeyPem := if publicKeyPem = "bank-1" then some "ed25519" else none
  verify message publicKeyPem signature := decide (publicKeyPem = "bank-1" ∧ signature = "signed:" ++ message)
  decoyPublicKey := "decoy"
  dateTime := sampleDateTime
  timestamptz := sampleDateTime
  dateText _ := "Thu Jan 01 1970 00:00:00 GMT+0000 (Coordinated Universal Time)"
  matchesCommitment := none
  tenantId := "tenant-1"
  maxClockSkewMs := 300000
  maxValidityMs := 86400000

private def sampleSign (message : String) : Option String := some ("signed:" ++ message)

private theorem connectorRuntime_times : TimesRead connectorRuntime where
  empty := by decide
  range := by
    intro text time h
    have hclip {clipped : Int} (h : timeClip clipped = some time) : |time| ≤ latestTime := by
      obtain ⟨rfl, hrange⟩ := timeClip_eq_some h
      exact hrange
    change sampleDateTime text = some time at h
    unfold sampleDateTime at h
    split at h
    · cases h
      decide
    · split at h
      · cases h
        decide
      · split at h
        · exact hclip h
        · exact hclip h
        · cases h
  reads := by
    intro time hrange
    change sampleDateTime (sampleIsoText time) = some time
    unfold sampleIsoText
    by_cases hepoch : time = 0
    · rw [if_pos hepoch, hepoch]
      decide
    rw [if_neg hepoch]
    by_cases hlater : time = 300000
    · rw [if_pos hlater, hlater]
      decide
    rw [if_neg hlater]
    have hother {sign : Char} (hsign : sign ≠ '1') (digits : List Char) :
        String.ofList (sign :: digits) ≠ epochText ∧ String.ofList (sign :: digits) ≠ laterText := by
      constructor
      all_goals
        intro h
        have hchars := congrArg String.toList h
        rw [String.toList_ofList] at hchars
        exact hsign (List.cons.inj hchars).1
    have hvalue : decimal.value (String.ofList time.natAbs.repr.toList) = time.natAbs := by
      rw [String.ofList_toList, decimal.value_repr]
    unfold sampleDateTime
    by_cases hsign : 0 ≤ time
    · obtain ⟨hfirst, hsecond⟩ := @hother '+' (by decide) time.natAbs.repr.toList
      rw [if_pos hsign, if_neg hfirst, if_neg hsecond, String.toList_ofList]
      simp only [hvalue, Int.natAbs_of_nonneg hsign]
      exact if_pos hrange
    · obtain ⟨hfirst, hsecond⟩ := @hother '-' (by decide) time.natAbs.repr.toList
      rw [if_neg hsign, if_neg hfirst, if_neg hsecond, String.toList_ofList]
      have hnegative : -(time.natAbs : Int) = time := by omega
      simp only [hvalue, hnegative]
      exact if_pos hrange

private def cashPayload : List (String × JsValue) :=
  [("subjectType", .string "TRANSACTION"), ("subjectRef", .string "tx-1"), ("outcome", .string "CONFIRMED"),
    ("details", .object [("bankReference", .string "payment-1"), ("currency", .string "USD"),
      ("amountMinor", .string "1000"), ("feeMinor", .string "0")])]

private def cashArguments (keyId : JsValue) : EnvelopeArguments where
  callbackId := .string "callback-1"
  tenantId := .string "tenant-1"
  institutionId := .string "bank-1"
  productId := .string "fund-1"
  channel := .string "CASH"
  sequence := .number 1
  payload := .object cashPayload
  occurredAt := .date 0
  validityMs := .undefined
  keyId := keyId
  payloadKeys := by decide

private theorem cashRules {keyId : JsValue} : MeetsBusinessRules connectorRuntime (cashArguments keyId) :=
  ⟨.cash, cashPayload, _, rfl, rfl, rfl, by decide, rfl, rfl⟩

private theorem sampleKeyPair : KeyPair connectorRuntime sampleSign "bank-1" where
  nonempty := by
    rintro message signature ⟨⟩ hempty
    have hlength := congrArg String.length hempty
    rw [String.length_append] at hlength
    exact absurd hlength (by simp)
  verifies := by
    rintro message signature ⟨⟩
    exact decide_eq_true ⟨rfl, rfl⟩

/-- An envelope with the default key id is accepted. -/
theorem created_envelope_accepted_sample :
    ∃ envelope, createEnvelope connectorRuntime sampleSign 0 (cashArguments .undefined) = .ok envelope ∧
      AcceptedInTime connectorRuntime "bank-1" envelope := by
  have hcreated : (createEnvelope connectorRuntime sampleSign 0 (cashArguments .undefined)).isOk = true := by
    decide +kernel
  have hhashes (text : String) : connectorRuntime.platform.sha256 text ≠ "" := by
    intro h
    have hlength : ("sha256:" ++ text).length = "".length := congrArg String.length h
    rw [String.length_append] at hlength
    exact absurd hlength (by simp)
  cases h : createEnvelope connectorRuntime sampleSign 0 (cashArguments .undefined) with
  | error failure =>
    rw [h] at hcreated
    cases hcreated
  | ok envelope =>
    refine ⟨envelope, rfl, (created_envelope_accepted_iff rfl rfl connectorRuntime_times sampleKeyPair hhashes ?_ h
      cashRules).mpr ?_⟩
    · intro first _ second _ hsame
      exact String.append_right_inj "sha256:" |>.mp hsame
    · refine ⟨⟨_, rfl, by decide⟩, ⟨.confirmed, rfl⟩, ⟨_, rfl⟩, by decide, ?_, rfl⟩
      intro channel details hchannel hdetails
      obtain rfl : Channel.cash = channel := Channel.text_injective (JsValue.string.inj hchannel)
      obtain rfl := JsValue.object.inj (Option.some.inj hdetails)
      exact allM_eq_true_iff.mp rfl

private def custodyPayload : List (String × JsValue) :=
  [("subjectType", .string "POSITION"), ("subjectRef", .string "position-1"), ("outcome", .string "CONFIRMED"),
    ("details", .object [("statementId", .string "statement-1"), ("assetCode", .string "UNIT:1"),
      ("balanceUnits", .string "5"), ("asOf", .date 0)])]

private def custodyArguments : EnvelopeArguments where
  callbackId := .string "callback-2"
  tenantId := .string "tenant-1"
  institutionId := .string "custodian-1"
  productId := .string "fund-1"
  channel := .string "CUSTODY"
  sequence := .number 1
  payload := .object custodyPayload
  occurredAt := .date 0
  validityMs := .undefined
  keyId := .undefined
  payloadKeys := by decide

private theorem custodyRules : MeetsBusinessRules connectorRuntime custodyArguments :=
  ⟨.custody, custodyPayload, _, rfl, rfl, rfl, by decide, rfl, rfl⟩

/-- What the validator says of an envelope that was sent as JSON. -/
private def acceptedAt (now : Int) (envelope : List (String × JsValue)) : Option Bool :=
  (jsonCopy sampleIsoText (.object envelope)).map fun copy =>
    (validateInstitutionCallbackEnvelope connectorRuntime now copy).isOk

private theorem acceptedAt_of_inTime {envelope : List (String × JsValue)}
    (hwindow : (textOf (lookup envelope "occurredAt")).bind sampleDateTime = some 0 ∧
      (textOf (lookup envelope "expiresAt")).bind sampleDateTime = some 300000)
    (h : AcceptedInTime connectorRuntime "bank-1" envelope) : acceptedAt 0 envelope = some true := by
  obtain ⟨members, form, details, hcopy, hvalid, -⟩ := h 0 0 300000 hwindow.1 hwindow.2 (by decide) (by decide)
  change jsonCopy sampleIsoText (.object envelope) = _ at hcopy
  rw [acceptedAt, hcopy, Option.map_some, hvalid]
  rfl

private def createdOf (arguments : EnvelopeArguments) : List (String × JsValue) :=
  (createEnvelope connectorRuntime sampleSign 0 arguments).toOption.getD []

/-- A key id with a blank, and a date in the details, pass the connector and not the
validator. -/
theorem connector_makes_refused_envelopes :
    ((createEnvelope connectorRuntime sampleSign 0 (cashArguments (.string "bank key 2"))).isOk = true ∧
      MeetsBusinessRules connectorRuntime (cashArguments (.string "bank key 2")) ∧
      ¬AcceptedInTime connectorRuntime "bank-1" (createdOf (cashArguments (.string "bank key 2")))) ∧
    (createEnvelope connectorRuntime sampleSign 0 custodyArguments).isOk = true ∧
      MeetsBusinessRules connectorRuntime custodyArguments ∧
      ¬AcceptedInTime connectorRuntime "bank-1" (createdOf custodyArguments) := by
  have hcash : (createEnvelope connectorRuntime sampleSign 0 (cashArguments (.string "bank key 2"))).isOk = true ∧
      ((textOf (lookup (createdOf (cashArguments (.string "bank key 2"))) "occurredAt")).bind sampleDateTime = some 0 ∧
        (textOf (lookup (createdOf (cashArguments (.string "bank key 2"))) "expiresAt")).bind sampleDateTime =
          some 300000) ∧ acceptedAt 0 (createdOf (cashArguments (.string "bank key 2"))) = some false := by
    decide +kernel
  have hcustody : (createEnvelope connectorRuntime sampleSign 0 custodyArguments).isOk = true ∧
      ((textOf (lookup (createdOf custodyArguments) "occurredAt")).bind sampleDateTime = some 0 ∧
        (textOf (lookup (createdOf custodyArguments) "expiresAt")).bind sampleDateTime = some 300000) ∧
        acceptedAt 0 (createdOf custodyArguments) = some false := by
    decide +kernel
  refine ⟨⟨hcash.1, cashRules, fun h => ?_⟩, hcustody.1, custodyRules, fun h => ?_⟩
  · have haccepted := acceptedAt_of_inTime hcash.2.1 h
    rw [hcash.2.2] at haccepted
    cases haccepted
  · have haccepted := acceptedAt_of_inTime hcustody.2.1 h
    rw [hcustody.2.2] at haccepted
    cases haccepted

end Sample

end rwa.callbacks
