import RwaControlPlane.Callbacks.Envelope

open checked js_value
open rwa.storage (sha256Canonical)
open rwa.catalog (lookup keyIdPattern)

namespace rwa.callbacks

variable {service : CallbackService} {now : Int} {members details : List (String × JsValue)} {form : Form}

section Members

variable {value : Option JsValue}

theorem textOf_eq_some_iff {text : String} : textOf value = some text ↔ value = some (.string text) := by
  unfold textOf
  split <;> simp_all

theorem objectMembers_eq_some_iff : objectMembers value = some members ↔ value = some (.object members) := by
  unfold objectMembers
  split <;> simp_all

theorem lookup_mem {key : String} {found : JsValue} (h : lookup members key = some found) : (key, found) ∈ members := by
  obtain ⟨member, hfound, rfl⟩ := Option.map_eq_some_iff.mp h
  obtain rfl : member.1 = key := by simpa using List.find?_some hfound
  exact List.mem_of_find?_eq_some hfound

theorem requiredText_eq_ok_iff {field text : String} :
    requiredText members field = .ok text ↔ lookup members field = some (.string text) ∧ text ≠ "" := by
  unfold requiredText
  split
  · next found hfound =>
    rw [hfound]
    split
    · next hempty =>
      refine ⟨nofun, ?_⟩
      rintro ⟨hsame, hne⟩
      cases hsame
      exact absurd hempty hne
    · next hne =>
      constructor
      · rintro ⟨⟩
        exact ⟨rfl, hne⟩
      · rintro ⟨hsame, -⟩
        cases hsame
        rfl
  · next hother => exact ⟨nofun, fun h => absurd h.1 (hother text)⟩

theorem positiveInteger_eq_some_iff {number : Nat} :
    positiveInteger value = some number ↔
      value = some (.number number) ∧ 0 < number ∧ number ≤ 9007199254740991 := by
  unfold positiveInteger
  split
  · next found =>
    constructor
    · intro h
      split at h
      · next hinteger =>
        obtain ⟨hden, hpos, hmax⟩ := hinteger
        have hnum : ((found.num : Int) : Rat) = found := (Rat.den_eq_one_iff found).mp hden
        have hnumPos : 0 < found.num := Rat.num_pos.mpr hpos
        have hnat : ((found.num.toNat : Nat) : Int) = found.num := Int.toNat_of_nonneg hnumPos.le
        have hcast : ((found.num.toNat : Nat) : Rat) = found := by rw [← Int.cast_natCast, hnat, hnum]
        have hbound : found.num ≤ 9007199254740991 := by
          rw [← hnum] at hmax
          exact_mod_cast hmax
        obtain rfl := Option.some.inj h
        exact ⟨by rw [hcast], by omega, by omega⟩
      · cases h
    · rintro ⟨h, hpos, hmax⟩
      obtain rfl : found = (number : Rat) := by simpa using h
      rw [if_pos ⟨Rat.den_natCast number, by exact_mod_cast hpos, by exact_mod_cast hmax⟩]
      rfl
  · next hother => exact ⟨nofun, fun h => absurd h.1 (hother number)⟩

theorem outcome_eq_some_iff {outcome : Outcome} :
    (textOf value).bind Outcome.ofText = some outcome ↔ value = some (.string outcome.text) := by
  rw [Option.bind_eq_some_iff]
  constructor
  · rintro ⟨text, htext, houtcome⟩
    have hsame : outcome.text = text := by simpa using List.find?_some houtcome
    rw [textOf_eq_some_iff.mp htext, hsame]
  · rintro rfl
    exact ⟨outcome.text, rfl, by cases outcome <;> rfl⟩

end Members

section Channels

theorem Channel.ofText_text {channel : Channel} : Channel.ofText channel.text = some channel := by
  cases channel <;> rfl

theorem Channel.text_injective : Function.Injective Channel.text := by
  intro first second h
  have hsame := congrArg Channel.ofText h
  rw [ofText_text, ofText_text] at hsame
  exact Option.some.inj hsame

theorem ChannelName.text_of_ofText {text : String} {channel : ChannelName}
    (h : ChannelName.ofText text = some channel) : channel.text = text := by
  unfold ChannelName.ofText at h
  split at h
  · next known hknown =>
    cases h
    show known.text = text
    simpa using List.find?_some hknown
  · split at h <;> cases h
    rfl

theorem ChannelName.ofText_known {channel : Channel} : ChannelName.ofText channel.text = some (.known channel) := by
  unfold ChannelName.ofText
  rw [Channel.ofText_text]

end Channels

/-- A required member. -/
def Required (members : List (String × JsValue)) (field text : String) : Prop :=
  lookup members field = some (.string text) ∧ text ≠ ""

/-- What is known of an envelope whose form was checked. -/
structure FormChecked (service : CallbackService) (now : Int) (members : List (String × JsValue)) (form : Form) :
    Prop where
  schema : lookup members "schema" = some (.string callbackSchema)
  callbackId : Required members "callbackId" form.callbackId
  tenantId : Required members "tenantId" form.tenantId
  institutionId : Required members "institutionId" form.institutionId
  productId : Required members "productId" form.productId
  channel : Required members "channel" form.channel.text
  named : ChannelName.ofText form.channel.text = some form.channel
  eventType : Required members "eventType" form.eventType
  occurredAt : Required members "occurredAt" form.occurredAt
  expiresAt : Required members "expiresAt" form.expiresAt
  payloadHash : Required members "payloadHash" form.payloadHash
  signature : Required members "signature" form.signature
  keyId : textOf (lookup members "keyId") = form.keyId
  keyIdBounded : ¬((lookup members "keyId").isSome ∧ form.keyId.any keyIdPattern = false)
  sequence : positiveInteger (lookup members "sequence") = some form.sequence
  payload : lookup members "payload" = some (.object form.payload)
  outcome : lookup form.payload "outcome" = some (.string form.outcome.text)
  subjectRef : lookup form.payload "subjectRef" = some (.string form.subjectRef)
  hash : sha256Canonical service.platform (.object form.payload) = .ok form.payloadHash
  signedAt : service.dateTime form.occurredAt = some form.signedAt
  window : ∃ expires, service.dateTime form.expiresAt = some expires ∧ form.signedAt < expires ∧
    form.signedAt - now ≤ service.maxClockSkewMs ∧ now < expires ∧ expires - form.signedAt ≤ service.maxValidityMs

theorem checkForm_eq_ok_iff : checkForm service now members = .ok form ↔ FormChecked service now members form := by
  simp only [checkForm, bind_eq_ok_iff, exists_unit, throwIf_eq_ok_iff, require_eq_ok_iff, requiredText_eq_ok_iff,
    pure_eq_ok_iff, ne_eq, not_not, not_lt, not_le, textOf_eq_some_iff, objectMembers_eq_some_iff, outcome_eq_some_iff]
  constructor
  · rintro ⟨hschema, callbackId, hcallbackId, tenantId, htenantId, institutionId, hinstitutionId, productId, hproductId,
      name, hname, eventType, heventType, occurredAt, hoccurredAt, expiresAt, hexpiresAt, payloadHash, hpayloadHash,
      signature, hsignature, channel, hchannel, hkeyId, sequence, hsequence, payload, hpayload, outcome, houtcome,
      subjectRef, hsubjectRef, hash, hhash, rfl, occurred, hoccurred, expires, hexpires, horder, hskew,
        hnow, hvalid, rfl⟩
    obtain rfl := ChannelName.text_of_ofText hchannel
    exact ⟨hschema, hcallbackId, htenantId, hinstitutionId, hproductId, hname, hchannel, heventType, hoccurredAt,
      hexpiresAt, hpayloadHash, hsignature, rfl, hkeyId, hsequence, hpayload, houtcome, hsubjectRef, hhash, hoccurred,
      expires, hexpires, horder, hskew, hnow, hvalid⟩
  · rintro ⟨hschema, hcallbackId, htenantId, hinstitutionId, hproductId, hname, hchannel, heventType, hoccurredAt,
      hexpiresAt, hpayloadHash, hsignature, hkeyText, hkeyId, hsequence, hpayload, houtcome, hsubjectRef,
        hhash, hoccurred,
      expires, hexpires, horder, hskew, hnow, hvalid⟩
    refine ⟨hschema, _, hcallbackId, _, htenantId, _, hinstitutionId, _, hproductId, _, hname, _, heventType, _,
      hoccurredAt, _, hexpiresAt, _, hpayloadHash, _, hsignature, _, hchannel, ?_, _, hsequence, _,
        hpayload, _, houtcome,
      _, hsubjectRef, _, hhash, rfl, _, hoccurred, _, hexpires, horder, hskew, hnow, hvalid, ?_⟩
    · rw [hkeyText]
      exact hkeyId
    · rw [hkeyText]

/-- What is known of an envelope that meets the business rules up to its details. -/
structure SubjectChecked (form : Form) (details : List (String × JsValue)) : Prop where
  eventType : form.eventType = form.channel.text ++ "." ++ form.outcome.text
  subjectType : lookup form.payload "subjectType" = some (.string form.channel.subjectType)
  keys : ∀ member ∈ form.payload, member.1 ∈ ["subjectType", "subjectRef", "outcome", "details"]
  details : lookup form.payload "details" = some (.object details)

theorem checkSubject_eq_ok_iff : checkSubject form = .ok details ↔ SubjectChecked form details := by
  simp only [checkSubject, bind_eq_ok_iff, exists_unit, throwIf_eq_ok_iff, require_eq_ok_iff, ne_eq, not_not,
    textOf_eq_some_iff, objectMembers_eq_some_iff, not_exists, not_and]
  constructor
  · rintro ⟨heventType, hsubjectType, hkeys, hdetails⟩
    exact ⟨heventType, hsubjectType, hkeys, hdetails⟩
  · rintro ⟨heventType, hsubjectType, hkeys, hdetails⟩
    exact ⟨heventType, hsubjectType, hkeys, hdetails⟩

/-- The details have the members that they must have, and no others. -/
def FieldsMatch (details : List (String × JsValue)) (channel : Channel) : Prop :=
  details.length = (detailFields channel).length ∧ ∀ field ∈ detailFields channel, (lookup details field).isSome = true

theorem fieldsMatch_iff {channel : Channel} :
    FieldsMatch details channel ↔
      ¬(details.length ≠ (detailFields channel).length ∨
        ∃ field ∈ detailFields channel, (lookup details field).isNone) := by
  simp only [FieldsMatch, not_or, not_not, not_exists, not_and, Bool.not_eq_true, Option.isNone_eq_false_iff]

/-- The details that are accepted. -/
theorem checkDetails_eq_ok_iff {channel : ChannelName} :
    checkDetails service channel details = .ok () ↔
      ∃ known, channel = .known known ∧ FieldsMatch details known ∧
        ∀ test ∈ detailTests known, test.run service details = .ok true := by
  cases channel with
  | inherited name =>
    constructor
    · exact nofun
    · rintro ⟨_, h, -⟩
      cases h
  | known channel =>
    simp only [checkDetails, bind_eq_ok_iff, throwIf_eq_ok_iff, exists_unit, ← fieldsMatch_iff, ChannelName.known.injEq,
      exists_eq_left', Bool.not_eq_false, ← allM_eq_true_iff]
    refine and_congr_right fun _ => ⟨?_, fun h => ⟨true, h, rfl⟩⟩
    rintro ⟨_, h, rfl⟩
    exact h

/-- A value is accepted when it passes every check. -/
theorem validate_eq_ok_iff :
    validateInstitutionCallbackEnvelope service now (.object members) = .ok (form, details) ↔
      FormChecked service now members form ∧ SubjectChecked form details ∧
        checkDetails service form.channel details = .ok () := by
  rw [validateInstitutionCallbackEnvelope]
  simp only [bind_eq_ok_iff, exists_unit, pure_eq_ok_iff, checkForm_eq_ok_iff, checkSubject_eq_ok_iff, Prod.mk.injEq]
  constructor
  · rintro ⟨_, hform, _, hsubject, hdetails, rfl, rfl⟩
    exact ⟨hform, hsubject, hdetails⟩
  · rintro ⟨hform, hsubject, hdetails⟩
    exact ⟨form, hform, details, hsubject, hdetails, rfl, rfl⟩

end rwa.callbacks
