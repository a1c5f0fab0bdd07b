import RwaControlPlane.Callbacks.Accepted
import RwaControlPlane.Library.JsJson

open checked js_value
open rwa.storage (typeError sha256Canonical Platform)
open rwa.catalog (lookup currencyPattern)

namespace rwa.callbacks

/-- The codes of the errors that the validator makes. -/
def callbackCodes : List String :=
  ["UNSUPPORTED_CALLBACK_SCHEMA", "INVALID_CALLBACK", "INVALID_CALLBACK_CHANNEL", "INVALID_CALLBACK_KEY_ID",
    "INVALID_CALLBACK_SEQUENCE", "INVALID_CALLBACK_PAYLOAD", "CALLBACK_PAYLOAD_TAMPERED", "INVALID_CALLBACK_TIME",
    "CALLBACK_FROM_FUTURE", "CALLBACK_EXPIRED", "CALLBACK_VALIDITY_TOO_LONG", "CALLBACK_EVENT_OUTCOME_MISMATCH",
    "INVALID_CALLBACK_SUBJECT"]

/-- A member that is a text with a property. -/
def HasText (members : List (String × JsValue)) (field : String) (property : String → Prop) : Prop :=
  ∃ text, lookup members field = some (.string text) ∧ property text

/-- A text that denotes a canonical decimal. -/
def IsDecimal (text : String) : Prop := decimal.isCanonical text = true

/-- A text that denotes a positive canonical decimal. -/
def IsPositiveDecimal (text : String) : Prop := decimal.isCanonical text = true ∧ 0 < decimal.value text

/-- A member that is a positive safe integer. -/
def HasPositiveInteger (members : List (String × JsValue)) (field : String) : Prop :=
  ∃ value : Nat, lookup members field = some (.number value) ∧ 0 < value ∧ value ≤ 9007199254740991

/-- The declared types of the members of `details`. -/
def DetailsTyped (details : List (String × JsValue)) : Channel → Prop
  | .register =>
    HasText details "registerReference" (fun _ => True) ∧ HasText details "assetCode" (assetCodePattern · = true) ∧
      HasText details "units" IsPositiveDecimal ∧ HasPositiveInteger details "registerVersion"
  | .cash =>
    HasText details "bankReference" (fun _ => True) ∧ HasText details "currency" (currencyPattern · = true) ∧
      HasText details "amountMinor" IsPositiveDecimal ∧ HasText details "feeMinor" IsDecimal
  | .custody =>
    HasText details "statementId" (fun _ => True) ∧ HasText details "assetCode" (assetCodePattern · = true) ∧
      HasText details "balanceUnits" IsDecimal ∧ (lookup details "asOf").isSome

/-- The callbacks that may be accepted. -/
def Grammar (value : JsValue) : Prop :=
  ∃ members payload details, ∃ channel : Channel, ∃ outcome : Outcome, value = .object members ∧
    lookup members "channel" = some (.string channel.text) ∧
    lookup members "eventType" = some (.string (channel.text ++ "." ++ outcome.text)) ∧
    lookup members "payload" = some (.object payload) ∧
    (∀ key, (∃ member ∈ payload, member.1 = key) ↔ key ∈ ["subjectType", "subjectRef", "outcome", "details"]) ∧
    lookup payload "outcome" = some (.string outcome.text) ∧ lookup payload "details" = some (.object details) ∧
    DetailsTyped details channel

variable (service : CallbackService)

/-- A test that asks an object with a `toString` of its own for its text. -/
def DetailTest.Throws (details : List (String × JsValue)) : DetailTest → Prop
  | .pattern field _ | .isDate field => hasOwnToString ((lookup details field).getD .undefined) = true
  | .isText _ | .nonZero _ | .positive _ => False

/-- The members whose text a pattern is tested on. -/
def patternFields (channel : Channel) : List String :=
  (detailTests channel).filterMap fun
    | .pattern field _ => some field
    | _ => none

/-- A pattern is tested on a member that is no text, and the tests go on as if it
was one: to the end, or to a test that throws. An inherited channel has no tests. -/
def DetailsMisread (details : List (String × JsValue)) : ChannelName → Prop
  | .inherited _ => True
  | .known channel =>
    FieldsMatch details channel ∧
    (((∀ test ∈ detailTests channel, test.run service details = .ok true) ∧
        ∃ field ∈ patternFields channel, textOf (lookup details field) = none) ∨
      ∃ before test after, detailTests channel = before ++ test :: after ∧
        (∀ earlier ∈ before, earlier.run service details = .ok true) ∧ test.Throws details)

/-- A value whose form and subject pass, and whose channel or details are misread. -/
def Misread (now : Int) (value : JsValue) : Prop :=
  ∃ members form details, value = .object members ∧ checkForm service now members = .ok form ∧
    checkSubject form = .ok details ∧ DetailsMisread service details form.channel

section Codes

variable {α : Type}

private def Coded (action : Except Failure α) : Prop := FailsWith (·.code ∈ callbackCodes) action

private theorem invalidPayload_code {message : String} : (invalidPayload message).code ∈ callbackCodes := by
  show "INVALID_CALLBACK_PAYLOAD" ∈ callbackCodes
  decide

private theorem coded_mismatch {condition : Prop} [Decidable condition] {message : String} :
    Coded (throwIf condition (invalidPayload message)) :=
  FailsWith.throwIf invalidPayload_code

private theorem coded_requiredText {members : List (String × JsValue)} {field : String} :
    Coded (requiredText members field) := by
  have hcode : (invalidCallback field).code ∈ callbackCodes := by
    show "INVALID_CALLBACK" ∈ callbackCodes
    decide
  intro failure h
  unfold requiredText at h
  split at h
  · split at h
    · cases h
      exact hcode
    · cases h
  · cases h
    exact hcode

/-- The hash of an object that was read from JSON is made. -/
private theorem coded_sha256Canonical {platform : Platform} {members : List (String × JsValue)}
    (h : hasBigIntMembers members = false) : Coded (sha256Canonical platform (.object members)) := by
  obtain ⟨text, htext⟩ := @canonicalize_object_eq_some platform.numberText members h
  unfold sha256Canonical
  rw [htext]
  exact FailsWith.ok

end Codes

section Errors

variable {service : CallbackService} {now : Int} {members details : List (String × JsValue)} {form : Form}

private theorem payload_hasBigInt (hjson : jsonCopy service.platform.isoText (.object members) = some (.object members))
    {payload : List (String × JsValue)} (h : objectMembers (lookup members "payload") = some payload) :
    hasBigIntMembers payload = false := by
  unfold objectMembers at h
  split at h
  · next found hfound =>
    obtain rfl := Option.some.inj h
    exact hasBigInt_jsonCopy (jsonCopy_member hjson (lookup_mem hfound))
  · cases h

/-- Every failure of the form has a callback code. -/
private theorem coded_checkForm
    (hjson : jsonCopy service.platform.isoText (.object members) = some (.object members)) :
    Coded (checkForm service now members) := by
  unfold checkForm
  refine FailsWith.bind (FailsWith.throwIf (by decide)) fun _ _ => ?_
  -- the ten required texts
  iterate 10 refine FailsWith.bind coded_requiredText fun _ _ => ?_
  refine FailsWith.bind (FailsWith.require (by decide)) fun _ _ => ?_
  refine FailsWith.bind (FailsWith.throwIf (by decide)) fun _ _ => ?_
  refine FailsWith.bind (FailsWith.require (by decide)) fun _ _ => ?_
  refine FailsWith.bind (FailsWith.require invalidPayload_code) fun payload hpayload => ?_
  refine FailsWith.bind (FailsWith.require invalidPayload_code) fun _ _ => ?_
  refine FailsWith.bind (FailsWith.require invalidPayload_code) fun _ _ => ?_
  refine FailsWith.bind (coded_sha256Canonical (payload_hasBigInt hjson (require_eq_ok_iff.mp hpayload))) fun _ _ => ?_
  refine FailsWith.bind (FailsWith.throwIf (by decide)) fun _ _ => ?_
  refine FailsWith.bind (FailsWith.require (by decide)) fun _ _ => ?_
  refine FailsWith.bind (FailsWith.require (by decide)) fun _ _ => ?_
  iterate 4 refine FailsWith.bind (FailsWith.throwIf (by decide)) fun _ _ => ?_
  exact FailsWith.ok

private theorem coded_checkSubject : Coded (checkSubject form) := by
  unfold checkSubject
  refine FailsWith.bind (FailsWith.throwIf ?_) fun _ _ => ?_
  · show "CALLBACK_EVENT_OUTCOME_MISMATCH" ∈ callbackCodes
    decide
  refine FailsWith.bind (FailsWith.throwIf ?_) fun _ _ => ?_
  · show "INVALID_CALLBACK_SUBJECT" ∈ callbackCodes
    decide
  refine FailsWith.bind coded_mismatch fun _ _ => ?_
  exact FailsWith.require invalidPayload_code

private theorem textOrThrow_eq_error_iff {value : JsValue} {failure : Failure} :
    textOrThrow service value = .error failure ↔
      hasOwnToString value = true ∧ typeError "Cannot convert object to primitive value" = failure := by
  unfold textOrThrow
  rw [bind_eq_error_iff, throwIf_eq_error_iff]
  refine ⟨fun h => h.elim id ?_, Or.inl⟩
  rintro ⟨_, -, h⟩
  cases h

private theorem isTime_eq_error_iff {value : JsValue} {failure : Failure} :
    isTime service value = .error failure ↔
      hasOwnToString value = true ∧ typeError "Cannot convert object to primitive value" = failure := by
  cases value with
  | undefined | null | notFinite | bool | number | date => exact ⟨nofun, fun h => by cases h.1⟩
  | bigint | string | array | object =>
    simp only [isTime, bind_eq_error_iff, textOrThrow_eq_error_iff]
    refine ⟨fun h => h.elim id ?_, Or.inl⟩
    rintro ⟨_, -, h⟩
    cases h

/-- A test fails exactly where it throws, and what it throws has no code. -/
private theorem run_eq_error_iff {test : DetailTest} {failure : Failure} :
    test.run service details = .error failure ↔
      test.Throws details ∧ typeError "Cannot convert object to primitive value" = failure := by
  cases test with
  | isText | nonZero | positive => exact ⟨nofun, fun h => absurd h.1 id⟩
  | isDate field => exact isTime_eq_error_iff
  | pattern field accepts =>
    rw [DetailTest.run, bind_eq_error_iff, textOrThrow_eq_error_iff]
    refine ⟨fun h => h.elim id ?_, Or.inl⟩
    rintro ⟨_, -, h⟩
    cases h

end Errors

section Types

variable {service : CallbackService} {details : List (String × JsValue)} {field : String}

private theorem run_isText_iff :
    (DetailTest.isText field).run service details = .ok true ↔ HasText details field fun _ => True := by
  simp only [DetailTest.run, Except.ok.injEq, Option.isSome_iff_exists, textOf_eq_some_iff, HasText, and_true]

private theorem run_pattern_text {accepts : String → Bool} {text : String}
    (h : textOf (lookup details field) = some text) :
    (DetailTest.pattern field accepts).run service details = .ok (accepts text) := by
  rw [DetailTest.run, textOf_eq_some_iff.mp h]
  rfl

private theorem run_positive_iff :
    (DetailTest.positive field).run service details = .ok true ↔ HasPositiveInteger details field := by
  simp only [DetailTest.run, Except.ok.injEq, Option.isSome_iff_exists, positiveInteger_eq_some_iff, HasPositiveInteger]

/-- A pattern that is tested on a text. -/
private theorem run_pattern_iff {accepts : String → Bool} (h : (textOf (lookup details field)).isSome = true) :
    (DetailTest.pattern field accepts).run service details = .ok true ↔ HasText details field (accepts · = true) := by
  obtain ⟨text, htext⟩ := Option.isSome_iff_exists.mp h
  rw [run_pattern_text htext, Except.ok.injEq, HasText, textOf_eq_some_iff.mp htext]
  simp

private theorem textOf_of_hasText {property : String → Prop} (h : HasText details field property) :
    (textOf (lookup details field)).isSome = true := by
  obtain ⟨text, htext, -⟩ := h
  rw [htext]
  rfl

/-- The tests of a positive decimal. -/
private theorem run_units_iff (h : (textOf (lookup details field)).isSome = true) :
    (DetailTest.pattern field decimal.isCanonical).run service details = .ok true ∧
        (DetailTest.nonZero field).run service details = .ok true ↔ HasText details field IsPositiveDecimal := by
  obtain ⟨text, htext⟩ := Option.isSome_iff_exists.mp h
  have hnonZero : (DetailTest.nonZero field).run service details = .ok true ↔ text ≠ "0" := by
    rw [DetailTest.run, htext, Except.ok.injEq, decide_eq_true_eq, ne_eq, Option.some.injEq]
  rw [run_pattern_text htext, hnonZero, Except.ok.injEq, HasText, textOf_eq_some_iff.mp htext]
  simp only [Option.some.injEq, JsValue.string.injEq, exists_eq_left']
  exact and_congr_right fun hcanonical => (decimal.value_pos_iff hcanonical).symm

/-- Details whose tests all hold have their declared types exactly if every pattern
was tested on a text. -/
private theorem detailsTyped_iff {channel : Channel}
    (hfields : ∀ field ∈ detailFields channel, (lookup details field).isSome = true)
    (htests : ∀ test ∈ detailTests channel, test.run service details = .ok true) :
    DetailsTyped details channel ↔ ∀ field ∈ patternFields channel, (textOf (lookup details field)).isSome = true := by
  cases channel with
  | register =>
    have hpatterns : patternFields .register = ["assetCode", "units"] := rfl
    simp only [detailTests, List.forall_mem_cons] at htests
    obtain ⟨hreference, hcode, hunits, hnonZero, hversion, -⟩ := htests
    simp only [hpatterns, List.forall_mem_cons]
    constructor
    · rintro ⟨-, hcodeText, hunitsText, -⟩
      exact ⟨textOf_of_hasText hcodeText, textOf_of_hasText hunitsText, nofun⟩
    · rintro ⟨hcodeText, hunitsText, -⟩
      exact ⟨run_isText_iff.mp hreference, (run_pattern_iff hcodeText).mp hcode,
        (run_units_iff hunitsText).mp ⟨hunits, hnonZero⟩, run_positive_iff.mp hversion⟩
  | cash =>
    have hpatterns : patternFields .cash = ["currency", "amountMinor", "feeMinor"] := rfl
    simp only [detailTests, List.forall_mem_cons] at htests
    obtain ⟨hreference, hcurrency, hamount, hnonZero, hfee, -⟩ := htests
    simp only [hpatterns, List.forall_mem_cons]
    constructor
    · rintro ⟨-, hcurrencyText, hamountText, hfeeText⟩
      exact ⟨textOf_of_hasText hcurrencyText, textOf_of_hasText hamountText, textOf_of_hasText hfeeText, nofun⟩
    · rintro ⟨hcurrencyText, hamountText, hfeeText, -⟩
      exact ⟨run_isText_iff.mp hreference, (run_pattern_iff hcurrencyText).mp hcurrency,
        (run_units_iff hamountText).mp ⟨hamount, hnonZero⟩, (run_pattern_iff hfeeText).mp hfee⟩
  | custody =>
    have hpatterns : patternFields .custody = ["assetCode", "balanceUnits"] := rfl
    simp only [detailTests, List.forall_mem_cons] at htests
    obtain ⟨hstatement, hcode, hbalance, -, -⟩ := htests
    simp only [hpatterns, List.forall_mem_cons]
    constructor
    · rintro ⟨-, hcodeText, hbalanceText, -⟩
      exact ⟨textOf_of_hasText hcodeText, textOf_of_hasText hbalanceText, nofun⟩
    · rintro ⟨hcodeText, hbalanceText, -⟩
      exact ⟨run_isText_iff.mp hstatement, (run_pattern_iff hcodeText).mp hcode,
        (run_pattern_iff hbalanceText).mp hbalance, hfields "asOf" (by decide)⟩

end Types

section Verdict

variable {service : CallbackService} {now : Int} {members details : List (String × JsValue)} {form : Form}

/-- Details that are refused without a callback code are misread. -/
private theorem checkDetails_eq_error {channel : ChannelName} {failure : Failure}
    (h : checkDetails service channel details = .error failure) :
    failure.code ∈ callbackCodes ∨ DetailsMisread service details channel := by
  cases channel with
  | inherited name => exact Or.inr trivial
  | known channel =>
    obtain hfields | ⟨_, hfields, h⟩ := bind_eq_error_iff.mp h
    · exact Or.inl (coded_mismatch failure hfields)
    · have hmatch := fieldsMatch_iff.mpr (throwIf_eq_ok_iff.mp hfields)
      obtain htests | ⟨matched, -, h⟩ := bind_eq_error_iff.mp h
      · obtain ⟨before, test, after, hsplit, hbefore, htest⟩ := allM_eq_error_iff.mp htests
        exact Or.inr ⟨hmatch, Or.inr ⟨before, test, after, hsplit, hbefore, (run_eq_error_iff.mp htest).1⟩⟩
      · exact Or.inl (coded_mismatch failure h)

/-- Misread details are accepted with a member that is no text, or refused without a
code. -/
private theorem checkDetails_of_misread {channel : ChannelName} (h : DetailsMisread service details channel) :
    (∃ known, channel = .known known ∧ checkDetails service channel details = .ok () ∧
        ∃ field ∈ patternFields known, textOf (lookup details field) = none) ∨
      ∃ failure, checkDetails service channel details = .error failure ∧ failure.code ∉ callbackCodes := by
  cases channel with
  | inherited name => exact Or.inr ⟨_, rfl, by decide⟩
  | known channel =>
    obtain ⟨hmatch, ⟨htests, hfield⟩ | ⟨before, test, after, hsplit, hbefore, hthrows⟩⟩ := h
    · exact Or.inl ⟨channel, rfl, checkDetails_eq_ok_iff.mpr ⟨channel, rfl, hmatch, htests⟩, hfield⟩
    · refine Or.inr ⟨typeError "Cannot convert object to primitive value", ?_, by decide⟩
      have htest := (@run_eq_error_iff service details test _).mpr ⟨hthrows, rfl⟩
      have hall := allM_eq_error_iff.mpr ⟨before, test, after, hsplit, hbefore, htest⟩
      refine bind_eq_error_iff.mpr (Or.inr ⟨(), throwIf_eq_ok_iff.mpr (fieldsMatch_iff.mp hmatch), ?_⟩)
      exact bind_eq_error_iff.mpr (Or.inl hall)

/-- An accepted envelope is in the grammar if its details are typed. -/
private theorem grammar_iff (hform : FormChecked service now members form) (hsubject : SubjectChecked form details)
    {channel : Channel} (hchannel : form.channel = .known channel) :
    Grammar (.object members) ↔ DetailsTyped details channel := by
  have hname := hform.channel.1
  have hmatch := hsubject.eventType
  have hsubjectType := hsubject.subjectType
  rw [hchannel] at hname hmatch hsubjectType
  constructor
  · rintro ⟨_, payload, typed, other, _, h, hother, -, hsame, -, -, hfound, htyped⟩
    cases h
    obtain rfl : payload = form.payload := by
      rw [hform.payload] at hsame
      exact (JsValue.object.inj (Option.some.inj hsame)).symm
    obtain rfl : typed = details := by
      rw [hsubject.details] at hfound
      exact (JsValue.object.inj (Option.some.inj hfound)).symm
    obtain rfl : other = channel := by
      rw [hname] at hother
      have htext := JsValue.string.inj (Option.some.inj hother)
      cases other <;> cases channel <;> first | rfl | exact absurd htext (by decide)
    exact htyped
  · intro htyped
    refine ⟨members, form.payload, details, channel, form.outcome, rfl, hname, hmatch ▸ hform.eventType.1,
      hform.payload, ?_, hform.outcome, hsubject.details, htyped⟩
    intro key
    constructor
    · rintro ⟨member, hmember, rfl⟩
      exact hsubject.keys member hmember
    · intro hkey
      simp only [List.mem_cons, List.not_mem_nil, or_false] at hkey
      obtain rfl | rfl | rfl | rfl := hkey
      · exact ⟨_, lookup_mem hsubjectType, rfl⟩
      · exact ⟨_, lookup_mem hform.subjectRef, rfl⟩
      · exact ⟨_, lookup_mem hform.outcome, rfl⟩
      · exact ⟨_, lookup_mem hsubject.details, rfl⟩

/-- The details of an envelope decide whether it is misread. -/
private theorem misread_iff (hform : checkForm service now members = .ok form)
    (hsubject : checkSubject form = .ok details) :
    Misread service now (.object members) ↔ DetailsMisread service details form.channel := by
  constructor
  · rintro ⟨_, other, found, h, hother, hfound, hmisread⟩
    cases h
    obtain rfl := Except.ok.inj (hform.symm.trans hother)
    obtain rfl := Except.ok.inj (hsubject.symm.trans hfound)
    exact hmisread
  · exact fun hmisread => ⟨members, form, details, rfl, hform, hsubject, hmisread⟩

/-- Details are refused with a code exactly if they are not misread. -/
private theorem refused_iff {failure : Failure} {channel : ChannelName}
    (h : checkDetails service channel details = .error failure) :
    failure.code ∈ callbackCodes ↔ ¬DetailsMisread service details channel := by
  constructor
  · intro hcode hmisread
    obtain ⟨_, -, hok, -⟩ | ⟨raised, hraised, huncoded⟩ := checkDetails_of_misread hmisread
    · rw [h] at hok
      cases hok
    · obtain rfl := Except.error.inj (h.symm.trans hraised)
      exact huncoded hcode
  · exact fun hnot => (checkDetails_eq_error h).resolve_right hnot

/-- Accepted details are typed exactly if they are not misread. -/
private theorem accepted_iff {channel : Channel} (h : checkDetails service (.known channel) details = .ok ()) :
    DetailsTyped details channel ↔ ¬DetailsMisread service details (.known channel) := by
  obtain ⟨_, hknown, hmatch, htests⟩ := checkDetails_eq_ok_iff.mp h
  cases hknown
  rw [detailsTyped_iff hmatch.2 htests]
  constructor
  · intro htexts hmisread
    obtain ⟨_, hknown, -, field, hfield, hnone⟩ | ⟨raised, hraised, -⟩ := checkDetails_of_misread hmisread
    · cases hknown
      have htext := htexts field hfield
      rw [hnone] at htext
      cases htext
    · rw [h] at hraised
      cases hraised
  · intro hnot field hfield
    by_contra hnone
    have hnone' := Option.not_isSome_iff_eq_none.mp hnone
    exact hnot ⟨hmatch, Or.inl ⟨htests, field, hfield, hnone'⟩⟩

end Verdict

/-- The verdict on a callback: what is accepted is in the grammar, and what is refused
has a callback code. -/
def VerdictSound (now : Int) (value : JsValue) : Prop :=
  match validateInstitutionCallbackEnvelope service now value with
  | .ok _ => Grammar value
  | .error failure => failure.code ∈ callbackCodes

/-- On a value that was read from JSON the validator accepts only its grammar and
throws only errors with a callback code, exactly if it does not misread the value. The
call stack must hold the nesting of the payload. -/
theorem validator_exact_iff (now : Int) (value : JsValue)
    (hjson : jsonCopy service.platform.isoText value = some value) :
    VerdictSound service now value ↔ ¬Misread service now value := by
  unfold VerdictSound
  cases value with
  | object members =>
    cases hform : checkForm service now members with
    | error failure =>
      have hrun : validateInstitutionCallbackEnvelope service now (.object members) = .error failure :=
        bind_eq_error_iff.mpr (Or.inl hform)
      rw [hrun]
      refine iff_of_true (coded_checkForm hjson failure hform) ?_
      rintro ⟨_, form, _, h, hok, -⟩
      cases h
      rw [hform] at hok
      cases hok
    | ok form =>
      cases hsubject : checkSubject form with
      | error failure =>
        have hrun : validateInstitutionCallbackEnvelope service now (.object members) = .error failure :=
          bind_eq_error_iff.mpr (Or.inr ⟨form, hform, bind_eq_error_iff.mpr (Or.inl hsubject)⟩)
        rw [hrun]
        refine iff_of_true (coded_checkSubject failure hsubject) ?_
        rintro ⟨_, other, _, h, hother, hok, -⟩
        cases h
        obtain rfl := Except.ok.inj (hform.symm.trans hother)
        rw [hsubject] at hok
        cases hok
      | ok details =>
        rw [misread_iff hform hsubject]
        cases hdetails : checkDetails service form.channel details with
        | error failure =>
          have hrun : validateInstitutionCallbackEnvelope service now (.object members) = .error failure :=
            bind_eq_error_iff.mpr (Or.inr ⟨form, hform, bind_eq_error_iff.mpr (Or.inr ⟨details, hsubject,
              bind_eq_error_iff.mpr (Or.inl hdetails)⟩)⟩)
          rw [hrun]
          exact refused_iff hdetails
        | ok checked =>
          have hrun : validateInstitutionCallbackEnvelope service now (.object members) = .ok (form, details) :=
            bind_eq_ok_iff.mpr
              ⟨form, hform, bind_eq_ok_iff.mpr ⟨details, hsubject, bind_eq_ok_iff.mpr ⟨(), hdetails, rfl⟩⟩⟩
          rw [hrun]
          obtain ⟨channel, hchannel, -⟩ := checkDetails_eq_ok_iff.mp hdetails
          rw [hchannel] at hdetails ⊢
          exact (grammar_iff (checkForm_eq_ok_iff.mp hform) (checkSubject_eq_ok_iff.mp hsubject) hchannel).trans
            (accepted_iff hdetails)
  | undefined | null | bool | number | notFinite | bigint | string | date | array =>
    refine iff_of_true ?_ ?_
    · show "UNSUPPORTED_CALLBACK_SCHEMA" ∈ callbackCodes
      decide
    · rintro ⟨_, _, _, h, -⟩
      cases h

section Sample

variable {service : CallbackService} {now : Int}

private def samplePlatform : Platform where
  sha256 text := text
  numberText number := toString number.num
  isoText _ := ""

private def sampleService : CallbackService where
  platform := samplePlatform
  asymmetricKeyType _ := some "ed25519"
  verify _ _ _ := true
  decoyPublicKey := "decoy"
  dateTime text := if text = "2026-05-01T00:00:00.000Z" then some 0
    else if text = "2026-05-01T01:00:00.000Z" then some 3600000 else none
  timestamptz _ := some 0
  dateText _ := "Invalid Date"
  matchesCommitment := none
  tenantId := "tenant-1"
  maxClockSkewMs := 300000
  maxValidityMs := 86400000

private def sampleCallback (channel eventType : String) (details : List (String × JsValue)) : JsValue :=
  let payload : JsValue := .object
    [("subjectType", .string "TRANSACTION"), ("subjectRef", .string "tx-1"), ("outcome", .string "CONFIRMED"),
      ("details", .object details)]
  .object
    [("schema", .string callbackSchema), ("callbackId", .string "callback-1"), ("tenantId", .string "tenant-1"),
      ("institutionId", .string "bank-1"), ("productId", .string "fund-1"), ("channel", .string channel),
      ("eventType", .string eventType), ("occurredAt", .string "2026-05-01T00:00:00.000Z"),
      ("expiresAt", .string "2026-05-01T01:00:00.000Z"), ("sequence", .number 1), ("payload", payload),
      ("payloadHash", .string ((sha256Canonical samplePlatform payload).toOption.getD "")),
      ("signature", .string "c2lnbmF0dXJl")]

private def cashDetails : List (String × JsValue) :=
  [("bankReference", .string "payment-1"), ("currency", .string "USD"), ("amountMinor", .string "1000"),
    ("feeMinor", .string "0")]

private def sampleCash : JsValue := sampleCallback "CASH" "CASH.CONFIRMED" cashDetails

theorem validator_exact_sample : (validateInstitutionCallbackEnvelope sampleService 0 sampleCash).isOk = true ∧
    ¬Misread sampleService 0 sampleCash := by
  have hgrammar : Grammar sampleCash := by
    refine ⟨_, _, cashDetails, .cash, .confirmed, rfl, rfl, rfl, rfl, ?_, rfl, rfl, ?_⟩
    · intro key
      simp [eq_comm]
    · exact ⟨⟨_, rfl, trivial⟩, ⟨_, rfl, by decide⟩, ⟨_, rfl, by decide, by decide⟩,
        ⟨_, rfl, show decimal.isCanonical "0" = true by decide⟩⟩
  have hok : (validateInstitutionCallbackEnvelope sampleService 0 sampleCash).isOk = true := by decide +kernel
  refine ⟨hok, (validator_exact_iff sampleService 0 sampleCash rfl).mp ?_⟩
  unfold VerdictSound
  split
  · exact hgrammar
  · next failure h =>
    rw [h] at hok
    cases hok

private def inheritedChannel : JsValue := sampleCallback "constructor" "constructor.CONFIRMED" []

private def registerDetails : List (String × JsValue) :=
  [("registerReference", .string "entry-1"), ("assetCode", .null), ("units", .number 5), ("registerVersion", .number 1)]

private def numericUnits : JsValue := sampleCallback "REGISTER" "REGISTER.CONFIRMED" registerDetails

/-- A null asset code is in no grammar. -/
private theorem not_grammar {members payload details : List (String × JsValue)}
    (hchannel : lookup members "channel" = some (.string "REGISTER"))
    (hpayload : lookup members "payload" = some (.object payload))
    (hdetails : lookup payload "details" = some (.object details)) (hcode : lookup details "assetCode" = some .null) :
    ¬Grammar (.object members) := by
  rintro ⟨_, other, found, channel, _, h, hname, -, hother, -, -, hfound, htyped⟩
  cases h
  rw [hpayload] at hother
  cases hother
  rw [hdetails] at hfound
  cases hfound
  rw [hchannel] at hname
  cases channel with
  | cash | custody => exact absurd (JsValue.string.inj (Option.some.inj hname)) (by decide)
  | register =>
    obtain ⟨_, htext, -⟩ := htyped.2.1
    rw [hcode] at htext
    cases htext

private def codeOf {α : Type} : Except Failure α → Option String
  | .ok _ => none
  | .error failure => some failure.code

private theorem not_verdictSound {value : JsValue}
    (h : (validateInstitutionCallbackEnvelope service now value).isOk = true ∧ ¬Grammar value ∨
      codeOf (validateInstitutionCallbackEnvelope service now value) = some "") :
    ¬VerdictSound service now value := by
  unfold VerdictSound
  cases hrun : validateInstitutionCallbackEnvelope service now value with
  | ok checked => exact (h.resolve_right (by rw [hrun]; exact nofun)).2
  | error failure =>
    have hcode := h.resolve_left fun haccepted => by
      rw [hrun] at haccepted
      cases haccepted.1
    rw [hrun] at hcode
    show failure.code ∉ callbackCodes
    rw [Option.some.inj hcode]
    decide

/-- A channel that every object inherits is refused with a runtime error, and a null
asset code is accepted with a number of units. -/
theorem validator_coerces :
    (jsonCopy sampleService.platform.isoText inheritedChannel = some inheritedChannel ∧
      codeOf (validateInstitutionCallbackEnvelope sampleService 0 inheritedChannel) = some "" ∧
      ¬VerdictSound sampleService 0 inheritedChannel) ∧
    jsonCopy sampleService.platform.isoText numericUnits = some numericUnits ∧
      (validateInstitutionCallbackEnvelope sampleService 0 numericUnits).isOk = true ∧
      ¬VerdictSound sampleService 0 numericUnits := by
  have hcode : codeOf (validateInstitutionCallbackEnvelope sampleService 0 inheritedChannel) = some "" := by
    decide +kernel
  have hok : (validateInstitutionCallbackEnvelope sampleService 0 numericUnits).isOk = true := by decide +kernel
  exact ⟨⟨rfl, hcode, not_verdictSound (Or.inr hcode)⟩, rfl, hok,
    not_verdictSound (Or.inl ⟨hok, not_grammar rfl rfl rfl rfl⟩)⟩

end Sample

end rwa.callbacks
