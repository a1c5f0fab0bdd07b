import Mathlib.Data.List.Forall2
import RwaControlPlane.Callbacks.Reconciliation
import RwaControlPlane.Library.AsciiText

open checked js_value
open rwa.catalog (lookup)
open rwa.durable (CommittedValue SettledValues)
open rwa.security (EconomicCommitter economicMessage)
open rwa.storage (TransactionIntent IsHash)
open rwa.callbacks

namespace rwa.reconciliation

variable {mac : String → String → String} {services : Services} {state : State mac} {callback : Callback}
  {transaction : TransactionIntent} {tenantId : String}

/-- A canonical text is that of an integer when it denotes it. -/
private theorem toString_eq_iff {text : String} (h : decimal.isCanonical text = true) {number : Int} :
    text = toString number ↔ (decimal.value text : Int) = number := by
  cases number with
  | ofNat number =>
    have htext : toString (Int.ofNat number) = number.repr := rfl
    rw [htext, Int.ofNat_eq_natCast, Nat.cast_inj]
    constructor
    · rintro rfl
      exact decimal.value_repr number
    · rintro rfl
      exact (decimal.repr_value h).symm
  | negSucc number =>
    have htext : toString (Int.negSucc number) = "-" ++ (number + 1).repr := rfl
    constructor
    · intro hsame
      rw [hsame, htext] at h
      simp [decimal.isCanonical, decimal.canonicalDigits] at h
    · intro hsame
      exact absurd hsame (by omega)

/-- A test of a pattern that holds. -/
private theorem pattern_ok {service : CallbackService} {details : List (String × JsValue)} {field : String}
    {accepts : String → Bool} (h : (DetailTest.pattern field accepts).run service details = .ok true) :
    accepts (stringOf service.platform.numberText service.dateText ((lookup details field).getD .undefined)) =
      true := by
  simp only [DetailTest.run, textOrThrow, bind_eq_ok_iff, exists_unit, pure_eq_ok_iff] at h
  obtain ⟨_, ⟨-, rfl⟩, h⟩ := h
  exact h

section Check

variable {committer : EconomicCommitter mac} {keyId : String} {messages : Set String}

/-- A stated value is matched by the commitment to it, and by no other. -/
private theorem check_iff (hdigests : ∀ keyId message, IsHash (mac keyId message))
    (hmac : Set.InjOn (mac keyId) messages) {context : CommitmentContext} {number : Int} {expected : String}
    {verdict : Bool}
    (hmade : Made services mac ⟨context.tenantId, context.transactionId, context.productId, context.field, number⟩ keyId
      expected)
    (hcommitted : ∀ message, economicMessage services.callbacks.platform.numberText
      { context with value := toString number } = .ok message → message ∈ messages)
    (hstated : ∀ message, economicMessage services.callbacks.platform.numberText context = .ok message →
      message ∈ messages)
    (hcanonical : decimal.isCanonical context.value = true)
    (h : committer.matches services.callbacks.platform.numberText context expected keyId = .ok verdict) :
    verdict = true ↔ (decimal.value context.value : Int) = number := by
  obtain ⟨message, hmessage, rfl⟩ := hmade
  rw [EconomicCommitter.matches_iff (hdigests keyId) hmac hmessage (hcommitted message hmessage) hstated h,
    ← toString_eq_iff hcanonical]
  constructor
  · intro hsame
    rw [hsame]
  · intro hsame
    rw [← hsame]

end Check

section Reconcile

variable {transactionId : Option String} {reconciliation : Reconciliation}

/-- The transaction that a callback names is found. -/
private theorem find_transaction (hids : (state.db.transactions.intents.map (·.id)).Nodup)
    (hmem : transaction ∈ state.db.transactions.intents) :
    state.registry.transactions.find? (·.id = transaction.id) = some (State.intentRow transaction) := by
  have hfound := keyed_rows.find_key_of_mem hids hmem
  rw [State.registry, List.find?_map]
  exact congrArg (Option.map State.intentRow) hfound

/-- A list of checks that do not fail is passed when each of them is. -/
private theorem matched_iff {α : Type} {check : α → Except Failure Bool} {passes : α → Prop} {checks : List α}
    {matched : List Bool}
    (hcheck : ∀ item ∈ checks, ∀ verdict, check item = .ok verdict → (verdict = true ↔ passes item))
    (h : checks.mapM check = .ok matched) : matched.all id = true ↔ ∀ item ∈ checks, passes item := by
  induction checks generalizing matched with
  | nil =>
    obtain rfl := pure_eq_ok_iff.mp h
    simp
  | cons item rest ih =>
    rw [List.mapM_cons] at h
    obtain ⟨verdict, hverdict, h⟩ := bind_eq_ok_iff.mp h
    obtain ⟨verdicts, hverdicts, h⟩ := bind_eq_ok_iff.mp h
    obtain rfl := pure_eq_ok_iff.mp h
    obtain ⟨hfirst, hrest⟩ := List.forall_mem_cons.mp hcheck
    rw [List.all_cons, Bool.and_eq_true, ih hrest hverdicts, List.forall_mem_cons]
    exact and_congr_left fun _ => hfirst verdict hverdict

/-- The value that was settled, by the field that it is committed to in. -/
private def fieldValue (values : SettledValues) (field : String) : Int :=
  if field = "units" then values.units else if field = "cashAmountMinor" then values.cashAmount else values.feeAmount

/-- The text of a member of `details`. -/
private def memberText (services : Services) (value : JsValue) : String :=
  stringOf services.callbacks.platform.numberText services.callbacks.dateText value

/-- The checks of a callback are of canonical texts against what was committed to. -/
private theorem commitmentChecks_made {values : SettledValues} {commitment : durable.EconomicCommitment}
    (hcommits : durable.CommitsTo (Made services mac) transaction values commitment)
    (hchannel : callback.stream.channel ≠ .custody)
    (hdetails : checkDetails services.callbacks (.known callback.stream.channel) callback.payload.details = .ok ()) :
    ∀ item ∈ commitmentChecks callback.stream.channel callback.payload.details commitment,
      Made services mac ⟨transaction.tenantId, transaction.id, transaction.productId, item.1,
        fieldValue values item.1⟩ commitment.keyId item.2.2 ∧
      decimal.isCanonical (memberText services item.2.1) = true ∧
      (item.1, fieldValue values item.1) ∈
        [("units", values.units), ("cashAmountMinor", values.cashAmount), ("feeAmountMinor", values.feeAmount)] ∧
      (item.1, item.2.1) ∈ [("units", "units"), ("cashAmountMinor", "amountMinor"), ("feeAmountMinor", "feeMinor")].map
        fun given => (given.1, (lookup callback.payload.details given.2).getD .undefined) := by
  obtain ⟨known, hknown, -, htests⟩ := checkDetails_eq_ok_iff.mp hdetails
  cases hknown
  cases hcase : callback.stream.channel with
  | custody => exact absurd hcase hchannel
  | register =>
    rw [hcase] at htests
    have hunits := pattern_ok (htests (.pattern "units" decimal.isCanonical) (by simp [detailTests]))
    simp only [commitmentChecks, List.forall_mem_singleton]
    exact ⟨hcommits.units, hunits, by simp [fieldValue], by simp⟩
  | cash =>
    rw [hcase] at htests
    have hamount := pattern_ok (htests (.pattern "amountMinor" decimal.isCanonical) (by simp [detailTests]))
    have hfee := pattern_ok (htests (.pattern "feeMinor" decimal.isCanonical) (by simp [detailTests]))
    simp only [commitmentChecks, List.forall_mem_cons]
    exact ⟨⟨hcommits.cashAmount, hamount, by simp [fieldValue], by simp⟩,
      ⟨hcommits.feeAmount, hfee, by simp [fieldValue], by simp⟩, List.forall_mem_nil _⟩

/-- The commitments to a transaction are matched by the values that were settled, and by
no others. -/
private theorem commitmentsMatch_iff (hdigests : ∀ keyId message, IsHash (mac keyId message))
    {applied : List Callback} (hmac : ∀ keyId, Set.InjOn (mac keyId) (comparedMessages services state applied))
    (hcommitted : state.db.Committed (Made services mac)) (hmem : transaction ∈ state.db.transactions.intents)
    (hrail : transaction.settlementRail = .registered) (hsettled : transaction.currentState = .settled)
    (happlied : callback ∈ applied) (hchannel : callback.stream.channel ≠ .custody)
    (hdetails : checkDetails services.callbacks (.known callback.stream.channel) callback.payload.details = .ok ())
    (hsubject : transaction.id = callback.payload.subjectRef)
    (htenant : callback.stream.tenantId = transaction.tenantId)
    (hproduct : callback.stream.productId = transaction.productId)
    (h : commitmentsMatch (callbackService services state.committer tenantId) state.registry callback transaction.id =
      .ok reconciliation) :
    (reconciliation = .fullyMatched ↔ ∃ values, state.db.settledValues transaction.id = some values ∧
      StatesValues services callback values) ∧
    (reconciliation ≠ .fullyMatched → ∃ reason, reconciliation = .mismatch reason) := by
  obtain ⟨values, commitment, hvalues, hfound, hcommits⟩ := hcommitted.settled transaction hmem hrail hsettled
  have hlookup : state.registry.commitments.find? (·.transactionId = transaction.id) = some commitment := hfound
  simp only [commitmentsMatch, hlookup, callbackService, bind_eq_ok_iff, pure_eq_ok_iff] at h
  obtain ⟨matched, hmatched, rfl⟩ := h
  have hchecks := commitmentChecks_made hcommits hchannel hdetails
  have hpasses := @matched_iff _ _
    (fun item => (decimal.value (memberText services item.2.1) : Int) = fieldValue values item.1) _ _ ?_ hmatched
  · have hstates : StatesValues services callback values ↔ matched.all id = true := by
      rw [hpasses]
      cases hcase : callback.stream.channel with
      | custody => exact absurd hcase hchannel
      | register => simp [StatesValues, commitmentChecks, numberOf, memberText, fieldValue, hcase]
      | cash => simp [StatesValues, commitmentChecks, numberOf, memberText, fieldValue, hcase]
    constructor
    · constructor
      · intro hfull
        refine ⟨values, hvalues, hstates.mpr ?_⟩
        by_contra hnot
        rw [if_neg hnot] at hfull
        cases hfull
      · rintro ⟨settled, hsame, hstated⟩
        obtain rfl := Option.some.inj (hvalues.symm.trans hsame)
        rw [if_pos (hstates.mp hstated)]
    · intro hnot
      split at hnot
      · exact absurd rfl hnot
      · next hfails =>
        rw [if_neg hfails]
        exact ⟨_, rfl⟩
  · intro item hitem verdict hverdict
    obtain ⟨hmade, hcanonical, hsettledField, hstatedField⟩ := hchecks item hitem
    obtain ⟨field, value, expected⟩ := item
    have hcheck := @check_iff mac services state.committer commitment.keyId _ hdigests (hmac commitment.keyId)
      ⟨callback.stream.tenantId, transaction.id, callback.stream.productId, field, memberText services value⟩
      (fieldValue values field) expected verdict
    refine hcheck ?_ ?_ ?_ hcanonical hverdict
    · rw [htenant, hproduct]
      exact hmade
    · intro message hmessage
      refine ⟨_, List.mem_append_left _ (List.mem_flatMap.mpr ⟨transaction, hmem, ?_⟩), hmessage⟩
      rw [hvalues, htenant, hproduct]
      exact List.mem_map.mpr ⟨_, hsettledField, rfl⟩
    · intro message hmessage
      refine ⟨_, List.mem_append_right _ (List.mem_flatMap.mpr ⟨callback, happlied, ?_⟩), hmessage⟩
      obtain ⟨⟨_, member⟩, hmember, heq⟩ := List.mem_map.mp hstatedField
      obtain ⟨rfl, rfl⟩ := Prod.mk.inj heq
      rw [hsubject]
      exact List.mem_map.mpr ⟨_, hmember, rfl⟩

/-- The asset or the currency that the source compares. -/
private theorem statesAsset_iff (hchannel : callback.stream.channel ≠ .custody) {product : Product}
    (hproduct : state.registry.products.find? (·.id = callback.stream.productId) = some product) :
    StatesAsset state callback ↔
      ¬(callback.stream.channel = .cash ∧ textOf (lookup callback.payload.details "currency") ≠ some product.currency) ∧
      ¬(callback.stream.channel = .register ∧
        textOf (lookup callback.payload.details "assetCode") ≠ some ("UNIT:" ++ callback.stream.productId)) := by
  cases hcase : callback.stream.channel with
  | custody => exact absurd hcase hchannel
  | register => simp [StatesAsset, hcase, textOf_eq_some_iff]
  | cash => simp [StatesAsset, hcase, textOf_eq_some_iff, hproduct]

/-- A transaction of the confidential rail has no commitments. -/
private theorem commitmentsMatch_confidential (hcommitted : state.db.Committed (Made services mac))
    (hmem : transaction ∈ state.db.transactions.intents) (hrail : transaction.settlementRail ≠ .registered)
    (h : commitmentsMatch (callbackService services state.committer tenantId) state.registry callback transaction.id =
      .ok reconciliation) : reconciliation = .mismatch "MISSING_ECONOMIC_COMMITMENT" := by
  have hnone : state.registry.commitments.find? (·.transactionId = transaction.id) = none := by
    rw [List.find?_eq_none]
    intro commitment hcommitment hsame
    obtain ⟨row, hrow, hid, hregistered⟩ := hcommitted.commitments commitment hcommitment
    have hrowId : row.id = transaction.id := hid.trans (by simpa using hsame)
    obtain rfl := List.inj_on_of_nodup_map hcommitted.ids hrow hmem hrowId
    exact hrail hregistered
  simp only [commitmentsMatch, hnone, callbackService] at h
  exact (Except.ok.inj h).symm

/-- How a callback reconciles with a settled transaction. -/
private theorem reconcile_verdict (hdigests : ∀ keyId message, IsHash (mac keyId message)) {applied : List Callback}
    (hmac : ∀ keyId, Set.InjOn (mac keyId) (comparedMessages services state applied))
    (hcommitted : state.db.Committed (Made services mac)) (hmem : transaction ∈ state.db.transactions.intents)
    (hsettled : transaction.currentState = .settled) (happlied : callback ∈ applied)
    (hchannel : callback.stream.channel ≠ .custody)
    (hdetails : checkDetails services.callbacks (.known callback.stream.channel) callback.payload.details = .ok ())
    (hsubject : transaction.id = callback.payload.subjectRef)
    (h : reconcile (callbackService services state.committer tenantId) state.registry callback =
      .ok (transactionId, reconciliation)) :
    transactionId = some transaction.id ∧
      (reconciliation = .fullyMatched ↔ Agrees services state callback transaction) ∧
      (reconciliation ≠ .fullyMatched → ∃ reason, reconciliation = .mismatch reason) := by
  have hfound := find_transaction hcommitted.ids hmem
  rw [hsubject] at hfound
  unfold reconcile at h
  dsimp only at h
  rw [if_neg hchannel, hfound] at h
  dsimp only [State.intentRow] at h
  split at h
  · next hcontext =>
    obtain ⟨rfl, rfl⟩ := Prod.mk.inj (Except.ok.inj h)
    refine ⟨rfl, ⟨nofun, ?_⟩, fun _ => ⟨_, rfl⟩⟩
    rintro ⟨htenant, hproduct, -⟩
    exact absurd hcontext (by simp [htenant, hproduct])
  · next hcontext =>
    obtain ⟨htenant, hcontextProduct⟩ : transaction.tenantId = callback.stream.tenantId ∧
        transaction.productId = callback.stream.productId := by simpa using hcontext
    obtain ⟨product, hproduct, h⟩ := bind_eq_ok_iff.mp h
    have hasset := @statesAsset_iff _ state callback hchannel product (require_eq_ok_iff.mp hproduct)
    split at h
    · next hcurrency =>
      obtain ⟨rfl, rfl⟩ := Prod.mk.inj (pure_eq_ok_iff.mp h)
      refine ⟨rfl, ⟨nofun, ?_⟩, fun _ => ⟨_, rfl⟩⟩
      rintro ⟨-, -, hstated, -⟩
      exact absurd hcurrency (hasset.mp hstated).1
    · next hcurrency =>
      split at h
      · next hcode =>
        obtain ⟨rfl, rfl⟩ := Prod.mk.inj (pure_eq_ok_iff.mp h)
        refine ⟨rfl, ⟨nofun, ?_⟩, fun _ => ⟨_, rfl⟩⟩
        rintro ⟨-, -, hstated, -⟩
        exact absurd hcode (hasset.mp hstated).2
      · next hcode =>
        obtain ⟨verdict, hverdict, h⟩ := bind_eq_ok_iff.mp h
        obtain ⟨rfl, rfl⟩ := Prod.mk.inj (pure_eq_ok_iff.mp h)
        refine ⟨rfl, ?_⟩
        by_cases hrail : transaction.settlementRail = .registered
        · obtain ⟨hmatched, hmismatch⟩ :=
            commitmentsMatch_iff hdigests hmac hcommitted hmem hrail hsettled happlied hchannel
            hdetails hsubject htenant.symm hcontextProduct.symm hverdict
          refine ⟨?_, hmismatch⟩
          rw [hmatched, Agrees]
          simp only [htenant, hcontextProduct, hasset.mpr ⟨hcurrency, hcode⟩, true_and]
        · obtain rfl := commitmentsMatch_confidential hcommitted hmem hrail hverdict
          refine ⟨⟨nofun, fun hagrees => ?_⟩, fun _ => ⟨_, rfl⟩⟩
          obtain ⟨-, -, -, values, hvalues, -⟩ := hagrees
          rw [hcommitted.settledValues_confidential hmem hrail] at hvalues
          cases hvalues

end Reconcile

/-- External reconciliation is exact, across changes of the committer. Whenever a posted
callback is received, in any reachable state, each callback that is applied gets one
confirmation. About a settled transaction it says FULLY_MATCHED exactly if the transaction
agrees with the callback: in tenant and product, in the asset or the currency of the
product, and, as numbers, in the values that were settled, which every transaction that
the workflow service has settled has. Otherwise it says MISMATCH, and an incident with its
reason is open. -/
theorem external_reconciliation_exact {committer : EconomicCommitter mac} {actions : List (Action mac)} {now : Int}
    {clock : Nat → Int} {posted : PostedCallback} {result : Received}
    (hdigests : ∀ keyId message, IsHash (mac keyId message))
    (hmac : ∀ keyId, Set.InjOn (mac keyId)
      (comparedMessages services (run services committer actions) result.applied))
    (hreceived : received services (run services committer actions) tenantId now clock posted = .ok result) :
    let state := run services committer actions
    (∀ transaction ∈ state.db.transactions.intents, transaction.settlementRail = .registered →
      transaction.currentState = .settled → (state.db.settledValues transaction.id).isSome = true) ∧
    ∃ rows, result.tables.confirmations = state.tables.confirmations ++ rows ∧
      List.Forall₂ (VerdictExact services state result.tables) result.applied rows := by
  intro state
  have hconsistent : Consistent services state := run_consistent services
  refine ⟨fun transaction hmem hrail hsettled => ?_, ?_⟩
  · obtain ⟨values, _, hvalues, -⟩ := hconsistent.committed.settled transaction hmem hrail hsettled
    rw [hvalues]
    rfl
  · have hreceives := receive_receives hreceived
    obtain ⟨rows, hrows, hrecorded⟩ := hreceives.confirmed
    refine ⟨rows, hrows, ?_⟩
    have happlied : ∀ callback ∈ result.applied, callback ∈ result.applied ∧
        checkDetails services.callbacks (.known callback.stream.channel) callback.payload.details = .ok () :=
      fun callback hcallback => ⟨hcallback, hreceives.details hconsistent.checked callback hcallback⟩
    refine ((List.forall₂_and_left _ _).mpr ⟨happlied, hrecorded⟩).imp ?_
    rintro callback row ⟨⟨hmem, hdetails⟩, hrow⟩ transaction htransaction hsubject hchannel hsettled
    obtain ⟨hnamed, hmatched, hmismatch⟩ := reconcile_verdict hdigests hmac hconsistent.committed htransaction hsettled
      hmem hchannel hdetails hsubject hrow.reconciled
    refine ⟨hrow.callbackId, hnamed, hmatched, fun hnot => ?_⟩
    obtain ⟨reason, hreason⟩ := hmismatch hnot
    refine ⟨reason, hreason, ?_⟩
    have hincident := hrow.incident
    rw [hreason] at hincident
    exact ⟨_, hincident _ rfl, rfl, rfl⟩

section Sample

/-- The last hexadecimal digits of a number. -/
def hexDigits (count number : Nat) : List Char :=
  (List.range count).map fun place => Nat.digitChar (number / 16 ^ place % 16)

def textCode (text : String) : Nat :=
  text.toList.foldl (fun code char => (code * 257 + char.toNat) % 16 ^ 63) 7

/-- A digest of 64 digits, the first of which is the key's. -/
def sampleMac (keyId message : String) : String :=
  String.ofList (hexDigits 1 (textCode keyId) ++ hexDigits 63 (textCode message))

/-- The digest of the sample, with its texts read off their bytes. -/
def quickMac (keyId message : String) : String :=
  let quickCode (text : String) := (ascii.chars text).foldl (fun code char => (code * 257 + char.toNat) % 16 ^ 63) 7
  String.ofList (hexDigits 1 (quickCode keyId) ++ hexDigits 63 (quickCode message))

theorem sampleMac_eq_quick : sampleMac = quickMac := by
  funext keyId message
  simp only [sampleMac, quickMac, textCode, ascii.chars_eq]

theorem sampleMac_isHash (keyId message : String) : IsHash (sampleMac keyId message) := by
  have hdigit : ∀ digit < 16, ((Nat.digitChar digit).isDigit ||
      ('a' ≤ Nat.digitChar digit && Nat.digitChar digit ≤ 'f')) = true := by decide
  have hdigits (count number : Nat) : (hexDigits count number).all
      (fun char => char.isDigit || ('a' ≤ char && char ≤ 'f')) = true := by
    rw [hexDigits, List.all_map, List.all_eq_true]
    exact fun place _ => hdigit _ (Nat.mod_lt _ (by decide))
  refine ⟨by simp [sampleMac, hexDigits], ?_⟩
  rw [sampleMac, String.toList_ofList, List.all_append, hdigits, hdigits]
  rfl

private theorem mod_eq_of_hexDigits {count first second : Nat} (h : hexDigits count first = hexDigits count second) :
    first % 16 ^ count = second % 16 ^ count := by
  have hdigit : ∀ digit < 16, ∀ other < 16, Nat.digitChar digit = Nat.digitChar other → digit = other := by decide
  induction count with
  | zero => simp only [pow_zero, Nat.mod_one]
  | succ count ih =>
    simp only [hexDigits, List.range_succ, List.map_append, List.map_singleton] at h
    obtain ⟨hrest, hlast⟩ := List.append_inj' h rfl
    have hsame := hdigit _ (Nat.mod_lt _ (by decide)) _ (Nat.mod_lt _ (by decide)) (List.singleton_injective hlast)
    rw [Nat.mod_pow_succ, Nat.mod_pow_succ, ih hrest, hsame]

private theorem sampleMac_injOn {messages : List String}
    (h : ∀ first ∈ messages, ∀ second ∈ messages,
      textCode first % 16 ^ 63 = textCode second % 16 ^ 63 → first = second) (keyId : String) :
    Set.InjOn (sampleMac keyId) {message | message ∈ messages} := by
  intro first hfirst second hsecond hsame
  have hdigits := List.append_cancel_left (String.ofList_injective hsame)
  exact h first hfirst second hsecond (mod_eq_of_hexDigits hdigits)

def deployment : Services where
  workflow := durable.sampleService
  callbacks :=
    { platform := ⟨id, fun number => toString number.num, toString⟩
      asymmetricKeyType := fun _ => some "ed25519"
      verify := fun _ _ _ => true
      decoyPublicKey := "decoy"
      dateTime := js_text.bigInt
      timestamptz := js_text.bigInt
      dateText := toString
      matchesCommitment := none
      tenantId := "sandbox-hk"
      maxClockSkewMs := 300000
      maxValidityMs := 86400000 }

def firstCommitter : EconomicCommitter sampleMac := security.heldKeys sampleMac ["key-1"] "key-1"
    (List.mem_singleton_self "key-1")

/-- A report of the transfer agent on a transaction. -/
private def registerReport (subjectRef units : String) : PostedCallback :=
  let payload : JsValue := .object
    [("subjectType", .string "TRANSACTION"), ("subjectRef", .string subjectRef), ("outcome", .string "CONFIRMED"),
      ("details", .object [("registerReference", .string "entry-1"), ("assetCode", .string "UNIT:fund"),
        ("units", .string units), ("registerVersion", .number 1)])]
  { members :=
      [("schema", .string callbackSchema), ("callbackId", .string "report-1"), ("tenantId", .string "sandbox-hk"),
        ("institutionId", .string "registrar"), ("productId", .string "fund"), ("channel", .string "REGISTER"),
        ("eventType", .string "REGISTER.CONFIRMED"), ("occurredAt", .string "2"), ("expiresAt", .string "1000"),
        ("sequence", .number 1), ("payload", payload),
        ("payloadHash", .string ((storage.sha256Canonical deployment.callbacks.platform payload).toOption.getD "")),
        ("signature", .string "c2lnbmF0dXJl")]
    json := fun _ => rfl }

/-- A subscription is settled, and the next key of the committer comes into use. -/
private def settledUnder (mac : String → String → String) : State mac :=
  run deployment (security.heldKeys mac ["key-1"] "key-1" (by decide))
    [.changeRegistry [⟨"registrar", "Registrar", "HK", .active, "key"⟩]
        [⟨"fund", "transfer_agent", "registrar", 0, none⟩]
        [⟨"registrar", "primary-v1", "Ed25519", "key", .active, 0, none, none⟩] [],
      .workflow "sandbox-hk" ⟨1, .bootstrapFromControlPlane control_plane.samplePlatform control_plane.sampleSetup⟩,
      .workflow "sandbox-hk" ⟨2, .settle .subscribe (durable.sampleSubscription "subscribe-1" "key-1" "5" "50")⟩,
      .deploy (security.heldKeys mac ["key-1", "key-2"] "key-2" (by decide))]

private def receivedUnder (mac : String → String → String) (posted : PostedCallback) : Except Failure Received :=
  received deployment (settledUnder mac) "sandbox-hk" 5 (fun _ => 5) posted

private def sampleState : State sampleMac := settledUnder sampleMac

private def sampleReceived (posted : PostedCallback) : Except Failure Received := receivedUnder sampleMac posted

private def sampleContexts (amounts : List (String × String)) : List CommitmentContext :=
  amounts.map fun (field, value) => ⟨"sandbox-hk", "subscribe-1", "fund", field, value⟩

/-- What was settled. -/
private def settledAmounts : List (String × String) :=
  [("units", "5"), ("cashAmountMinor", "50"), ("feeAmountMinor", "0")]

/-- What the report states. -/
private def statedAmounts : List (String × String) :=
  [("units", "5"), ("cashAmountMinor", "undefined"), ("feeAmountMinor", "undefined")]

private def sampleMessages : List String :=
  (sampleContexts settledAmounts ++ sampleContexts statedAmounts).filterMap fun context =>
    (economicMessage deployment.callbacks.platform.numberText context).toOption

private theorem sampleMessages_apart : ∀ first ∈ sampleMessages, ∀ second ∈ sampleMessages,
    textCode first % 16 ^ 63 = textCode second % 16 ^ 63 → first = second := by
  simp only [textCode, ← ascii.chars_eq]
  decide +kernel

/-- How the report is received, and what had been settled. -/
private def SampleFacts (mac : String → String → String) : Prop :=
  ((settledUnder mac).db.transactions.intents.flatMap fun transaction =>
    (((settledUnder mac).db.settledValues transaction.id).map (settledContexts transaction)).getD []) =
      sampleContexts settledAmounts ∧
  (receivedUnder mac (registerReport "subscribe-1" "5")).toOption.any (fun result =>
    result.tables.confirmations.map (·.reconciliation) = [.fullyMatched] ∧
    result.applied.map (fun callback => (callback.payload.subjectRef, callback.stream.channel)) =
      [("subscribe-1", .register)] ∧
    result.applied.flatMap (statedContexts deployment) = sampleContexts statedAmounts) = true ∧
  ∃ transaction ∈ (settledUnder mac).db.transactions.intents,
    transaction.id = "subscribe-1" ∧ transaction.currentState = .settled

private instance (mac : String → String → String) : Decidable (SampleFacts mac) := inferInstanceAs (Decidable (_ ∧ _))

private theorem sample_facts : SampleFacts sampleMac := by
  rw [sampleMac_eq_quick]
  decide +kernel

private theorem sample_settled : (sampleState.db.transactions.intents.flatMap fun transaction =>
    ((sampleState.db.settledValues transaction.id).map (settledContexts transaction)).getD []) =
      sampleContexts settledAmounts :=
  sample_facts.1

/-- The messages of the report on the subscription. -/
private theorem comparedMessages_sample {result : Received}
    (h : result.applied.flatMap (statedContexts deployment) = sampleContexts statedAmounts) :
    comparedMessages deployment sampleState result.applied ⊆ {message | message ∈ sampleMessages} := by
  rintro message ⟨context, hcontext, hmessage⟩
  rw [comparedContexts, sample_settled, h] at hcontext
  exact List.mem_filterMap.mpr ⟨context, hcontext, by rw [hmessage]; rfl⟩

theorem external_reconciliation_exact_sample :
    ∃ result, sampleReceived (registerReport "subscribe-1" "5") = .ok result ∧ ∃ callback ∈ result.applied,
      ∃ transaction ∈ sampleState.db.transactions.intents, transaction.id = "subscribe-1" ∧
        Agrees deployment sampleState callback transaction := by
  obtain ⟨-, hsample, htransaction⟩ := sample_facts
  change (sampleReceived (registerReport "subscribe-1" "5")).toOption.any _ = true at hsample
  cases hreceived : sampleReceived (registerReport "subscribe-1" "5") with
  | error failure =>
    rw [hreceived] at hsample
    cases hsample
  | ok result =>
    rw [hreceived] at hsample
    obtain ⟨hconfirmed, happlied, hstated⟩ := of_decide_eq_true hsample
    obtain ⟨-, rows, (hrows : _ = sampleState.tables.confirmations ++ rows), hexact⟩ :=
      external_reconciliation_exact sampleMac_isHash
        (fun keyId => (sampleMac_injOn sampleMessages_apart keyId).mono (comparedMessages_sample hstated)) hreceived
    have hnone : sampleState.tables.confirmations = [] := rfl
    rw [hrows, hnone, List.nil_append] at hconfirmed
    obtain ⟨row, rfl, hmatched⟩ := List.map_eq_singleton_iff.mp hconfirmed
    obtain ⟨callback, hlist, hcallback⟩ := List.map_eq_singleton_iff.mp happlied
    obtain ⟨hsubject, hchannel⟩ := Prod.mk.inj hcallback
    obtain ⟨transaction, hmem, hid, hsettled⟩ := htransaction
    rw [hlist] at hexact
    obtain ⟨hrow, -⟩ := List.forall₂_cons.mp hexact
    obtain ⟨-, -, hiff, -⟩ := hrow transaction hmem (hid.trans hsubject.symm) (by simp [hchannel]) hsettled
    exact ⟨result, rfl, callback, by simp [hlist], transaction, hmem, hid, hiff.mp hmatched⟩

end Sample

end rwa.reconciliation
