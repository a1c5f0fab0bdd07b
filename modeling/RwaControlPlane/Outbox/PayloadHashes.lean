import RwaControlPlane.Audit.System
import RwaControlPlane.Outbox.Reachable

open checked js_value rwa.storage runs
open rwa.gate (uniqueViolation)

namespace rwa.outbox

/-- A row of `transaction_receipts`. -/
structure StoredReceipt where
  transactionId : String
  receipt : JsValue
  receiptHash : String

variable {ρ : Type} (platform : Platform)

/-- `storeReceipt` -/
def storeReceipt (receipts : List StoredReceipt) (transactionId : String) (receipt : JsValue) :
    Except Failure (List StoredReceipt) := do
  let receiptHash ← sha256Canonical platform receipt
  let receipt ← jsonParameter platform receipt
  throwIf (¬IsHash receiptHash) checkViolation
  throwIf (∃ row ∈ receipts, row.transactionId = transactionId ∨ row.receiptHash = receiptHash) uniqueViolation
  pure (receipts ++ [⟨transactionId, receipt, receiptHash⟩])

/-- The payload of the event of `setProductStatus`. The reason is optional. -/
def productStatusPayload (productId status actorRef : String) (reason : Option String) : JsValue :=
  .object [("productId", .string productId), ("status", .string status), ("actorRef", .string actorRef),
    ("reason", (reason.map JsValue.string).getD .undefined)]

/-- What `recordAuditEvent` hashes of a row. -/
def auditValue (row : rwa.audit.AuditEvent) : JsValue :=
  .object [("tenantId", .string row.tenantId), ("eventType", .string row.eventType),
    ("aggregateType", .string row.aggregateType), ("aggregateId", .string row.aggregateId), ("metadata", row.metadata),
    ("previousHash", (row.previousHash.map JsValue.string).getD .null)]

/-- How a publish attempt of `dispatchBatch` ends. -/
inductive Dispatch
  | published
  | failed (error : Failure)
  | dead (error : Failure)

/-- The body of the loop of `dispatchBatch`: an event that cannot be published is
tried again, or is dead after its last attempt. -/
def dispatch (maxAttempts attempts : Nat) (publish : Except Failure Answer) : Dispatch :=
  match publish with
  | .ok _ => .published
  | .error failure => if maxAttempts ≤ attempts then .dead failure else .failed failure

/-- The hash function tells the canonical text of a value from that of its stored
copy. -/
def Distinguishes (value : JsValue) : Prop :=
  ∀ text copy copyText, canonicalize platform.numberText value = .ok (some text) →
    jsonCopy platform.isoText value = some copy → canonicalize platform.numberText copy = .ok (some copyText) →
    platform.sha256 text = platform.sha256 copyText → text = copyText

/-- What is promised of the events that nobody has tampered with: the payload has
its hash, no consumer reports it, and no event is dead for that reason. -/
structure HashesSurvive (state : InboxState ρ) : Prop where
  payloads : ∀ event ∈ state.tables.events, sha256Canonical platform event.payload = .ok event.payloadHash
  unreported : ∀ event ∈ state.tables.events, ∀ consumerName,
    checkEvent platform state.tables.consumptions consumerName event ≠ .error payloadTampered
  alive : ∀ event ∈ state.tables.events, ∀ consumerName maxAttempts attempts failure,
    checkEvent platform state.tables.consumptions consumerName event = .error failure →
    dispatch maxAttempts attempts (.error failure) ≠ .dead payloadTampered

variable {platform}

theorem sha256Canonical_eq_ok {value : JsValue} {hash : String} (h : sha256Canonical platform value = .ok hash) :
    ∃ text, canonicalize platform.numberText value = .ok (some text) ∧ hash = platform.sha256 text := by
  rw [sha256Canonical] at h
  split at h
  · next text htext => exact ⟨text, htext, (Except.ok.inj h).symm⟩
  · cases h
  · cases h

/-- The hash beside a value is that of the value read back, exactly if JSON keeps
every member of it. -/
theorem survives_iff {value copy : JsValue} {hash : String} (hkeys : distinctKeys value = true)
    (hdistinguishes : Distinguishes platform value) (hhash : sha256Canonical platform value = .ok hash)
    (hcopy : jsonCopy platform.isoText value = some copy) :
    sha256Canonical platform copy = .ok hash ↔ jsonStable value = true := by
  obtain ⟨text, htext, rfl⟩ := sha256Canonical_eq_ok hhash
  obtain ⟨other, copyText, hother, hcanonical, hstable⟩ := @canonicalize_jsonCopy _ platform.isoText _ _ hkeys htext
  obtain rfl := Option.some.inj (hcopy.symm.trans hother)
  have hrehash : sha256Canonical platform copy = .ok (platform.sha256 copyText) := by
    rw [sha256Canonical, hcanonical]
  rw [hrehash, ← hstable, Except.ok.injEq]
  constructor
  · exact fun hsame => (hdistinguishes text copy copyText htext hcopy hcanonical hsame.symm).symm
  · exact fun hsame => by rw [hsame]

/-- The text of a value that JSON keeps is that of its copy. -/
theorem distinguishes_of_stable {value : JsValue} (hkeys : distinctKeys value = true)
    (hstable : jsonStable value = true) : Distinguishes platform value := by
  intro text copy copyText htext hcopy hcanonical _
  obtain ⟨other, otherText, hother, hotherText, hsame⟩ := @canonicalize_jsonCopy _ platform.isoText _ _ hkeys htext
  obtain rfl := Option.some.inj (hcopy.symm.trans hother)
  rw [hcanonical] at hotherText
  obtain rfl := Option.some.inj (Except.ok.inj hotherText)
  exact (hsame.mpr hstable).symm

theorem enqueueOutbox_ok {events next : List OutboxEvent} {input : OutboxInput}
    (h : enqueueOutbox platform events input = .ok next) :
    ∃ payload payloadHash, sha256Canonical platform input.payload = .ok payloadHash ∧
      jsonCopy platform.isoText input.payload = some payload ∧ (∀ row ∈ events, row.id ≠ input.id) ∧
      next = events ++ [{ payload, payloadHash, id := input.id, tenantId := input.tenantId, topic := input.topic
                          aggregateId := input.aggregateId }] := by
  simp only [enqueueOutbox, outboxRow, bind_eq_ok_iff, throwIf_eq_ok_iff, exists_unit, pure_eq_ok_iff] at h
  obtain ⟨row, ⟨payloadHash, hhash, payload, hpayload, -, rfl⟩, hfresh, rfl⟩ := h
  exact ⟨payload, payloadHash, hhash, jsonParameter_eq_ok hpayload, by simpa using hfresh, rfl⟩

/-- The receipt that `storeReceipt` has stored. -/
theorem storeReceipt_survives_iff {receipts next : List StoredReceipt} {transactionId : String} {receipt : JsValue}
    (hkeys : distinctKeys receipt = true) (hdistinguishes : Distinguishes platform receipt)
    (h : storeReceipt platform receipts transactionId receipt = .ok next) :
    ∃ row, next = receipts ++ [row] ∧
      (sha256Canonical platform row.receipt = .ok row.receiptHash ↔ jsonStable receipt = true) := by
  simp only [storeReceipt, bind_eq_ok_iff, throwIf_eq_ok_iff, exists_unit, pure_eq_ok_iff] at h
  obtain ⟨receiptHash, hhash, copy, hcopy, -, -, rfl⟩ := h
  exact ⟨_, rfl, survives_iff hkeys hdistinguishes hhash (jsonParameter_eq_ok hcopy)⟩

/-- The row that `recordAuditEvent` has inserted. -/
theorem auditRow_survives_iff {view : List rwa.audit.AuditEvent} {sequenceId : Int} {event : rwa.audit.AuditInput}
    {row : rwa.audit.AuditEvent} (hkeys : distinctKeys event.metadata = true)
    (hdistinguishes : Distinguishes platform (auditValue { row with metadata := event.metadata }))
    (h : rwa.audit.auditRow platform view sequenceId event = .ok row) :
    sha256Canonical platform (auditValue row) = .ok row.eventHash ↔ jsonStable event.metadata = true := by
  simp only [rwa.audit.auditRow, bind_eq_ok_iff, throwIf_eq_ok_iff, exists_unit, pure_eq_ok_iff] at h
  obtain ⟨eventHash, hhash, metadata, hmetadata, -, rfl⟩ := h
  have hcopy := jsonParameter_eq_ok hmetadata
  refine (survives_iff ?_ hdistinguishes hhash ?_).trans ?_
  · simp [auditValue, distinctKeys, distinctKeysMembers, hkeys]
    cases rwa.audit.previousHash view event <;> rfl
  · simp only [auditValue, jsonCopy, jsonMembers, hcopy]
    cases rwa.audit.previousHash view event <;> rfl
  · simp only [auditValue, jsonStable, jsonStableMembers, Bool.true_and]
    cases rwa.audit.previousHash view event <;> simp [jsonStable]

variable {state : InboxState ρ} {action : Action ρ}

/-- `enqueueOutbox` accepts a payload that JSON changes. -/
def EnqueuesChanged (platform : Platform) (state : InboxState ρ) (action : Action ρ) : Prop :=
  ∃ input events, action = .enqueueOutbox input ∧ enqueueOutbox platform state.tables.events input = .ok events ∧
    jsonStable input.payload = false

/-- An event whose payload has its hash is not reported. -/
theorem checkEvent_ne_tampered {rows : List Consumption} {consumerName : String} {event : OutboxEvent}
    (h : sha256Canonical platform event.payload = .ok event.payloadHash) :
    checkEvent platform rows consumerName event ≠ .error payloadTampered := by
  unfold checkEvent
  split
  · next row hrow =>
    by_cases hhash : row.payloadHash = event.payloadHash
    · simp [throwIf, hhash, bind, Except.bind, pure, Except.pure]
    · simp [throwIf, hhash, bind, Except.bind, payloadTampered]
  · simp [h, throwIf, bind, Except.bind, pure, Except.pure]

theorem hashesSurvive_iff : HashesSurvive platform state ↔
    ∀ event ∈ state.tables.events, sha256Canonical platform event.payload = .ok event.payloadHash := by
  refine ⟨fun h => h.payloads, fun h => ⟨h, ?_, ?_⟩⟩
  · exact fun event hevent consumerName => checkEvent_ne_tampered (h event hevent)
  · intro event hevent consumerName maxAttempts attempts failure hfailure
    have hother : failure ≠ payloadTampered := fun heq =>
      checkEvent_ne_tampered (h event hevent) (heq ▸ hfailure)
    rw [dispatch]
    split
    · simpa using hother
    · simp

/-- Only `enqueueOutbox` changes the events. -/
theorem step_events : (step platform state action).tables.events = state.tables.events ∨
    ∃ input, action = .enqueueOutbox input ∧
      enqueueOutbox platform state.tables.events input = .ok (step platform state action).tables.events := by
  have hmoves := @step_moves ρ platform state action
  generalize step platform state action = next at hmoves ⊢
  cases hmoves with
  | enqueued hevents => exact Or.inr ⟨_, rfl, hevents⟩
  | unchanged | delivered | opened | handled | restarted | failed | answered | recorded => exact Or.inl rfl

theorem step_hashesSurvive (h : HashesSurvive platform state)
    (hdistinguishes : ∀ input, action = .enqueueOutbox input → Distinguishes platform input.payload) :
    HashesSurvive platform (step platform state action) ↔ ¬EnqueuesChanged platform state action := by
  rw [hashesSurvive_iff]
  constructor
  · rintro hall ⟨input, next, rfl, hnext, hchanged⟩
    have hstep : (step platform state (.enqueueOutbox input)).tables.events = next := by simp only [step, hnext]
    obtain ⟨payload, payloadHash, hhash, hcopy, -, rfl⟩ := enqueueOutbox_ok hnext
    rw [hstep] at hall
    have hrow := hall _ (List.mem_append_right _ (List.mem_singleton_self _))
    have hstable := (survives_iff input.distinct (hdistinguishes input rfl) hhash hcopy).mp hrow
    rw [hchanged] at hstable
    cases hstable
  · intro hnot event hevent
    obtain hsame | ⟨input, rfl, haccepted⟩ := @step_events ρ platform state action
    · exact h.payloads event (hsame ▸ hevent)
    · have hstable : jsonStable input.payload = true := by
        by_contra hchanged
        exact hnot ⟨input, _, rfl, haccepted, by simpa using hchanged⟩
      obtain ⟨payload, payloadHash, hhash, hcopy, -, hnext⟩ := enqueueOutbox_ok haccepted
      rw [hnext] at hevent
      rcases List.mem_append.mp hevent with hold | hnew
      · exact h.payloads event hold
      · obtain rfl := List.mem_singleton.mp hnew
        exact (survives_iff input.distinct (hdistinguishes input rfl) hhash hcopy).mpr hstable

private theorem exists_ok {α : Type} {result : Except Failure α} (h : result.toOption.isSome = true) :
    ∃ value, result = .ok value := by
  cases result with
  | ok value => exact ⟨value, rfl⟩
  | error failure => cases h

/-- A hash that tells texts of different lengths apart. -/
def lengthHash (text : String) : String :=
  let digits := Nat.toDigits 16 text.length
  String.ofList (List.replicate (64 - digits.length) '0' ++ digits)

def lengthPlatform : Platform where
  sha256 := lengthHash
  numberText _ := "0"
  isoText _ := "1970-01-01T00:00:00.000Z"

/-- The event of `setProductStatus`. -/
def statusChanged (reason : Option String) : OutboxInput where
  id := "event-1"
  tenantId := "tenant-1"
  topic := "rwa.product.status_changed"
  aggregateId := "product-1"
  payload := productStatusPayload "product-1" "PAUSED" "operator-1" reason
  distinct := by cases reason <;> rfl

def sampleReceipt : JsValue :=
  .object [("transactionId", .string "transaction-1"), ("state", .string "SETTLED"), ("settledAt", .null)]

def sampleAuditInput : rwa.audit.AuditInput where
  tenantId := "tenant-1"
  eventType := "product.paused"
  aggregateType := "product"
  aggregateId := "product-1"
  metadata := productStatusPayload "product-1" "PAUSED" "operator-1" (some "drill")

/-- The hash beside a receipt or an audit event is that of what is read back
exactly if JSON keeps every member of it. In a run the hashes of the outbox
survive in every state, so that no event is reported or dead, exactly if no
payload is accepted that JSON changes. -/
theorem payload_hashes_survive_iff (ρ : Type) (platform : Platform) :
    (∀ receipts next transactionId receipt, distinctKeys receipt = true → Distinguishes platform receipt →
      storeReceipt platform receipts transactionId receipt = .ok next →
      ∃ row, next = receipts ++ [row] ∧
        (sha256Canonical platform row.receipt = .ok row.receiptHash ↔ jsonStable receipt = true)) ∧
    (∀ view sequenceId event row, distinctKeys event.metadata = true →
      Distinguishes platform (auditValue { row with metadata := event.metadata }) →
      rwa.audit.auditRow platform view sequenceId event = .ok row →
      (sha256Canonical platform (auditValue row) = .ok row.eventHash ↔ jsonStable event.metadata = true)) ∧
    ∀ actions : List (Action ρ),
      (∀ input, .enqueueOutbox input ∈ actions → Distinguishes platform input.payload) →
      ((∀ before, before <+: actions → HashesSurvive platform (run platform before)) ↔
        ∀ before action after, actions = before ++ action :: after →
          ¬EnqueuesChanged platform (run platform before) action) := by
  refine ⟨fun receipts next transactionId receipt => storeReceipt_survives_iff,
    fun view sequenceId event row => auditRow_survives_iff, ?_⟩
  intro actions hdistinguishes
  have hstart : HashesSurvive platform (InboxState.empty : InboxState ρ) :=
    hashesSurvive_iff.mpr (by simp [InboxState.empty])
  refine @run_invariant_iff_of_mem _ _ (step platform) .empty (HashesSurvive platform) (fun _ => True)
    (fun state action => ¬EnqueuesChanged platform state action) actions hstart (fun _ => trivial) ?_
  rintro state action haction - h
  exact step_hashesSurvive h fun input heq => hdistinguishes input (heq ▸ haction)

theorem payload_hashes_survive_sample :
    HashesSurvive lengthPlatform
      (run lengthPlatform [.enqueueOutbox (statusChanged (some "drill"))] : InboxState Unit) ∧
    (∃ next, storeReceipt lengthPlatform [] "transaction-1" sampleReceipt = .ok next ∧
      ∃ row, next = [] ++ [row] ∧
        (sha256Canonical lengthPlatform row.receipt = .ok row.receiptHash ↔ jsonStable sampleReceipt = true)) ∧
    ∃ row, rwa.audit.auditRow lengthPlatform [] 1 sampleAuditInput = .ok row ∧
      (sha256Canonical lengthPlatform (auditValue row) = .ok row.eventHash ↔
        jsonStable sampleAuditInput.metadata = true) := by
  have hsurvive := payload_hashes_survive_iff Unit lengthPlatform
  refine ⟨?_, ?_, ?_⟩
  · refine (hsurvive.2.2 [.enqueueOutbox (statusChanged (some "drill"))] ?_).mpr ?_ _ (List.prefix_refl _)
    · intro input hinput
      obtain rfl := Action.enqueueOutbox.inj (List.mem_singleton.mp hinput)
      exact distinguishes_of_stable rfl rfl
    · rintro before action after heq ⟨input, events, rfl, -, hchanged⟩
      have hmem : Action.enqueueOutbox input ∈ [(.enqueueOutbox (statusChanged (some "drill")) : Action Unit)] := by
        rw [heq]
        simp
      obtain rfl := Action.enqueueOutbox.inj (List.mem_singleton.mp hmem)
      cases hchanged
  · have hok : (storeReceipt lengthPlatform [] "transaction-1" sampleReceipt).toOption.isSome = true := by
      decide +kernel
    obtain ⟨next, hnext⟩ := exists_ok hok
    exact ⟨next, hnext, hsurvive.1 _ _ _ _ rfl (distinguishes_of_stable rfl rfl) hnext⟩
  · have hok : (rwa.audit.auditRow lengthPlatform [] 1 sampleAuditInput).toOption.isSome = true := by
      decide +kernel
    obtain ⟨row, hrow⟩ := exists_ok hok
    refine ⟨row, hrow, hsurvive.2.1 _ _ _ _ rfl (distinguishes_of_stable ?_ ?_) hrow⟩
    · cases row.previousHash <;> rfl
    · cases row.previousHash <;> rfl

/-- A product is paused without a reason, and the consumers of the event report it
as tampered. -/
theorem missing_reason_is_reported :
    ¬HashesSurvive lengthPlatform (run lengthPlatform [.enqueueOutbox (statusChanged none)] : InboxState Unit) := by
  intro h
  have hreported : ∃ event ∈ (run lengthPlatform [.enqueueOutbox (statusChanged none)] : InboxState Unit).tables.events,
      (checkEvent lengthPlatform [] "consumer-1" event).toOption.isNone = true := by
    decide +kernel
  obtain ⟨event, hevent, hnone⟩ := hreported
  have hpayload := h.payloads event hevent
  simp [checkEvent, findConsumption, hpayload, throwIf, bind, Except.bind, pure, Except.pure, Except.toOption] at hnone

end rwa.outbox
