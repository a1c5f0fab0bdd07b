import RwaControlPlane.Callbacks.Envelope

open checked js_value
open rwa.storage (typeError checkViolation sha256Canonical)
open rwa.gate (uniqueViolation)
open rwa.catalog (lookup)

namespace rwa.callbacks

/-- A callback that is applied: the posted one, or one that was buffered. -/
structure Callback where
  callbackId : String
  stream : Stream
  sequence : Nat
  payload : Payload
  payloadHash : String
  signature : String
  keyId : String
  signedAt : Int
  effectiveAt : Int
  expiresAt : Int

/-- `#fromReceipt`. Times are read back in milliseconds. -/
def fromReceipt (row : CallbackReceipt) : Callback where
  callbackId := row.callbackId
  stream := row.stream
  sequence := row.streamSequence
  payload := row.payload
  payloadHash := row.payloadHash
  signature := row.signature
  keyId := row.signingKeyId
  signedAt := row.occurredAt / 1000
  effectiveAt := row.occurredAt / 1000 * 1000
  expiresAt := row.expiresAt / 1000 * 1000

/-- A buffered callback whose source has lost its authority. -/
structure BlockedCallback where
  callbackId : String
  sequence : Nat
  reasonCode : String

inductive Reply
  | duplicate (outcome : Option Outcome)
  | buffered (expectedSequence : Nat)
  | applied (outcome : Outcome) (drained : Nat) (blockedBuffered : Option BlockedCallback)

namespace Tables

variable (tables : Tables)

def nextSequence (stream : Stream) : Nat :=
  ((tables.positions.find? (·.stream = stream)).map StreamPosition.nextSequence).getD 1

/-- Insert the position of a stream, or update it. -/
def setPosition (stream : Stream) (nextSequence : Nat) : Tables :=
  if tables.positions.any (·.stream = stream) then
    { tables with
      positions := tables.positions.map fun row => if row.stream = stream then { row with nextSequence } else row }
  else { tables with positions := tables.positions ++ [⟨stream, nextSequence⟩] }

def isBuffered (callbackId : String) : Bool :=
  tables.applications.any fun row => row.callbackId = callbackId ∧ row.outcome = none

/-- The buffered callback of a stream with a sequence. -/
def nextBuffered (stream : Stream) (sequence : Nat) : Option CallbackReceipt :=
  tables.receipts.find? fun row =>
    row.stream = stream ∧ row.streamSequence = sequence ∧ tables.isBuffered row.callbackId = true

/-- Insert an incident. -/
def openIncident (incident : Incident) : Except Failure Tables := do
  throwIf (∃ row ∈ tables.incidents, row.id = incident.id ∨ row.callbackId = incident.callbackId) uniqueViolation
  pure { tables with incidents := tables.incidents ++ [incident] }

end Tables

def incidentId (callbackId : String) : String := "external-incident:" ++ callbackId

def blockedIncidentId (callbackId : String) : String := "external-incident:blocked:" ++ callbackId

/-- `#openBlockedStreamIncident`. A callback has one incident. -/
def openBlockedStreamIncident (tables : Tables) (callback : Callback) (reasonCode : String) : Except Failure Tables :=
  if tables.incidents.any (·.callbackId = callback.callbackId) then .ok tables
  else tables.openIncident
    { id := blockedIncidentId callback.callbackId, callbackId := callback.callbackId, transactionId := none
      tenantId := callback.stream.tenantId, productId := callback.stream.productId, channel := callback.stream.channel
      severity := "CRITICAL", reasonCode := "BUFFERED_CALLBACK_" ++ reasonCode }

variable (service : CallbackService) (registry : Registry)

/-- `#authorizedSource`: the public key of a source that may sign for a stream. -/
def authorizedSource (now : Int) (stream : Stream) (keyId : String) (signedAt : Int) : Except Failure String := do
  let institution := registry.institutions.find? (·.id = stream.institutionId)
  throwIf (institution.map (·.status) ≠ some .active)
    ⟨"UNTRUSTED_CALLBACK_SOURCE", "callback institution is not active"⟩
  let assignments := registry.roleAssignments.filter fun row =>
    row.productId = stream.productId ∧ row.role = stream.channel.role ∧ row.institutionId = stream.institutionId ∧
      row.endedAt = none
  throwIf (assignments.length ≠ 1)
    ⟨"UNAUTHORIZED_CALLBACK_SOURCE", "callback requires assigned " ++ stream.channel.role⟩
  let unavailable : Failure := ⟨"CALLBACK_SIGNING_KEY_UNAVAILABLE",
    "callback signing key is unknown, revoked or outside its validity window"⟩
  let key ← require
    (registry.signingKeys.find? fun row => row.institutionId = stream.institutionId ∧ row.keyId = keyId) unavailable
  throwIf (key.algorithm ≠ "Ed25519" ∨ key.status ≠ .active ∨ key.revokedAt.isSome ∨
      signedAt < key.validFrom - service.maxClockSkewMs ∨
      ∃ ending ∈ key.validUntil, ending ≤ signedAt ∨ ending ≤ now) unavailable
  pure key.publicKeyPem

/-- The checks of the source and the signature. All of them fail alike. -/
def authenticate (now : Int) (members : List (String × JsValue)) (envelope : Envelope) : Except Failure Unit :=
  let source := authorizedSource service registry now envelope.stream (envelope.keyId.getD defaultCallbackKeyId)
    envelope.signedAt
  let tenantMatches := envelope.stream.tenantId = service.tenantId
  let publicKeyPem := if tenantMatches then source.toOption.getD service.decoyPublicKey else service.decoyPublicKey
  throwIf (¬(tenantMatches ∧ source.toOption.isSome = true ∧
      signatureValid service members envelope.signature publicKeyPem = true))
    ⟨"CALLBACK_AUTHENTICATION_FAILED", "callback could not be authenticated"⟩

/-- The amounts that are compared with the commitments to a transaction. -/
def commitmentChecks (channel : Channel) (details : List (String × JsValue)) (row : rwa.durable.EconomicCommitment) :
    List (String × JsValue × String) :=
  let value (field : String) : JsValue := (lookup details field).getD .undefined
  match channel with
  | .register => [("units", value "units", row.unitsCommitment)]
  | .cash | .custody =>
    [("cashAmountMinor", value "amountMinor", row.cashAmountCommitment),
      ("feeAmountMinor", value "feeMinor", row.feeAmountCommitment)]

/-- Whether the amounts of a callback are those that the transaction is committed
to. -/
def commitmentsMatch (callback : Callback) (transactionId : String) : Except Failure Reconciliation :=
  match service.matchesCommitment, registry.commitments.find? (·.transactionId = transactionId) with
  | some matchesCommitment, some row => do
    let matched ← (commitmentChecks callback.stream.channel callback.payload.details row).mapM
      fun (field, value, expected) =>
        matchesCommitment
          { transactionId, field, tenantId := callback.stream.tenantId, productId := callback.stream.productId
            value := stringOf service.platform.numberText service.dateText value } expected row.keyId
    pure (if matched.all id then .fullyMatched
      else .mismatch (if callback.stream.channel = .register then "UNITS_COMMITMENT_MISMATCH"
        else "CASH_COMMITMENT_MISMATCH"))
  | _, _ => .ok (.mismatch "MISSING_ECONOMIC_COMMITMENT")

/-- The transaction that a callback names, and how the two agree. -/
def reconcile (callback : Callback) : Except Failure (Option String × Reconciliation) :=
  let stream := callback.stream
  let details := callback.payload.details
  if stream.channel = .custody then .ok (none, .notApplicable)
  else
    match registry.transactions.find? (·.id = callback.payload.subjectRef) with
    | none => .ok (none, .mismatch "UNKNOWN_TRANSACTION")
    | some transaction =>
      if transaction.tenantId ≠ stream.tenantId ∨ transaction.productId ≠ stream.productId then
        .ok (some transaction.id, .mismatch "TRANSACTION_CONTEXT_MISMATCH")
      else do
        let product ← require (registry.products.find? (·.id = stream.productId))
          (typeError "Cannot read properties of undefined (reading 'currency')")
        if stream.channel = .cash ∧ textOf (lookup details "currency") ≠ some product.currency then
          pure (some transaction.id, .mismatch "CURRENCY_MISMATCH")
        else if stream.channel = .register ∧ textOf (lookup details "assetCode") ≠ some
          ("UNIT:" ++ stream.productId) then
          pure (some transaction.id, .mismatch "ASSET_MISMATCH")
        else
          let reconciliation ← commitmentsMatch service registry callback transaction.id
          pure (some transaction.id, reconciliation)

/-- The incident of a callback that does not confirm what it names. -/
def incidentOf (callback : Callback) (transactionId : Option String) (reconciliation : Reconciliation) :
    Option Incident :=
  let channel := callback.stream.channel
  let outcome := callback.payload.outcome
  let reason := match reconciliation with
    | .mismatch reason => some reason
    | _ => if outcome = Outcome.confirmed then none else some ("EXTERNAL_" ++ channel.text ++ "_" ++ outcome.text)
  reason.map fun reasonCode =>
    { transactionId, reasonCode, channel, id := incidentId callback.callbackId, callbackId := callback.callbackId
      tenantId := callback.stream.tenantId, productId := callback.stream.productId
      severity := if outcome = Outcome.permanentFailure then "CRITICAL" else "HIGH" }

def evidenceOf (callback : Callback) : CallbackEvidence where
  callbackId := callback.callbackId
  evidenceId := "callback:" ++ callback.callbackId
  productId := callback.stream.productId
  evidenceType := callback.stream.channel.evidenceType
  sourceInstitutionId := callback.stream.institutionId
  subjectType := callback.stream.channel.subjectType
  subjectRef := callback.payload.subjectRef
  payload := callback.payload.members
  payloadHash := callback.payloadHash
  sourceSignature := callback.signature
  effectiveAt := callback.effectiveAt
  expiresAt := callback.expiresAt

/-- `#recordEvidenceAndReconciliation`. The keys of the rows follow from that of
the receipt, except for the incident. -/
def recordEvidenceAndReconciliation (createdAt : Int) (tables : Tables) (callback : Callback) :
    Except Failure Tables := do
  throwIf (callback.expiresAt ≤ callback.effectiveAt) checkViolation
  let (transactionId, reconciliation) ← reconcile service registry callback
  let recorded : Tables :=
    { tables with
      evidence := tables.evidence ++ [evidenceOf callback]
      confirmations := tables.confirmations ++
        [{ transactionId, reconciliation, createdAt, callbackId := callback.callbackId
           productId := callback.stream.productId, channel := callback.stream.channel
           outcome := callback.payload.outcome, evidenceId := "callback:" ++ callback.callbackId }] }
  match incidentOf callback transactionId reconciliation with
  | some incident => recorded.openIncident incident
  | none => .ok recorded

/-- `#apply`, after the row of `callback_applications` was written. -/
def apply (createdAt : Int) (tables : Tables) (callback : Callback) : Except Failure Tables :=
  recordEvidenceAndReconciliation service registry createdAt
    { tables with
      effects := tables.effects ++
        [{ callbackId := callback.callbackId, subjectRef := callback.payload.subjectRef
           outcome := callback.payload.outcome, details := callback.payload.details }] } callback

/-- The application of a buffered callback gets its outcome. -/
def markApplied (tables : Tables) (callback : Callback) : Tables :=
  { tables with
    applications := tables.applications.map fun row =>
      if row.callbackId = callback.callbackId then { row with outcome := some callback.payload.outcome } else row }

/-- What the loop of `receive` has done. -/
structure Drained where
  tables : Tables
  applied : List Callback
  blocked : Option BlockedCallback

/-- The loop of `receive` that applies the buffered callbacks from a sequence on.
The fuel bounds the rounds, and `clock` gives the time at which each callback is
recorded. -/
def drain (now : Int) (clock : Nat → Int) (stream : Stream) : Nat → Nat → Tables → Except Failure Drained
  | 0, _, tables => .ok ⟨tables, [], none⟩
  | fuel + 1, sequence, tables =>
    match tables.nextBuffered stream sequence with
    | none => .ok ⟨tables, [], none⟩
    | some row =>
      let callback := fromReceipt row
      match authorizedSource service registry now callback.stream callback.keyId callback.signedAt with
      | .error failure => do
        let blocked ← openBlockedStreamIncident tables callback failure.code
        pure ⟨blocked, [], some ⟨callback.callbackId, callback.sequence, failure.code⟩⟩
      | .ok _ => do
        let recorded ← apply service registry (clock sequence) (markApplied tables callback) callback
        let rest ← drain now clock stream fuel (sequence + 1) recorded
        pure { rest with applied := callback :: rest.applied }

/-- What `receive` answers, the tables after it and the callbacks it has applied. -/
structure Received where
  reply : Reply
  tables : Tables
  applied : List Callback

def sequenceConflict (message : String) : Failure := ⟨"CALLBACK_SEQUENCE_CONFLICT", message⟩

/-- The times of an envelope as the database reads them. -/
def receiptTimes (envelope : Envelope) : Except Failure (Int × Int) := do
  let invalid : Failure := ⟨"22007", "invalid input syntax for type timestamp with time zone"⟩
  let occurredAt ← require (service.timestamptz envelope.occurredAt) invalid
  let expiresAt ← require (service.timestamptz envelope.expiresAt) invalid
  throwIf (expiresAt ≤ occurredAt) checkViolation
  pure (occurredAt, expiresAt)

/-- `receive` for a callback that is expected next: it is applied, and the buffered
ones behind it. -/
def receiveExpected (now : Int) (clock : Nat → Int) (tables : Tables) (callback : Callback) :
    Except Failure Received := do
  let inserted : Tables :=
    { tables with
      applications := tables.applications ++ [⟨callback.callbackId, some callback.payload.outcome⟩] }
  let recorded ← apply service registry (clock callback.sequence) inserted callback
  let drained ← drain service registry now clock callback.stream recorded.receipts.length
    (callback.sequence + 1) recorded
  pure
    { reply := .applied callback.payload.outcome drained.applied.length drained.blocked
      tables := drained.tables.setPosition callback.stream (callback.sequence + 1 + drained.applied.length)
      applied := callback :: drained.applied }

/-- `receive` for a callback whose id is new. -/
def receiveNew (now : Int) (clock : Nat → Int) (tables : Tables) (envelope : Envelope) (payload : Payload)
    (envelopeHash : String) : Except Failure Received := do
  let stream := envelope.stream
  let expected := tables.nextSequence stream
  throwIf (envelope.sequence < expected) (sequenceConflict "callback sequence is already consumed")
  let (occurredAt, expiresAt) ← receiptTimes service envelope
  throwIf (∃ row ∈ tables.receipts, row.stream = stream ∧ row.streamSequence = envelope.sequence)
    (sequenceConflict "callback stream sequence already exists")
  let signingKeyId := envelope.keyId.getD defaultCallbackKeyId
  let receipted : Tables :=
    { tables with
      receipts := tables.receipts ++
        [{ stream, occurredAt, expiresAt, payload, envelopeHash, signingKeyId, callbackId := envelope.callbackId
           streamSequence := envelope.sequence, eventType := envelope.eventType, payloadHash := envelope.payloadHash
           signature := envelope.signature }] }
  if envelope.sequence = expected then
    receiveExpected service registry now clock receipted
      { stream, payload, callbackId := envelope.callbackId, sequence := envelope.sequence
        payloadHash := envelope.payloadHash, signature := envelope.signature, keyId := signingKeyId
        signedAt := envelope.signedAt, effectiveAt := occurredAt, expiresAt }
  else
    let buffered : Tables :=
      { receipted with applications := receipted.applications ++ [⟨envelope.callbackId, none⟩] }
    pure ⟨.buffered expected, buffered.setPosition stream expected, []⟩

/-- `receive` -/
def receive (now : Int) (clock : Nat → Int) (tables : Tables) (posted : PostedCallback) : Except Failure Received := do
  let envelope ← checkEnvelope service now posted.members
  authenticate service registry now posted.members envelope
  let payload ← checkBusinessRules service envelope
  let envelopeHash ← sha256Canonical service.platform (unsigned posted.members)
  match tables.receipts.find? (·.callbackId = envelope.callbackId) with
  | some row => do
    throwIf (row.envelopeHash ≠ envelopeHash)
      ⟨"CALLBACK_ID_CONFLICT", "callback id was reused with different content"⟩
    let application := tables.applications.find? (·.callbackId = envelope.callbackId)
    pure ⟨.duplicate (application.bind CallbackApplication.outcome), tables, []⟩
  | none => receiveNew service registry now clock tables envelope payload envelopeHash

end rwa.callbacks
