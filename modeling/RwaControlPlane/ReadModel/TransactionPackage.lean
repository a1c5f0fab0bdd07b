import RwaControlPlane.ReadModel.TransactionEvidence

open checked js_value
open rwa.gate (SettlementRail FinalityStatus)
open rwa.storage (Platform StateChange readModelCanonicalize)
open rwa.durable (EconomicCommitment)
open rwa.read_model (Role denied typeText)

namespace rwa.transaction_evidence

section Redaction

def identifierKeys : List String :=
  ["actorRef", "makerRef", "checkerRef", "subjectRef", "investorId", "buyerId", "sellerId",
    "principalId", "proposedBy", "finalizedBy", "maker", "checker"]

def isNull : JsValue → Bool
  | .null => true
  | _ => false

mutual

/-- Replace what stands under the key of an identifier. A date has no entries. -/
def redactIdentifiers : JsValue → JsValue
  | .array items => .array (redactItems items)
  | .object members => .object (redactMembers members)
  | .date _ => .object []
  | value => value
termination_by structural value => value

def redactItems : List JsValue → List JsValue
  | [] => []
  | item :: rest => redactIdentifiers item :: redactItems rest
termination_by structural items => items

def redactMembers : List (String × JsValue) → List (String × JsValue)
  | [] => []
  | (key, item) :: rest =>
    (key, if key ∈ identifierKeys && !isNull item then .string "[REDACTED]" else redactIdentifiers item) ::
      redactMembers rest
termination_by structural members => members

end

end Redaction

section Package

def railText : SettlementRail → String
  | .registered => "REGISTERED"
  | .confidentialNote => "CONFIDENTIAL_NOTE"

def finalityText : FinalityStatus → String
  | .rootPending => "ROOT_PENDING"
  | .final => "FINAL"

/-- The roles that see who acted. -/
def disclosesOperationalIdentifiers : Role → Bool
  | .broker | .operations => true
  | _ => false

def stateChangeJson (disclose : Bool) (item : StateChange) : JsValue :=
  .object [("from", nullable (item.fromState.map (·.text))), ("to", .string item.toState.text),
    ("reasonCode", nullable item.reasonCode),
    ("actorRef", if disclose then nullable item.actorRef else .string "[REDACTED]")]

def commitmentJson (row : EconomicCommitment) : JsValue :=
  .object [("commitment_version", .string row.commitmentVersion), ("key_id", .string row.keyId),
    ("asset_code", .string row.assetCode), ("currency", .string row.currency),
    ("units_commitment", .string row.unitsCommitment), ("cash_amount_commitment", .string row.cashAmountCommitment),
    ("fee_amount_commitment", .string row.feeAmountCommitment)]

def reconciliationJson (row : ExternalReconciliation) : JsValue :=
  .object [("register_outcome", nullable row.registerOutcome), ("cash_outcome", nullable row.cashOutcome),
    ("external_status", .string row.externalStatus)]

def proofJson (state : State) (row : ProofReceipt) : JsValue :=
  .object [("id", .string row.id), ("circuit_id", .string row.verification.circuitId),
    ("circuit_version", .string row.verification.circuitVersion), ("context_id", .string row.contextId),
    ("merkle_root", .string row.merkleRoot), ("verification_key_hash", .string row.verification.verificationKeyHash),
    ("proof_hash", .string row.verification.proofHash),
    ("public_signals_hash", .string row.verification.publicSignalsHash), ("status", .string "VERIFIED"),
    ("nullifier_count", .number (state.nullifiers.count row.id)),
    ("output_count", .number (state.outputs.count row.id))]

def auditJson (disclose : Bool) (item : AuditRow) : JsValue :=
  .object [("sequence", .number item.sequenceId), ("type", .string item.event.eventType),
    ("metadata", if disclose then item.event.metadata else redactIdentifiers item.event.metadata),
    ("previousHash", nullable item.previousHash), ("eventHash", .string item.eventHash)]

/-- The columns of a transaction, with those of its receipt and its confidential
settlement. -/
def transactionJson (state : State) (row : storage.TransactionIntent) : JsValue :=
  let receiptHash := (state.receiptHashes.find? (·.1 = row.id)).map Prod.snd
  let settlement := state.settlements.find? (·.transactionId = row.id)
  let finality := state.db.transactions.zkSettlements.find? (·.transactionId = row.id)
  .object [("id", .string row.id), ("productId", .string row.productId),
    ("type", .string (typeText row.transactionType)), ("state", .string row.currentState.text),
    ("settlementRail", .string (railText row.settlementRail)), ("requestHash", .string row.requestHash),
    ("ruleVersion", .number row.ruleVersion), ("navEvidenceId", nullable row.navEvidenceId),
    ("policySnapshotHash", .string row.policySnapshotHash), ("receiptHash", nullable receiptHash),
    ("finalityDomain", nullable (settlement.map (·.finalityDomain))),
    ("finalityStatus", nullable (finality.map fun found => finalityText found.finalityStatus)),
    ("legalRegisterApplied", if settlement.isSome then .bool false else .null)]

/-- The audit events of a transaction in a tenant. -/
def State.auditOf (state : State) (tenantId transactionId : String) : List AuditRow :=
  state.audit.filter fun row =>
    row.tenantId = tenantId && row.aggregateType = "transaction" && row.aggregateId = transactionId

/-- What a package says of a transaction, before it is hashed. -/
def evidenceMembers (state : State) (tenantId : String) (disclose : Bool) (row : storage.TransactionIntent) :
    List (String × JsValue) :=
  [("schema", .string "rwa.transaction-evidence.v1"), ("transaction", transactionJson state row),
    ("stateHistory", .array ((state.db.transactions.historyOf row.id).map (stateChangeJson disclose))),
    ("economicCommitment",
      ((state.db.commitments.find? (·.transactionId = row.id)).map commitmentJson).getD .null),
    ("externalReconciliation",
      .array ((state.reconciliations.filter (·.transactionId = row.id)).map reconciliationJson)),
    ("zkProofReceipt", ((state.proofReceipts.find? (·.transactionId = row.id)).map (proofJson state)).getD .null),
    ("auditChain", .array ((state.auditOf tenantId row.id).map (auditJson disclose)))]

def transactionEvidencePackage (platform : Platform) (state : State) (tenantId transactionId : String) (role : Role)
    (institutionId : Option String) : Except Failure JsValue := do
  throwIf (role ∉ [.issuer, .broker, .operations, .supervisor])
    (denied "role cannot access transaction evidence packages")
  let row ← require ((state.db.transactions.find transactionId).filter fun row => row.tenantId = tenantId &&
      (role ≠ .broker || (institutionId.getD "" ≠ "" && row.originatingInstitutionId = institutionId)))
    ⟨"UNKNOWN_TRANSACTION", "transaction not found"⟩
  let disclose := disclosesOperationalIdentifiers role
  let members := evidenceMembers state tenantId disclose row
  let text ← rethrow (⟨"", ·⟩) (readModelCanonicalize platform (.object members))
  pure (.object (members ++ [("packageHash", .string (platform.sha256 (text.getD "undefined"))),
    ("disclosure", .string (if disclose then "NO_PRIVATE_ECONOMICS_OPERATIONAL_IDENTIFIERS"
      else "NO_PRIVATE_ECONOMICS_IDENTIFIERS_REDACTED"))]))

end Package

section Blank

/-- The fields whose values are hashes or times. -/
def hashKeys : List String :=
  ["requestHash", "policySnapshotHash", "receiptHash", "transactionReceiptHash", "packageHash", "previousHash",
    "eventHash", "verificationKeyHash", "proofHash", "publicSignalsHash", "verification_key_hash", "proof_hash",
    "public_signals_hash", "merkle_root", "inputMerkleRoot", "baseMerkleRoot", "outputMerkleRoot", "settledAt",
    "expiresAt"]

def eraseText : JsValue → JsValue
  | .string _ => .string ""
  | value => value

mutual

/-- A value without the texts of its hashes and times. -/
def blankHashes : JsValue → JsValue
  | .array items => .array (blankItems items)
  | .object members => .object (blankMembers members)
  | value => value
termination_by structural value => value

def blankItems : List JsValue → List JsValue
  | [] => []
  | item :: rest => blankHashes item :: blankItems rest
termination_by structural items => items

def blankMembers : List (String × JsValue) → List (String × JsValue)
  | [] => []
  | (key, item) :: rest =>
    (key, if key ∈ hashKeys then eraseText (blankHashes item) else blankHashes item) :: blankMembers rest
termination_by structural members => members

end

end Blank

end rwa.transaction_evidence
