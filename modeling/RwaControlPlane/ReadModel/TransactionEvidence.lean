import RwaControlPlane.Durable.Exceptions
import RwaControlPlane.ReadModel.PartyIndex
import RwaControlPlane.Storage.CanonicalEncoding

open checked js_value
open rwa.gate (TransactionType TransactionState SettlementRail FinalityStatus ProposalStatus uniqueViolation)
open rwa.control_plane (CaseStatus Decision SettlementMode)
open rwa.storage (Platform TransactionIntent TransactionTables StateChange sha256Canonical)
open rwa.durable (ApprovalDecision ApprovalRecord ExceptionCase EconomicCommitment)
open rwa.read_model (Role denied typeText)

namespace rwa.transaction_evidence

section Events

/-- Who cancels a proposal: an actor, or the gate when its base is stale. -/
inductive Canceller
  | actor (cancelledBy : String)
  | staleBaseRoot
deriving DecidableEq

def Canceller.text : Canceller → String
  | actor cancelledBy => cancelledBy
  | staleBaseRoot => "system:stale-base-root"

/-- What the proof adapter says about a proof. -/
structure Verification where
  circuitId : String
  circuitVersion : String
  verificationKeyHash : String
  proofHash : String
  publicSignalsHash : String
deriving DecidableEq

/-- `zk_finalization_proposals` -/
structure Proposal where
  id : String
  transactionId : String
  tenantId : String
  outputMerkleRoot : String
  outputTreeSize : Nat
  baseMerkleRoot : String
  baseTreeSize : Nat
  rootSourceReference : String
  executionReference : String
  status : ProposalStatus
  proposedBy : String
deriving DecidableEq

/-- The audit events of transactions, and those of other aggregates. -/
inductive Event
  | settled (type : TransactionType) (productId receiptHash : String)
  | exceptionOpened (productId receiptHash : String)
  | resolutionProposed (productId caseId : String) (approvalRound : Nat) (decision : Decision) (makerId : String)
  | decisionRecorded (productId caseId : String) (approvalRound : Nat) (checkerId : String) (state : CaseStatus)
      (reasonCode : Option String)
  | prepared (productId contextId assetType circuitId circuitVersion expiresAt : String)
  | proverJobQueued (productId transactionId jobId : String)
  | proofAccepted (receiptId transactionId productId : String) (verification : Verification) (settledAt : String)
  | finalityProposed (proposal : Proposal)
  | finalityCancelled (proposalId transactionId : String) (cancelledBy : Canceller) (reason : String)
  | finalitySettled (productId proofReceiptId inputMerkleRoot : String) (proposal : Proposal)
      (transactionReceiptHash : String)
  | other (eventType : String) (metadata : JsValue)

def decisionText : Decision → String
  | .retry => "RETRY"
  | .cancel => "CANCEL"
  | .other text => text

def caseStatusText : CaseStatus → String
  | .opened => "OPEN"
  | .pendingApproval => "PENDING_APPROVAL"
  | .resolvedRetried => "RESOLVED_RETRIED"
  | .resolvedCancelled => "RESOLVED_CANCELLED"

def nullable (text : Option String) : JsValue := (text.map JsValue.string).getD .null

def Event.eventType : Event → String
  | settled .subscribe _ _ => "subscribe.settled"
  | settled .transfer _ _ => "transfer.settled"
  | settled .redeem _ _ => "redeem.settled"
  | exceptionOpened _ _ => "exception.opened"
  | resolutionProposed .. => "exception.resolution_proposed"
  | decisionRecorded _ _ _ _ .resolvedRetried _ => "exception.resolved"
  | decisionRecorded _ _ _ _ .resolvedCancelled _ => "exception.resolved"
  | decisionRecorded .. => "exception.retry_blocked"
  | prepared .. => "zk.confidential_transfer.prepared"
  | proverJobQueued .. => "zk.prover_job.queued"
  | proofAccepted .. => "zk.confidential_transfer.proof_accepted"
  | finalityProposed _ => "zk.confidential_transfer.finality_proposed"
  | finalityCancelled .. => "zk.confidential_transfer.finality_cancelled"
  | finalitySettled .. => "zk.confidential_transfer.settled"
  | other eventType _ => eventType

/-- The metadata of an event, as its service writes them. -/
def Event.metadata : Event → JsValue
  | settled _ productId receiptHash =>
    .object [("productId", .string productId), ("state", .string "SETTLED"), ("receiptHash", .string receiptHash)]
  | exceptionOpened productId receiptHash =>
    .object [("productId", .string productId), ("state", .string "REQUIRES_REVIEW"),
      ("reasonCode", .string "REGISTER_TIMEOUT"), ("receiptHash", .string receiptHash)]
  | resolutionProposed productId caseId approvalRound decision makerId =>
    .object [("productId", .string productId), ("exceptionCaseId", .string caseId),
      ("approvalRound", .number approvalRound), ("decision", .string (decisionText decision)),
      ("makerId", .string makerId)]
  | decisionRecorded productId caseId approvalRound checkerId state reasonCode =>
    .object [("productId", .string productId), ("exceptionCaseId", .string caseId),
      ("approvalRound", .number approvalRound), ("checkerId", .string checkerId),
      ("state", .string (caseStatusText state)), ("reasonCode", nullable reasonCode)]
  | prepared productId contextId assetType circuitId circuitVersion expiresAt =>
    .object [("productId", .string productId), ("state", .string "PROOF_PENDING"),
      ("settlementRail", .string "CONFIDENTIAL_NOTE"), ("contextId", .string contextId),
      ("assetType", .string assetType), ("circuitId", .string circuitId),
      ("circuitVersion", .string circuitVersion), ("expiresAt", .string expiresAt),
      ("legalRegisterApplied", .bool false)]
  | proverJobQueued productId transactionId jobId =>
    .object [("productId", .string productId), ("transactionId", .string transactionId), ("jobId", .string jobId),
      ("state", .string "QUEUED")]
  | proofAccepted receiptId transactionId productId verification settledAt =>
    .object [("receiptId", .string receiptId), ("transactionId", .string transactionId),
      ("productId", .string productId), ("state", .string "ROOT_PENDING"),
      ("settlementRail", .string "CONFIDENTIAL_NOTE"), ("circuitId", .string verification.circuitId),
      ("circuitVersion", .string verification.circuitVersion),
      ("verificationKeyHash", .string verification.verificationKeyHash),
      ("proofHash", .string verification.proofHash), ("publicSignalsHash", .string verification.publicSignalsHash),
      ("finalityDomain", .string "CONFIDENTIAL_PROOF_REGISTRY"), ("rootPublicationRequired", .bool true),
      ("externalExecutionRequired", .bool true), ("legalRegisterApplied", .bool false),
      ("provisionalReceipt", .object [("transactionId", .string transactionId), ("productId", .string productId),
        ("type", .string "TRANSFER"), ("state", .string "ROOT_PENDING"), ("settledAt", .string settledAt),
        ("settlementMode", .string "CONFIDENTIAL_PROOF_REGISTRY"),
        ("finalityDomain", .string "CONFIDENTIAL_PROOF_REGISTRY"), ("legalRegisterApplied", .bool false),
        ("proofReceiptId", .string receiptId),
        ("lifecycle", .array [.string "REQUESTED", .string "POLICY_CHECKED", .string "PROOF_PENDING",
          .string "ROOT_PENDING"]),
        ("proofSystem", .string "GROTH16_VERIFIED")])]
  | finalityProposed proposal =>
    .object [("proposalId", .string proposal.id), ("transactionId", .string proposal.transactionId),
      ("outputMerkleRoot", .string proposal.outputMerkleRoot), ("outputTreeSize", .number proposal.outputTreeSize),
      ("baseMerkleRoot", .string proposal.baseMerkleRoot), ("baseTreeSize", .number proposal.baseTreeSize),
      ("rootVerification", .string "SERVER_RECOMPUTED"),
      ("rootSourceReference", .string proposal.rootSourceReference),
      ("executionReference", .string proposal.executionReference), ("proposedBy", .string proposal.proposedBy),
      ("status", .string "PENDING")]
  | finalityCancelled proposalId transactionId cancelledBy reason =>
    .object [("proposalId", .string proposalId), ("transactionId", .string transactionId),
      ("cancelledBy", .string cancelledBy.text), ("reason", .string reason), ("status", .string "CANCELLED")]
  | finalitySettled productId proofReceiptId inputMerkleRoot proposal transactionReceiptHash =>
    .object [("transactionId", .string proposal.transactionId), ("productId", .string productId),
      ("state", .string "SETTLED"), ("proofReceiptId", .string proofReceiptId),
      ("inputMerkleRoot", .string inputMerkleRoot), ("baseMerkleRoot", .string proposal.baseMerkleRoot),
      ("outputMerkleRoot", .string proposal.outputMerkleRoot), ("outputTreeSize", .number proposal.outputTreeSize),
      ("rootVerification", .string "SERVER_RECOMPUTED"),
      ("rootSourceReference", .string proposal.rootSourceReference),
      ("executionReference", .string proposal.executionReference),
      ("finalityDomain", .string "CONFIDENTIAL_NOTE_LEDGER"), ("legalRegisterApplied", .bool false),
      ("transactionReceiptHash", .string transactionReceiptHash)]
  | other _ metadata => metadata

end Events

section Tables

/-- `audit_events`. The metadata of a row are those of its event. -/
structure AuditRow where
  sequenceId : Nat
  tenantId : String
  aggregateType : String
  aggregateId : String
  event : Event
  previousHash : Option String
  eventHash : String

/-- The columns of `zk_settlements` that the package and the gate read. -/
structure ZkSettlement where
  transactionId : String
  proofReceiptId : String
  productId : String
  contextId : String
  merkleRoot : String
  finalityDomain : String
deriving DecidableEq

/-- `zk_proof_receipts` -/
structure ProofReceipt where
  id : String
  transactionId : String
  contextId : String
  merkleRoot : String
  verification : Verification
deriving DecidableEq

/-- `transaction_external_reconciliation` -/
structure ExternalReconciliation where
  transactionId : String
  registerOutcome : Option String
  cashOutcome : Option String
  externalStatus : String
deriving DecidableEq

/-- The tables that a package is made of, and those that its writers check. The
workflow tables are in `db`. -/
structure State where
  db : durable.Database
  receiptHashes : List (String × String)
  settlements : List ZkSettlement
  proofReceipts : List ProofReceipt
  /-- The proof receipts of `zk_spent_nullifiers` -/
  nullifiers : List String
  /-- The proof receipts of `zk_output_commitments` -/
  outputs : List String
  proposals : List Proposal
  /-- The transactions of `prover_jobs` -/
  proverJobs : List String
  reconciliations : List ExternalReconciliation
  audit : List AuditRow

def State.empty : State := ⟨durable.Database.empty, [], [], [], [], [], [], [], [], []⟩

end Tables

/-- What a settlement has read and computed before it writes. -/
structure Found where
  productId : String
  ruleVersion : Nat
  policySnapshotHash : String
  navEvidenceId : String
  privatePayloadCiphertext : String
  originatingInstitutionId : Option String
  settlementMode : SettlementMode
  commitment : EconomicCommitment

/-- A request to settle, with what the checks of the service find. -/
structure Settlement where
  transactionId : String
  idempotencyKey : String
  requestHash : String
  type : TransactionType
  checked : Except Failure Found

/-- A confidential transfer that is prepared. -/
structure ConfidentialTransfer where
  transactionId : String
  idempotencyKey : String
  requestHash : String
  productId : String
  ruleVersion : Nat
  policySnapshotHash : String
  privatePayloadCiphertext : String
  originatingInstitutionId : String
  authorizedBy : String
  contextId : String
  assetType : String
  circuitId : String
  circuitVersion : String
  expiresAt : String

section Operations

variable (platform : Platform)

/-- `sha256Canonical` of a value that has a canonical text. -/
def hash (value : JsValue) : String :=
  match sha256Canonical platform value with
  | .ok digest => digest
  | .error _ => ""

namespace State

/-- The hash of the last event of an aggregate. -/
def previousHash (state : State) (tenantId aggregateType aggregateId : String) : Option String :=
  (state.audit.filter fun row => row.tenantId = tenantId && row.aggregateType = aggregateType &&
    row.aggregateId = aggregateId).getLast?.map (·.eventHash)

/-- The next row of the audit table. -/
def auditRow (state : State) (tenantId aggregateType aggregateId : String) (event : Event) : AuditRow :=
  let previousHash := state.previousHash tenantId aggregateType aggregateId
  { sequenceId := state.audit.length + 1, tenantId, aggregateType, aggregateId, event, previousHash
    eventHash := hash platform (.object [("tenantId", .string tenantId), ("eventType", .string event.eventType),
      ("aggregateType", .string aggregateType), ("aggregateId", .string aggregateId), ("metadata", event.metadata),
      ("previousHash", nullable previousHash)]) }

def recordAuditEvent (state : State) (tenantId aggregateType aggregateId : String) (event : Event) : State :=
  { state with audit := state.audit ++ [state.auditRow platform tenantId aggregateType aggregateId event] }

/-- The event of a transaction. -/
def recordTransactionEvent (state : State) (tenantId transactionId : String) (event : Event) : State :=
  state.recordAuditEvent platform tenantId "transaction" transactionId event

def storeReceipt (state : State) (transactionId : String) (receipt : JsValue) : Except Failure (String × State) := do
  throwIf (transactionId ∈ state.receiptHashes.map Prod.fst) uniqueViolation
  let receiptHash := hash platform receipt
  pure (receiptHash, { state with receiptHashes := state.receiptHashes ++ [(transactionId, receiptHash)] })

def transitionTransaction (state : State) (transactionId : String) (toState : TransactionState)
    (reasonCode : Option String) (actorRef : String) : Except Failure State := do
  let db ← state.db.transitionTransaction transactionId toState reasonCode actorRef
  pure { state with db }

/-- A transaction of a tenant, in a state of the confidential rail. -/
def confidentialTransaction (state : State) (tenantId transactionId : String) (current : TransactionState) :
    Except Failure TransactionIntent := do
  let row ← require ((state.db.transactions.find transactionId).filter (·.tenantId = tenantId))
    ⟨"UNKNOWN_ZK_TRANSACTION", "transaction is unavailable in this tenant"⟩
  throwIf (row.currentState ≠ current ∨ row.settlementRail ≠ .confidentialNote)
    ⟨"INVALID_ZK_TRANSACTION_STATE", "transaction is not in the state that the operation needs"⟩
  pure row

/-- The proposal of a transaction that waits for approval. -/
def pendingProposal (state : State) (tenantId transactionId : String) : Option Proposal :=
  state.proposals.find? fun row =>
    row.transactionId = transactionId && row.tenantId = tenantId && row.status = .pending

def setProposalStatus (state : State) (proposalId : String) (status : ProposalStatus) : State :=
  { state with
    proposals := state.proposals.map fun row =>
      if row.id = proposalId ∧ row.status = .pending then { row with status } else row }

end State

/-- The receipt of a settlement, or of a transfer whose registration fails. -/
def workflowReceipt (transactionId : String) (type : TransactionType) (found : Found) (settledAt : String)
    (registerFailure : Bool) : JsValue :=
  let lifecycle := if registerFailure then ["REQUESTED", "POLICY_CHECKED", "CASH_RESERVED", "REQUIRES_REVIEW"]
    else ["REQUESTED", "POLICY_CHECKED", "CASH_RESERVED", "REGISTER_PENDING", "SETTLED"]
  .object ([("transactionId", .string transactionId), ("productId", .string found.productId),
    ("type", .string (typeText type)),
    ("state", .string (if registerFailure then "REQUIRES_REVIEW" else "SETTLED")),
    ("settledAt", if registerFailure then .null else .string settledAt), ("navEvidenceId", .string found.navEvidenceId),
    ("ruleVersion", .number found.ruleVersion),
    ("settlementMode", .string (if registerFailure then "EXCEPTION_REVIEW" else
      control_plane.SettlementMode.text found.settlementMode)),
    ("lifecycle", .array (lifecycle.map .string)), ("proofSystem", .string "SANDBOX_NO_ZK_PROOF")] ++
    if registerFailure then [("exceptionCaseId", .string (durable.exceptionCaseId transactionId)),
      ("reasonCode", .string "REGISTER_TIMEOUT")] else [])

/-- The row of a settlement. -/
def settlementIntent (tenantId : String) (settlement : Settlement) (found : Found) : TransactionIntent where
  id := settlement.transactionId
  tenantId := tenantId
  productId := found.productId
  idempotencyKey := settlement.idempotencyKey
  requestHash := settlement.requestHash
  transactionType := settlement.type
  currentState := .requested
  ruleVersion := found.ruleVersion
  navEvidenceId := some found.navEvidenceId
  policySnapshotHash := found.policySnapshotHash
  privatePayloadCiphertext := found.privatePayloadCiphertext
  settlementRail := .registered
  originatingInstitutionId := found.originatingInstitutionId

/-- What a settlement writes to the workflow tables. -/
def settleTables (settlement : Settlement) (found : Found) (registerFailure : Bool) (transactions : TransactionTables)
    (db : durable.Database) : Except Failure durable.Database := do
  let db ← { db with transactions }.insertCommitment { found.commitment with transactionId := settlement.transactionId }
  if registerFailure then
    let db ← db.transitionThrough settlement.transactionId durable.sandboxWorkflow [.policyChecked, .cashReserved]
    let db ← db.transitionTransaction settlement.transactionId .requiresReview (some "REGISTER_TIMEOUT")
      durable.sandboxWorkflow
    db.insertExceptionCase
      { id := durable.exceptionCaseId settlement.transactionId, transactionId := settlement.transactionId
        productId := found.productId, status := .opened, failureStage := .registerPending
        reasonCode := "REGISTER_TIMEOUT", approvalRound := 0, replacementTransactionId := none }
  else
    let db ← db.transitionThrough settlement.transactionId durable.sandboxWorkflow durable.settledLifecycle
    db.transitionTransaction settlement.transactionId .settled none durable.sandboxWorkflow

/-- A settlement, or a transfer whose registration fails. A key that was used is
answered before any check. -/
def settleInTransaction (tenantId : String) (settlement : Settlement) (settledAt : String) (registerFailure : Bool)
    (state : State) : Except Failure State :=
  match state.db.transactions.findKey tenantId settlement.idempotencyKey with
  | some existing => do
    throwIf (existing.requestHash ≠ settlement.requestHash)
      ⟨"IDEMPOTENCY_CONFLICT", "idempotency key reused for a different request"⟩
    throwIf (existing.id ∉ state.receiptHashes.map Prod.fst)
      ⟨"IDEMPOTENCY_IN_FLIGHT", "transaction receipt is not available"⟩
    pure state
  | none => do
    let found ← settlement.checked
    let (_, _, transactions) ← state.db.transactions.createTransactionIntent
      (settlementIntent tenantId settlement found) (some durable.sandboxWorkflow)
    let db ← settleTables settlement found registerFailure transactions state.db
    let (receiptHash, state) ← { state with db }.storeReceipt platform settlement.transactionId
      (workflowReceipt settlement.transactionId settlement.type found settledAt registerFailure)
    pure (state.recordTransactionEvent platform tenantId settlement.transactionId
      (if registerFailure then .exceptionOpened found.productId receiptHash
        else .settled settlement.type found.productId receiptHash))

/-- A maker proposes what becomes of an exception. -/
def proposeExceptionResolution (tenantId caseId makerId : String) (decision : Decision)
    (replacementTransactionId : Option String) (state : State) : Except Failure State := do
  let (row, db) ← state.db.proposeExceptionResolution caseId makerId decision replacementTransactionId
  let state ← { state with db }.transitionTransaction row.transactionId .pendingApproval none makerId
  pure (state.recordTransactionEvent platform tenantId row.transactionId
    (.resolutionProposed row.productId caseId row.approvalRound decision makerId))

def recordExceptionDecision (tenantId : String) (row : ExceptionCase) (checkerId : String) (status : CaseStatus)
    (reasonCode : Option String) (state : State) : State :=
  state.recordTransactionEvent platform tenantId row.transactionId
    (.decisionRecorded row.productId row.id row.approvalRound checkerId status reasonCode)

/-- The retry of an exception: what its checks find, with the hash of its request. -/
structure Retry where
  requestHash : String
  checked : Except Failure Found

/-- Settle the request of an exception again. A failure goes back to the savepoint,
and the case back to review. -/
def retryException (tenantId : String) (row : ExceptionCase) (maker : ApprovalRecord) (checkerId : String)
    (retry : Retry) (settledAt : String) (state : State) : Except Failure State := do
  let original ← require (state.db.transactions.find row.transactionId)
    ⟨"UNKNOWN_TRANSACTION", "original transaction is missing"⟩
  let settlement : Settlement :=
    { transactionId := maker.proposedReplacementTransactionId.getD "null"
      idempotencyKey := durable.retryKey row.id maker.proposedReplacementTransactionId
      requestHash := retry.requestHash, type := original.transactionType, checked := retry.checked }
  match settleInTransaction platform tenantId settlement settledAt false state with
  | .error failure => do
    let reasonCode := if failure.code = "" then "RETRY_BLOCKED" else failure.code
    let db ← state.db.reopen row (some reasonCode) checkerId
    pure (recordExceptionDecision platform tenantId row checkerId .opened (some reasonCode) { state with db })
  | .ok state => do
    let state ← state.transitionTransaction row.transactionId .replaced none checkerId
    let db ← state.db.resolveExceptionCase row.id .resolvedRetried maker.proposedReplacementTransactionId
    pure (recordExceptionDecision platform tenantId row checkerId .resolvedRetried none { state with db })

/-- A checker decides on the proposal of an exception. -/
def approveExceptionResolution (tenantId caseId checkerId : String) (decision : ApprovalDecision) (retry : Retry)
    (settledAt : String) (state : State) : Except Failure State := do
  let (row, maker, db) ← state.db.approveExceptionResolution caseId checkerId decision
  if decision = .reject then
    let db ← db.reopen row none checkerId
    pure (recordExceptionDecision platform tenantId row checkerId .opened (some "CHECKER_REJECTED") { state with db })
  else if maker.decision = .cancel then
    let db ← db.transitionTransaction row.transactionId .cancelled none checkerId
    let db ← db.resolveExceptionCase caseId .resolvedCancelled none
    pure (recordExceptionDecision platform tenantId row checkerId .resolvedCancelled none { state with db })
  else retryException platform tenantId row maker checkerId retry settledAt { state with db }

/-- A confidential transfer is created and awaits its proof. -/
def prepare (tenantId : String) (transfer : ConfidentialTransfer) (state : State) : Except Failure State := do
  let (created, _, transactions) ← state.db.transactions.createTransactionIntent
    { id := transfer.transactionId, tenantId, productId := transfer.productId
      idempotencyKey := transfer.idempotencyKey, requestHash := transfer.requestHash, transactionType := .transfer
      currentState := .requested, ruleVersion := transfer.ruleVersion, navEvidenceId := none
      policySnapshotHash := transfer.policySnapshotHash
      privatePayloadCiphertext := transfer.privatePayloadCiphertext, settlementRail := .confidentialNote
      originatingInstitutionId := some transfer.originatingInstitutionId } (some transfer.authorizedBy)
  if created then
    let db ← { state.db with transactions }.transitionThrough transfer.transactionId transfer.authorizedBy
      [.policyChecked, .proofPending]
    pure ({ state with db }.recordTransactionEvent platform tenantId transfer.transactionId
      (.prepared transfer.productId transfer.contextId transfer.assetType transfer.circuitId transfer.circuitVersion
        transfer.expiresAt))
  else pure state

def enqueueProverJob (tenantId transactionId jobId : String) (state : State) : Except Failure State := do
  let row ← state.confidentialTransaction tenantId transactionId .proofPending
  if transactionId ∈ state.proverJobs then pure state
  else
    pure ({ state with proverJobs := state.proverJobs ++ [transactionId] }.recordTransactionEvent platform tenantId
      transactionId (.proverJobQueued row.productId transactionId jobId))

/-- A verified proof is recorded. -/
def acceptProof (tenantId transactionId receiptId contextId merkleRoot : String) (verification : Verification)
    (settledAt : String) (state : State) : Except Failure State := do
  let row ← state.confidentialTransaction tenantId transactionId .proofPending
  throwIf (receiptId ∈ state.proofReceipts.map (·.id)) uniqueViolation
  throwIf (transactionId ∈ state.proofReceipts.map (·.transactionId)) uniqueViolation
  let state ← state.transitionTransaction transactionId .rootPending (some "ZK_JOIN_SPLIT_VERIFIED")
    "zk-settlement-gate"
  let transactions ← state.db.transactions.insertSettlement transactionId
  let next : State := { state with
    db := { state.db with transactions }
    proofReceipts := state.proofReceipts ++ [⟨receiptId, transactionId, contextId, merkleRoot, verification⟩]
    nullifiers := state.nullifiers ++ [receiptId, receiptId]
    outputs := state.outputs ++ [receiptId, receiptId]
    settlements := state.settlements ++
      [⟨transactionId, receiptId, row.productId, contextId, merkleRoot, "CONFIDENTIAL_PROOF_REGISTRY"⟩] }
  pure (next.recordTransactionEvent platform tenantId transactionId
    (.proofAccepted receiptId transactionId row.productId verification settledAt))

/-- The finality of a transaction is proposed. -/
def proposeFinalization (tenantId : String) (proposal : Proposal) (state : State) : Except Failure State := do
  let proposal := { proposal with tenantId, status := .pending }
  let _ ← state.confidentialTransaction tenantId proposal.transactionId .rootPending
  throwIf (∃ row ∈ state.proposals, row.transactionId = proposal.transactionId ∧ row.status = .pending)
    ⟨"ROOT_FINALIZATION_ALREADY_PROPOSED", "transaction already has a live finalization proposal"⟩
  throwIf (proposal.id ∈ state.proposals.map (·.id)) uniqueViolation
  pure ({ state with proposals := state.proposals ++ [proposal] }.recordTransactionEvent platform tenantId
    proposal.transactionId (.finalityProposed proposal))

def cancelProposal (tenantId : String) (proposal : Proposal) (cancelledBy : Canceller) (reason : String)
    (state : State) : State :=
  (state.setProposalStatus proposal.id .cancelled).recordTransactionEvent platform tenantId proposal.transactionId
    (.finalityCancelled proposal.id proposal.transactionId cancelledBy reason)

def cancelFinalization (tenantId transactionId cancelledBy reason : String) (state : State) :
    Except Failure State := do
  let proposal ← require (state.pendingProposal tenantId transactionId)
    ⟨"ROOT_FINALIZATION_NOT_PENDING", "transaction has no pending finalization proposal"⟩
  pure (cancelProposal platform tenantId proposal (.actor cancelledBy) reason state)

/-- The settlement of a transaction enters the note ledger. -/
def enterLedger (transactionId : String) (settlement : ZkSettlement) : ZkSettlement :=
  if settlement.transactionId = transactionId then
    { settlement with finalityDomain := "CONFIDENTIAL_NOTE_LEDGER" }
  else settlement

def staleReason : String :=
  "the note tree advanced after this proposal was made; re-propose against the current root"

/-- The finality of a transaction is approved. A proposal whose base is stale is
cancelled instead. -/
def finalize (tenantId transactionId finalizedBy : String) (stale : Bool) (settledAt : String) (state : State) :
    Except Failure State := do
  let row ← state.confidentialTransaction tenantId transactionId .rootPending
  let settlement ← require (state.settlements.find? (·.transactionId = transactionId))
    ⟨"UNKNOWN_ZK_TRANSACTION", "root-pending transaction is unavailable in this tenant"⟩
  let proposal ← require (state.pendingProposal tenantId transactionId)
    ⟨"UNKNOWN_ZK_TRANSACTION", "root-pending transaction is unavailable in this tenant"⟩
  throwIf (proposal.proposedBy = finalizedBy)
    ⟨"MAKER_CHECKER_SEPARATION_REQUIRED", "finality proposer cannot approve the same transaction"⟩
  if stale then pure (cancelProposal platform tenantId proposal .staleBaseRoot staleReason state)
  else
    let state := state.setProposalStatus proposal.id .approved
    let transactions ← state.db.transactions.finalizeSettlement transactionId
    let state : State := { state with
      db := { state.db with transactions }
      settlements := state.settlements.map (enterLedger transactionId) }
    let state ← state.transitionTransaction transactionId .settled (some "ZK_ROOT_AND_EFFECTS_ATTESTED") finalizedBy
    let receipt := JsValue.object [("transactionId", .string transactionId), ("productId", .string row.productId),
      ("state", .string "SETTLED"), ("proofReceiptId", .string settlement.proofReceiptId),
      ("inputMerkleRoot", .string settlement.merkleRoot), ("baseMerkleRoot", .string proposal.baseMerkleRoot),
      ("outputMerkleRoot", .string proposal.outputMerkleRoot), ("outputTreeSize", .number proposal.outputTreeSize),
      ("rootVerification", .string "SERVER_RECOMPUTED"),
      ("rootSourceReference", .string proposal.rootSourceReference),
      ("executionReference", .string proposal.executionReference),
      ("finalityDomain", .string "CONFIDENTIAL_NOTE_LEDGER"), ("legalRegisterApplied", .bool false),
      ("type", .string "TRANSFER"), ("settledAt", .string settledAt),
      ("lifecycle", .array [.string "REQUESTED", .string "POLICY_CHECKED", .string "PROOF_PENDING",
        .string "ROOT_PENDING", .string "SETTLED"])]
    let (transactionReceiptHash, state) ← state.storeReceipt platform transactionId receipt
    pure (state.recordTransactionEvent platform tenantId transactionId
      (.finalitySettled row.productId settlement.proofReceiptId settlement.merkleRoot proposal transactionReceiptHash))

/-- A call of a service that writes the tables of a package. -/
inductive Call
  | settle (settlement : Settlement) (registerFailure : Bool)
  | proposeExceptionResolution (caseId makerId : String) (decision : Decision)
      (replacementTransactionId : Option String)
  | approveExceptionResolution (caseId checkerId : String) (decision : ApprovalDecision) (retry : Retry)
  | prepare (transfer : ConfidentialTransfer)
  | enqueueProverJob (transactionId jobId : String)
  | acceptProof (transactionId receiptId contextId merkleRoot : String) (verification : Verification)
  | proposeFinalization (proposal : Proposal)
  | cancelFinalization (transactionId cancelledBy reason : String)
  | finalize (transactionId finalizedBy : String) (stale : Bool)
  /-- An audit event of an aggregate that is no transaction. -/
  | recordOther (aggregateType aggregateId eventType : String) (metadata : JsValue)
  /-- The row of the reconciliation view for a transaction. -/
  | reconcile (row : ExternalReconciliation)

/-- A call of a service of a tenant, at a time. -/
structure Action where
  tenantId : String
  now : String
  call : Call

def execute (action : Action) (state : State) : Except Failure State :=
  match action.call with
  | .settle settlement registerFailure =>
    settleInTransaction platform action.tenantId settlement action.now registerFailure state
  | .proposeExceptionResolution caseId makerId decision replacementTransactionId =>
    proposeExceptionResolution platform action.tenantId caseId makerId decision replacementTransactionId state
  | .approveExceptionResolution caseId checkerId decision retry =>
    approveExceptionResolution platform action.tenantId caseId checkerId decision retry action.now state
  | .prepare transfer => prepare platform action.tenantId transfer state
  | .enqueueProverJob transactionId jobId => enqueueProverJob platform action.tenantId transactionId jobId state
  | .acceptProof transactionId receiptId contextId merkleRoot verification =>
    acceptProof platform action.tenantId transactionId receiptId contextId merkleRoot verification action.now state
  | .proposeFinalization proposal => proposeFinalization platform action.tenantId proposal state
  | .cancelFinalization transactionId cancelledBy reason =>
    cancelFinalization platform action.tenantId transactionId cancelledBy reason state
  | .finalize transactionId finalizedBy stale =>
    finalize platform action.tenantId transactionId finalizedBy stale action.now state
  | .recordOther aggregateType aggregateId eventType metadata => do
    throwIf (aggregateType = "transaction") ⟨"", "the events of transactions have calls of their own"⟩
    throwIf (hasBigInt metadata) (storage.typeError "Do not know how to serialize a BigInt")
    pure (state.recordAuditEvent platform action.tenantId aggregateType aggregateId (.other eventType metadata))
  | .reconcile row =>
    pure { state with
      reconciliations := (state.reconciliations.filter fun other => other.transactionId ≠ row.transactionId) ++ [row] }

def step (state : State) (action : Action) : State :=
  match execute platform action state with
  | .ok next => next
  | .error _ => state

end Operations

end rwa.transaction_evidence
