import RwaControlPlane.Gate.Eligibility
import RwaControlPlane.Security.ProofAdapter

open checked rwa.security rwa.merkle

namespace rwa.gate

variable {Proof : Type}

def assertRequestScope (transactionId tenantId : String) : Except Failure Unit :=
  throwIf (¬js_text.Bounded transactionId 200 ∨ ¬js_text.Bounded tenantId 200)
    ⟨"INVALID_ZK_REQUEST_SCOPE", "bounded transaction and tenant identifiers are required"⟩

/-- System callers carry no institution; a caller with an institution must be
the originator. -/
def assertOriginatingInstitution (row : TransactionIntent) : Option String → Except Failure Unit
  | none => pure ()
  | some institutionId =>
    throwIf (institutionId = "" ∨ row.originatingInstitutionId ≠ some institutionId)
      ⟨"UNKNOWN_ZK_TRANSACTION", "transaction is unavailable to this institution"⟩

structure AuthorizeRequest where
  transactionId : String
  tenantId : String
  proofPublicInputs : JoinSplitPublicInputs String
  actorInstitutionId : Option String

/-- The active context of a product for the adapter's circuit. -/
def Database.activeContext (db : Database) (adapter : Groth16JoinSplitProofAdapter Proof)
    (productId tenantId : String) : Option ProductContext :=
  single (db.contexts.filter fun context =>
    context.productId = productId && !context.retired && context.circuitId = adapter.circuitId &&
      context.circuitVersion = adapter.circuitVersion &&
      (db.findCircuit context.circuitId context.circuitVersion).any (·.status = .active) &&
      db.tenantHasProduct context.productId tenantId)

/-- The values that the server owns, with the signals they bind. -/
def serverOwned (context : ProductContext) (instruction : ExecutionInstruction) : List (PublicSignal × FieldElement) :=
  [(.contextId, context.contextId), (.assetType, context.assetType), (.fee, instruction.fee),
    (.recipient, instruction.recipient), (.relayer, instruction.relayer)]

def assertServerOwned (normalized : JoinSplitPublicInputs FieldElement) :
    List (PublicSignal × FieldElement) → Except Failure Unit
  | [] => pure ()
  | (signal, value) :: rest => do
    throwIf (normalized.get signal ≠ value)
      ⟨"ZK_BUSINESS_CONTEXT_MISMATCH",
        signal.name ++ " does not match the server-authorized execution context"⟩
    assertServerOwned normalized rest

/-- A proof may be made against a known root that is neither revoked nor
expired. -/
def assertAcceptedRoot (db : Database) (contextId merkleRoot : FieldElement) (now : Int) : Except Failure Unit :=
  throwIf (¬∃ root, db.findRoot contextId merkleRoot = some root ∧ root.status ≠ .revoked ∧
      ¬∃ expiresAt, root.expiresAt = some expiresAt ∧ expiresAt ≤ now)
    ⟨"UNACCEPTED_MERKLE_ROOT", "Merkle root is unknown, revoked or expired"⟩

/-- Freeze the public inputs of a confidential transaction. -/
def authorize (adapter : Groth16JoinSplitProofAdapter Proof) (request : AuthorizeRequest) (now : Int)
    (db : Database) : Except Failure (String × Database) := do
  assertRequestScope request.transactionId request.tenantId
  let normalized ← rethrow (fun cause => ⟨"INVALID_ZK_AUTHORIZATION", cause.message⟩)
    (normalizeJoinSplitPublicInputs request.proofPublicInputs "")
  throwIf (normalized.inputNullifier0 = normalized.inputNullifier1)
    ⟨"INVALID_ZK_AUTHORIZATION", "input nullifiers must be distinct"⟩
  let publicInputsHash := joinSplitPublicInputsHash adapter.sha256 normalized
  let (transaction, product) ← require
    ((db.findTransaction request.transactionId).filter (·.1.tenantId = request.tenantId))
    ⟨"UNKNOWN_ZK_TRANSACTION", "transaction is unavailable in this tenant"⟩
  assertOriginatingInstitution transaction request.actorInstitutionId
  throwIf (transaction.currentState ≠ .proofPending)
    ⟨"INVALID_ZK_TRANSACTION_STATE", "transaction is not awaiting ZK authorization"⟩
  throwIf (transaction.transactionType ≠ .transfer)
    ⟨"UNSUPPORTED_ZK_TRANSACTION_TYPE", "this JoinSplit gate only authorizes transfers"⟩
  throwIf (transaction.settlementRail ≠ .confidentialNote)
    ⟨"UNSUPPORTED_ZK_SETTLEMENT_RAIL", "transaction is not assigned to the confidential note settlement rail"⟩
  throwIf (product.status ≠ .active) ⟨"PRODUCT_NOT_ACTIVE", "product is not active for ZK authorization"⟩
  let context ← require (db.activeContext adapter transaction.productId request.tenantId)
    ⟨"UNAPPROVED_PROOF_CONTEXT", "product has no active context for this proof circuit"⟩
  let instruction ← require
    ((db.findInstruction request.transactionId).filter fun row =>
      row.tenantId = request.tenantId && row.requestHash = transaction.requestHash)
    ⟨"INVALID_ZK_EXECUTION_INSTRUCTION", "transaction has no matching immutable execution instruction"⟩
  throwIf (instruction.expiresAt ≤ now)
    ⟨"ZK_EXECUTION_INSTRUCTION_EXPIRED", "execution instruction has expired"⟩
  assertInstructionParties db.reference transaction.productId product.rules instruction now
  assertServerOwned normalized (serverOwned context instruction)
  assertAcceptedRoot db normalized.contextId normalized.merkleRoot now
  let next ← rethrow
    (onUniqueViolation ⟨"ZK_TRANSACTION_ALREADY_AUTHORIZED", "transaction already has immutable ZK inputs"⟩)
    (db.insertAuthorization
      { transactionId := request.transactionId
        tenantId := request.tenantId
        circuitId := adapter.circuitId
        circuitVersion := adapter.circuitVersion
        publicInputs := normalized
        publicInputsHash
        authorizedBy := instruction.authorizedBy
        proofReceiptId := none })
  pure (publicInputsHash, next)

structure AcceptRequest (Proof : Type) where
  transactionId : String
  tenantId : String
  proof : Option Proof
  publicSignals : List String
  actorInstitutionId : Option String

/-- The pending authorization of a transaction, with the transaction and its
product. -/
def Database.pendingAuthorization (db : Database) (transactionId tenantId : String) :
    Option (Authorization × TransactionIntent × Product) := do
  let row ← db.authorizations.find? (·.transactionId = transactionId)
  guard (row.tenantId = tenantId ∧ row.status = .pending)
  let (transaction, product) ← db.findTransaction transactionId
  guard (transaction.tenantId = row.tenantId)
  pure (row, transaction, product)

/-- The checks before verification. They return the frozen public inputs that
the proof will be verified against. -/
def readAuthorization (adapter : Groth16JoinSplitProofAdapter Proof) (request : AcceptRequest Proof)
    (db : Database) : Except Failure (JoinSplitPublicInputs FieldElement) := do
  assertRequestScope request.transactionId request.tenantId
  let (row, transaction, product) ← require (db.pendingAuthorization request.transactionId request.tenantId)
    ⟨"ZK_TRANSACTION_NOT_AUTHORIZED", "transaction has no pending immutable ZK authorization"⟩
  assertOriginatingInstitution transaction request.actorInstitutionId
  throwIf (transaction.currentState ≠ .proofPending ∨ transaction.settlementRail ≠ .confidentialNote)
    ⟨"INVALID_ZK_TRANSACTION_STATE", "transaction is not awaiting proof acceptance"⟩
  throwIf (product.status ≠ .active) ⟨"PRODUCT_NOT_ACTIVE", "product is not active for proof acceptance"⟩
  throwIf (joinSplitPublicInputsHash adapter.sha256 row.publicInputs ≠ row.publicInputsHash)
    ⟨"ZK_AUTHORIZATION_INTEGRITY_FAILURE", "stored ZK authorization does not match its immutable digest"⟩
  pure row.publicInputs

/-- What an accepted proof returns. -/
structure AcceptanceMetadata where
  receiptId : String
  transactionId : String
  productId : String
  transactionState : TransactionState
  verification : Verification
deriving DecidableEq

/-- Spend one nullifier of a receipt. -/
def spendNullifier (db : Database) (contextId nullifier : FieldElement) (receiptId : String) :
    Except Failure Database :=
  rethrow (onUniqueViolation ⟨"NULLIFIER_ALREADY_SPENT", "proof reuses a spent nullifier"⟩)
    (db.insertNullifier { contextId, nullifier, proofReceiptId := receiptId })

/-- The transaction that records a verified proof. -/
def recordAcceptance (request : AcceptRequest Proof)
    (expected : JoinSplitPublicInputs FieldElement) (verification : Verification) (uuid : String) (now : Int)
    (db : Database) : Except Failure (AcceptanceMetadata × Database) := do
  let (transaction, product) ← require
    ((db.findTransaction request.transactionId).filter (·.1.tenantId = request.tenantId))
    ⟨"UNKNOWN_ZK_TRANSACTION", "transaction is unavailable in this tenant"⟩
  throwIf (transaction.currentState ≠ .proofPending)
    ⟨"INVALID_ZK_TRANSACTION_STATE", "transaction is not awaiting proof acceptance"⟩
  throwIf (transaction.transactionType ≠ .transfer)
    ⟨"UNSUPPORTED_ZK_TRANSACTION_TYPE", "this JoinSplit gate only accepts transfers"⟩
  throwIf (transaction.settlementRail ≠ .confidentialNote)
    ⟨"UNSUPPORTED_ZK_SETTLEMENT_RAIL", "transaction is not assigned to the confidential note settlement rail"⟩
  throwIf (product.status ≠ .active) ⟨"PRODUCT_NOT_ACTIVE", "product is not active for proof acceptance"⟩
  let _ ← require
    (single (db.contexts.filter fun context =>
      context.productId = transaction.productId && context.circuitId = verification.circuitId &&
        context.circuitVersion = verification.circuitVersion && context.contextId = expected.contextId &&
        context.assetType = expected.assetType && !context.retired &&
        db.tenantHasProduct context.productId request.tenantId))
    ⟨"ZK_BUSINESS_CONTEXT_RETIRED", "authorized product proof context is no longer active"⟩
  let instruction ← require
    ((db.findInstruction request.transactionId).filter fun row =>
      row.tenantId = request.tenantId && row.requestHash = transaction.requestHash && row.fee = expected.fee &&
        row.recipient = expected.recipient && row.relayer = expected.relayer && now < row.expiresAt)
    ⟨"INVALID_ZK_EXECUTION_INSTRUCTION", "authorized execution instruction no longer matches the transaction"⟩
  assertInstructionParties db.reference transaction.productId product.rules instruction now
  throwIf (¬∃ circuit, db.findCircuit verification.circuitId verification.circuitVersion = some circuit ∧
      circuit.status = .active ∧ circuit.verificationKeyHash = verification.verificationKeyHash ∧
      circuit.artifactManifestHash = verification.manifestHash ∧
      circuit.publicSignalOrder = joinSplitPublicSignalOrder)
    ⟨"UNAPPROVED_PROOF_CIRCUIT", "proof circuit artifact is not active and approved"⟩
  throwIf (¬∃ row, db.authorizations.find? (·.transactionId = request.transactionId) = some row ∧
      row.tenantId = request.tenantId ∧ row.status = .pending)
    ⟨"ZK_TRANSACTION_NOT_AUTHORIZED", "ZK authorization was already consumed or revoked"⟩
  assertAcceptedRoot db expected.contextId expected.merkleRoot now
  let receiptId := "zk-proof:" ++ request.transactionId ++ ":" ++ uuid
  let db ← db.insertReceipt
    { id := receiptId
      transactionId := request.transactionId
      tenantId := request.tenantId
      circuitId := verification.circuitId
      circuitVersion := verification.circuitVersion
      contextId := expected.contextId
      merkleRoot := expected.merkleRoot
      verificationKeyHash := verification.verificationKeyHash
      proofHash := verification.proofHash
      publicSignalsHash := verification.publicSignalsHash }
  let db ← spendNullifier db expected.contextId expected.inputNullifier0 receiptId
  let db ← spendNullifier db expected.contextId expected.inputNullifier1 receiptId
  let db ← db.insertOutput
    { proofReceiptId := receiptId, outputIndex := 0, contextId := expected.contextId,
      commitmentX := expected.outputCommitmentX0, commitmentY := expected.outputCommitmentY0 }
  let db ← db.insertOutput
    { proofReceiptId := receiptId, outputIndex := 1, contextId := expected.contextId,
      commitmentX := expected.outputCommitmentX1, commitmentY := expected.outputCommitmentY1 }
  let db ← db.verifyAuthorization request.transactionId receiptId
  let db ← db.transitionTransaction request.transactionId .rootPending
  let db ← db.insertSettlement
    { transactionId := request.transactionId
      proofReceiptId := receiptId
      tenantId := request.tenantId
      productId := transaction.productId
      contextId := expected.contextId
      merkleRoot := expected.merkleRoot
      finality := none }
  pure
    ({ receiptId, transactionId := request.transactionId, productId := transaction.productId,
       transactionState := .rootPending, verification }, db)

end rwa.gate
