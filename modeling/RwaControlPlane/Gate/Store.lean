import RwaControlPlane.Gate.Schema
import RwaControlPlane.Library.JsText

open checked rwa.security rwa.merkle

namespace rwa.gate

/-- A unique or primary key is violated. -/
def uniqueViolation : Failure := ⟨"23505", "duplicate key value violates unique constraint"⟩

/-- Rethrow of a unique violation under a code of the application. -/
def onUniqueViolation (failure cause : Failure) : Failure :=
  if cause.code = "23505" then failure else cause

/-- The states a transaction may move to. -/
def transitions : TransactionState → List TransactionState
  | .requested => [.policyChecked, .rejected]
  | .policyChecked => [.cashReserved, .proofPending, .rejected]
  | .cashReserved => [.registerPending, .requiresReview, .rejected]
  | .registerPending => [.settled, .requiresReview, .rejected]
  | .proofPending => [.rootPending, .requiresReview, .rejected]
  | .rootPending => [.settled]
  | .requiresReview => [.pendingApproval, .cancelled]
  | .pendingApproval => [.requiresReview, .replaced, .cancelled]
  | _ => []

/-- The transitions of a confidential transaction that the rail trigger lets
through. -/
def confidentialTransitions : TransactionState → List TransactionState
  | .requested => [.policyChecked, .rejected]
  | .policyChecked => [.proofPending, .rejected]
  | .proofPending => [.rootPending, .requiresReview, .rejected]
  | .rootPending => [.settled]
  | .requiresReview => [.pendingApproval, .cancelled]
  | .pendingApproval => [.requiresReview, .replaced, .cancelled]
  | _ => []

namespace Database

/-- A transaction joined with its product. -/
def findTransaction (db : Database) (transactionId : String) : Option (TransactionIntent × Product) := do
  let transaction ← db.transactions.find? (·.id = transactionId)
  let product ← db.reference.products.find? (·.id = transaction.productId)
  pure (transaction, product)

def tenantHasProduct (db : Database) (productId tenantId : String) : Bool :=
  db.reference.ledgerAccounts.any fun account => account.productId = productId && account.tenantId = tenantId

def findCircuit (db : Database) (circuitId circuitVersion : String) : Option CircuitVersion :=
  db.reference.circuits.find? fun circuit =>
    circuit.circuitId = circuitId && circuit.circuitVersion = circuitVersion

def findInstruction (db : Database) (transactionId : String) : Option ExecutionInstruction :=
  db.instructions.find? (·.transactionId = transactionId)

def findRoot (db : Database) (contextId merkleRoot : FieldElement) : Option MerkleRoot :=
  db.roots.find? fun root => root.contextId = contextId && root.merkleRoot = merkleRoot

/-- Move a transaction to a state. The guard of the rail refuses transitions
that a confidential transaction cannot make. -/
def transitionTransaction (db : Database) (transactionId : String) (toState : TransactionState) :
    Except Failure Database := do
  let transaction ← require (db.transactions.find? (·.id = transactionId))
    ⟨"UNKNOWN_TRANSACTION", "transaction not found"⟩
  throwIf (toState ∉ transitions transaction.currentState)
    ⟨"INVALID_STATE_TRANSITION",
      "invalid transaction transition " ++ transaction.currentState.text ++ " -> " ++ toState.text⟩
  throwIf ((toState = .proofPending ∨ toState = .rootPending) ∧ transaction.settlementRail ≠ .confidentialNote)
    ⟨"23514", "only confidential note transactions can await proof or root finality"⟩
  throwIf (transaction.settlementRail = .confidentialNote ∧
      toState ∉ confidentialTransitions transaction.currentState)
    ⟨"23514", "invalid confidential transaction state transition"⟩
  pure
    { db with
      transactions := db.transactions.map fun row =>
        if row.id = transactionId then { row with currentState := toState } else row }

def insertAuthorization (db : Database) (row : Authorization) : Except Failure Database := do
  throwIf (row.transactionId ∈ db.authorizations.map (·.transactionId)) uniqueViolation
  throwIf (row.publicInputs.inputNullifier0 = row.publicInputs.inputNullifier1)
    ⟨"23514", "input nullifiers must differ"⟩
  pure { db with authorizations := db.authorizations ++ [row] }

/-- Name the receipt of an authorization. The trigger lets only a pending row
become verified. -/
def verifyAuthorization (db : Database) (transactionId receiptId : String) : Except Failure Database := do
  throwIf (∃ row ∈ db.authorizations, row.transactionId = transactionId ∧ row.status ≠ .pending)
    ⟨"55000", "invalid ZK authorization transition or immutable input mutation"⟩
  throwIf (some receiptId ∈ db.authorizations.map (·.proofReceiptId)) uniqueViolation
  pure
    { db with
      authorizations := db.authorizations.map fun row =>
        if row.transactionId = transactionId then { row with proofReceiptId := some receiptId } else row }

def insertReceipt (db : Database) (row : ProofReceipt) : Except Failure Database := do
  throwIf (row.id ∈ db.receipts.map (·.id)) uniqueViolation
  throwIf (row.transactionId ∈ db.receipts.map (·.transactionId)) uniqueViolation
  pure { db with receipts := db.receipts ++ [row] }

def insertNullifier (db : Database) (row : SpentNullifier) : Except Failure Database := do
  throwIf ((row.contextId, row.nullifier) ∈ db.nullifiers.map fun spent => (spent.contextId, spent.nullifier))
    uniqueViolation
  pure { db with nullifiers := db.nullifiers ++ [row] }

/-- Outputs are unique in their context, and the trigger ties their context to
the receipt. -/
def insertOutput (db : Database) (row : OutputCommitment) : Except Failure Database := do
  throwIf (¬∃ receipt ∈ db.receipts, receipt.id = row.proofReceiptId ∧ receipt.contextId = row.contextId)
    ⟨"23514", "output commitment context does not match its verified proof receipt"⟩
  throwIf ((row.proofReceiptId, row.outputIndex) ∈
      db.outputs.map fun output => (output.proofReceiptId, output.outputIndex))
    uniqueViolation
  throwIf ((row.contextId, row.commitmentX, row.commitmentY) ∈
      db.outputs.map fun output => (output.contextId, output.commitmentX, output.commitmentY))
    uniqueViolation
  pure { db with outputs := db.outputs ++ [row] }

/-- A settlement starts ROOT_PENDING behind its transaction and its receipt. -/
def insertSettlement (db : Database) (row : Settlement) : Except Failure Database := do
  throwIf (row.finality ≠ none ∨ ¬∃ transaction ∈ db.transactions, transaction.id = row.transactionId ∧
      transaction.tenantId = row.tenantId ∧ transaction.productId = row.productId ∧
      transaction.transactionType = .transfer ∧ transaction.settlementRail = .confidentialNote ∧
      transaction.currentState = .rootPending)
    ⟨"23514", "invalid confidential proof-registry boundary"⟩
  throwIf (¬∃ receipt ∈ db.receipts, receipt.id = row.proofReceiptId ∧
      receipt.transactionId = row.transactionId ∧ receipt.tenantId = row.tenantId ∧
      receipt.contextId = row.contextId ∧ receipt.merkleRoot = row.merkleRoot)
    ⟨"23514", "invalid confidential proof receipt boundary"⟩
  throwIf (row.transactionId ∈ db.settlements.map (·.transactionId)) uniqueViolation
  throwIf (row.proofReceiptId ∈ db.settlements.map (·.proofReceiptId)) uniqueViolation
  pure { db with settlements := db.settlements ++ [row] }

/-- Set the finality columns of a settlement, once. -/
def finalizeSettlement (db : Database) (transactionId : String) (finality : Finality) : Except Failure Database := do
  throwIf (∃ row ∈ db.settlements, row.transactionId = transactionId ∧ row.finalityStatus ≠ .rootPending)
    ⟨"55000", "invalid ZK settlement lifecycle mutation"⟩
  pure
    { db with
      settlements := db.settlements.map fun row =>
        if row.transactionId = transactionId then { row with finality := some finality } else row }

/-- A CURRENT root needs a frontier and is the only one of its context. -/
def insertRoot (db : Database) (row : MerkleRoot) : Except Failure Database := do
  throwIf (row.status = .current ∧ row.frontier = none)
    ⟨"23514", "CURRENT ZK Merkle roots require an incremental tree frontier"⟩
  throwIf ((row.contextId, row.merkleRoot) ∈ db.roots.map fun root => (root.contextId, root.merkleRoot))
    uniqueViolation
  throwIf (row.status = .current ∧ ∃ root ∈ db.roots, root.contextId = row.contextId ∧ root.status = .current)
    uniqueViolation
  pure { db with roots := db.roots ++ [row] }

/-- Retire the CURRENT root of a context with an expiry. -/
def supersedeRoots (db : Database) (contextId : FieldElement) (expiresAt : Int) : Database :=
  { db with
    roots := db.roots.map fun root =>
      if root.contextId = contextId ∧ root.status = .current then
        { root with status := .historical, expiresAt := some expiresAt }
      else root }

/-- A transaction has at most one live proposal, and a proposal extends its
base by two outputs. -/
def insertFinalization (db : Database) (row : FinalizationProposal) : Except Failure Database := do
  throwIf (row.outputTreeSize ≠ row.baseTreeSize + 2)
    ⟨"23514", "finalization proposals must extend a pinned base tree by exactly two outputs"⟩
  throwIf (row.id ∈ db.finalizations.map (·.id)) uniqueViolation
  throwIf (∃ other ∈ db.finalizations, other.transactionId = row.transactionId ∧
      (other.status = .pending ∨ other.status = .approved)) uniqueViolation
  pure { db with finalizations := db.finalizations ++ [row] }

/-- Change the pending proposal with an id. -/
def updateFinalization (db : Database) (proposalId : String)
    (change : FinalizationProposal → FinalizationProposal) : Database :=
  { db with
    finalizations := db.finalizations.map fun row =>
      if row.id = proposalId ∧ row.status = .pending then change row else row }

/-- A product has one context per circuit and one that is not retired, and a
context id is used once. -/
def insertContext (db : Database) (row : ProductContext) : Except Failure Database := do
  throwIf (row.contextId ∈ db.contexts.map (·.contextId)) uniqueViolation
  throwIf ((row.productId, row.circuitId, row.circuitVersion) ∈
      db.contexts.map fun context => (context.productId, context.circuitId, context.circuitVersion))
    uniqueViolation
  throwIf (row.retired = false ∧ ∃ context ∈ db.contexts, context.productId = row.productId ∧ context.retired = false)
    uniqueViolation
  pure { db with contexts := db.contexts ++ [row] }

end Database

end rwa.gate
