import RwaControlPlane.Gate.Accept

open checked rwa.security rwa.merkle

namespace rwa.gate

variable (poseidon3 : FieldElement → FieldElement → FieldElement → FieldElement)

/-- A stored CURRENT tree. -/
structure StoredTree where
  root : FieldElement
  treeSize : Nat
  frontier : StoredFrontier
deriving DecidableEq

/-- The CURRENT tree of a context and its extension by the outputs of one
receipt. -/
structure TreeExtension where
  base : StoredTree
  next : MerkleTreeState
deriving DecidableEq

/-- The recorded outputs of a receipt, ordered by index. -/
def Database.outputsOf (db : Database) (proofReceiptId : String) (contextId : FieldElement) : List OutputCommitment :=
  let rows := db.outputs.filter fun output => output.proofReceiptId = proofReceiptId && output.contextId = contextId
  rows.filter (·.outputIndex = 0) ++ rows.filter (·.outputIndex = 1)

/-- The leaves that the outputs of a receipt add to the tree. -/
def outputLeaves (outputs : List OutputCommitment) : List FieldElement :=
  outputs.map fun output => merkleLeaf poseidon3 output.commitmentX output.commitmentY

/-- The stored CURRENT root of a context, with its frontier. -/
def Database.currentTree (db : Database) (contextId : FieldElement) : Option StoredTree := do
  let root ← single (db.roots.filter fun root => root.contextId = contextId && root.status = .current)
  let frontier ← root.frontier
  pure { root := root.merkleRoot, treeSize := root.treeSize, frontier }

/-- An append that fails is reported with its code, or as an unavailable
frontier when it has none. -/
def extensionFailure (cause : Failure) : Failure :=
  ⟨if cause.code = "" then "ROOT_FRONTIER_UNAVAILABLE" else cause.code,
    "current note tree cannot be extended: " ++ cause.message⟩

/-- Recompute the extension of the CURRENT tree by the two recorded outputs. -/
def verifiedTreeExtension (db : Database) (contextId : FieldElement) (proofReceiptId : String) :
    Except Failure TreeExtension := do
  let base ← require (db.currentTree contextId)
    ⟨"ROOT_FRONTIER_UNAVAILABLE", "the context has no verifiable CURRENT note tree to extend"⟩
  let outputs := db.outputsOf proofReceiptId contextId
  throwIf (outputs.map (·.outputIndex) ≠ [0, 1])
    ⟨"ZK_OUTPUTS_UNAVAILABLE", "verified proof receipt does not have exactly two recorded outputs"⟩
  let next ← rethrow extensionFailure
    (appendMerkleLeaves poseidon3 base.treeSize base.frontier (some (toText base.root))
      ((outputLeaves poseidon3 outputs).map toText))
  pure { base, next }

structure ProposeRequest where
  transactionId : String
  tenantId : String
  outputMerkleRoot : String
  /-- `Number(outputTreeSize)` when it is an integer. -/
  outputTreeSize : Option Int
  rootSourceReference : String
  executionReference : String
  proposedBy : String

/-- The largest integer that a JavaScript number counts exactly. -/
def maxSafeInteger : Int := 2 ^ 53 - 1

def assertBoundedLabel (label value : String) : Except Failure Unit :=
  throwIf (¬js_text.Bounded value 500)
    ⟨"INVALID_ROOT_PUBLICATION", label ++ " must be a bounded non-empty string"⟩

/-- Propose the extension of the current tree by the outputs of a transaction
that awaits its root. -/
def proposeFinalization (request : ProposeRequest) (uuid : String) (db : Database) :
    Except Failure (FinalizationProposal × Database) := do
  assertRequestScope request.transactionId request.tenantId
  let normalizedRoot ← rethrow
    (fun _ => ⟨"INVALID_ROOT_PUBLICATION", "output Merkle root is not a canonical field element"⟩)
    (normalizeFieldElement request.outputMerkleRoot "outputMerkleRoot")
  assertBoundedLabel "rootSourceReference" request.rootSourceReference
  assertBoundedLabel "executionReference" request.executionReference
  assertBoundedLabel "proposedBy" request.proposedBy
  let treeSize ← require (request.outputTreeSize.filter fun size => 2 ≤ size && size ≤ maxSafeInteger)
    ⟨"INVALID_ROOT_PUBLICATION", "output tree size must be a safe integer of at least two"⟩
  let (transaction, product) ← require
    ((db.findTransaction request.transactionId).filter (·.1.tenantId = request.tenantId))
    ⟨"INVALID_ZK_TRANSACTION_STATE", "transaction is not awaiting authoritative root finality"⟩
  let settlement ← require
    ((db.settlements.find? (·.transactionId = request.transactionId)).filter (·.finalityStatus = .rootPending))
    ⟨"INVALID_ZK_TRANSACTION_STATE", "transaction is not awaiting authoritative root finality"⟩
  throwIf (transaction.currentState ≠ .rootPending ∨ transaction.settlementRail ≠ .confidentialNote)
    ⟨"INVALID_ZK_TRANSACTION_STATE", "transaction is not awaiting authoritative root finality"⟩
  throwIf (product.status ≠ .active) ⟨"PRODUCT_NOT_ACTIVE", "product is not active for root finality"⟩
  let extension ← verifiedTreeExtension poseidon3 db settlement.contextId settlement.proofReceiptId
  throwIf (extension.next.root ≠ toText normalizedRoot ∨ (extension.next.treeSize : Int) ≠ treeSize)
    ⟨"ROOT_PUBLICATION_MISMATCH",
      "published root or tree size does not equal the server-computed extension of the current note tree"⟩
  let proposal : FinalizationProposal :=
    { id := "zk-finality:" ++ request.transactionId ++ ":" ++ uuid
      transactionId := request.transactionId
      tenantId := request.tenantId
      outputMerkleRoot := normalizedRoot
      outputTreeSize := treeSize.toNat
      baseMerkleRoot := extension.base.root
      baseTreeSize := extension.base.treeSize
      rootSourceReference := request.rootSourceReference
      executionReference := request.executionReference
      status := .pending
      proposedBy := request.proposedBy
      approvedBy := none
      cancelledBy := none
      cancelReason := none }
  let next ← rethrow
    (onUniqueViolation
      ⟨"ROOT_FINALIZATION_ALREADY_PROPOSED", "transaction already has a live finalization proposal"⟩)
    (db.insertFinalization proposal)
  pure (proposal, next)

/-- The pending proposal of a transaction. -/
def Database.pendingFinalization (db : Database) (transactionId tenantId : String) : Option FinalizationProposal :=
  single (db.finalizations.filter fun proposal =>
    proposal.transactionId = transactionId && proposal.tenantId = tenantId && proposal.status = .pending)

def cancelProposal (db : Database) (proposalId cancelledBy reason : String) : Database :=
  db.updateFinalization proposalId fun proposal =>
    { proposal with status := .cancelled, cancelledBy := some cancelledBy, cancelReason := some reason }

structure CancelRequest where
  transactionId : String
  tenantId : String
  cancelledBy : String
  reason : String

def assertCancellationLabel (label value : String) : Except Failure Unit :=
  throwIf (js_text.length (js_text.trim value) < 3 ∨ 1000 < js_text.length value)
    ⟨"INVALID_FINALIZATION_CANCELLATION", label ++ " must be a bounded non-empty string"⟩

/-- Withdraw the pending proposal of a transaction. -/
def cancelFinalization (request : CancelRequest) (db : Database) : Except Failure (String × Database) := do
  assertRequestScope request.transactionId request.tenantId
  assertCancellationLabel "cancelledBy" request.cancelledBy
  assertCancellationLabel "reason" request.reason
  let (transaction, _) ← require
    ((db.findTransaction request.transactionId).filter (·.1.tenantId = request.tenantId))
    ⟨"ROOT_FINALIZATION_NOT_PENDING", "transaction has no pending finalization proposal"⟩
  let proposal ← require (db.pendingFinalization transaction.id request.tenantId)
    ⟨"ROOT_FINALIZATION_NOT_PENDING", "transaction has no pending finalization proposal"⟩
  pure (proposal.id, cancelProposal db proposal.id request.cancelledBy request.reason)

structure FinalizeRequest where
  transactionId : String
  tenantId : String
  finalizedBy : String

/-- What the finalization transaction commits. -/
inductive FinalizeOutcome
  | stale (proposalId : String) (expected : TreeExtension)
  | settled (proofReceiptId : String) (contextId outputMerkleRoot : FieldElement) (outputTreeSize : Nat)
deriving DecidableEq

/-- The transaction that publishes the outputs of a proposal. A proposal made
against a superseded base is cancelled instead. -/
def finalizeTransaction (request : FinalizeRequest) (clockTimestamp : Int) (db : Database) :
    Except Failure (FinalizeOutcome × Database) := do
  assertRequestScope request.transactionId request.tenantId
  assertBoundedLabel "finalizedBy" request.finalizedBy
  let (transaction, product) ← require
    ((db.findTransaction request.transactionId).filter (·.1.tenantId = request.tenantId))
    ⟨"UNKNOWN_ZK_TRANSACTION", "root-pending transaction is unavailable in this tenant"⟩
  let settlement ← require (db.settlements.find? (·.transactionId = request.transactionId))
    ⟨"UNKNOWN_ZK_TRANSACTION", "root-pending transaction is unavailable in this tenant"⟩
  let proposal ← require (db.pendingFinalization request.transactionId request.tenantId)
    ⟨"UNKNOWN_ZK_TRANSACTION", "root-pending transaction is unavailable in this tenant"⟩
  throwIf (transaction.currentState ≠ .rootPending ∨ transaction.settlementRail ≠ .confidentialNote ∨
      settlement.finalityStatus ≠ .rootPending)
    ⟨"INVALID_ZK_TRANSACTION_STATE", "transaction is not awaiting authoritative root finality"⟩
  throwIf (product.status ≠ .active) ⟨"PRODUCT_NOT_ACTIVE", "product is not active for root finality"⟩
  throwIf (proposal.proposedBy = request.finalizedBy)
    ⟨"MAKER_CHECKER_SEPARATION_REQUIRED", "finality proposer cannot approve the same transaction"⟩
  let extension ← verifiedTreeExtension poseidon3 db settlement.contextId settlement.proofReceiptId
  if extension.base.root ≠ proposal.baseMerkleRoot ∨ extension.base.treeSize ≠ proposal.baseTreeSize then
    pure (.stale proposal.id extension,
      cancelProposal db proposal.id "system:stale-base-root"
        "the note tree advanced after this proposal was made; re-propose against the current root")
  else do
    throwIf (extension.next.root ≠ toText proposal.outputMerkleRoot ∨
        extension.next.treeSize ≠ proposal.outputTreeSize)
      ⟨"ROOT_PUBLICATION_MISMATCH", "approved proposal no longer equals the server-computed tree extension"⟩
    -- the superseded root stays acceptable for one hour
    let db := db.supersedeRoots settlement.contextId (clockTimestamp + 3600000)
    let db ← db.insertRoot
      { contextId := settlement.contextId
        merkleRoot := proposal.outputMerkleRoot
        treeSize := proposal.outputTreeSize
        frontier := some extension.next.frontier
        status := .current
        expiresAt := none
        sourceReference := proposal.rootSourceReference }
    let db := db.updateFinalization proposal.id fun row =>
      { row with status := .approved, approvedBy := some request.finalizedBy }
    let db ← db.finalizeSettlement request.transactionId
      { outputMerkleRoot := proposal.outputMerkleRoot
        outputTreeSize := proposal.outputTreeSize
        rootSourceReference := proposal.rootSourceReference
        executionReference := proposal.executionReference
        finalizedBy := request.finalizedBy }
    let db ← db.transitionTransaction request.transactionId .settled
    pure (.settled settlement.proofReceiptId settlement.contextId proposal.outputMerkleRoot proposal.outputTreeSize, db)

end rwa.gate
