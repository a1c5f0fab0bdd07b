import RwaControlPlane.Gate.Finality

open checked rwa.security rwa.merkle

namespace rwa.gate

/-- The governance service: its tenant, the pinned adapter and the canonical
digest of a payload. -/
structure ZkGovernanceService (Proof : Type) where
  tenantId : String
  adapter : Groth16JoinSplitProofAdapter Proof
  payloadHash : ParameterPayload → String

section Governance

variable {Proof : Type} (service : ZkGovernanceService Proof)

def governanceBounded (value label : String) (max : Nat) : Except Failure Unit :=
  throwIf (js_text.length (js_text.trim value) < 1 ∨ max < js_text.length value)
    ⟨"INVALID_ZK_PARAMETER_PROPOSAL", label ++ " must be a bounded non-empty string"⟩

/-- The artifact that this runtime has pinned. -/
def circuitPayload : ParameterPayload :=
  .circuitActivation service.adapter.circuitId service.adapter.circuitVersion service.adapter.verificationKeyHash
    service.adapter.manifestHash joinSplitPublicSignalOrder

/-- A context proposed for a product. -/
structure ContextInput where
  productId : String
  contextId : String
  assetType : String

def contextPayload (input : ContextInput) : Except Failure ParameterPayload := do
  governanceBounded input.productId "productId" 200
  let contextId ← rethrow (fun cause => ⟨"INVALID_ZK_PARAMETER_PROPOSAL", cause.message⟩)
    (normalizeFieldElement input.contextId "contextId")
  let assetType ← rethrow (fun cause => ⟨"INVALID_ZK_PARAMETER_PROPOSAL", cause.message⟩)
    (normalizeFieldElement input.assetType "assetType")
  throwIf (contextId = 0 ∨ 2 ^ 32 ≤ assetType.val)
    ⟨"INVALID_ZK_PARAMETER_PROPOSAL", "contextId must be non-zero and assetType must fit in 32 bits"⟩
  pure (.productContext input.productId contextId assetType service.adapter.circuitId service.adapter.circuitVersion)

/-- A payload can only be approved while what it introduces does not exist. -/
def assertAvailable (db : Database) : ParameterPayload → Except Failure Unit
  | .circuitActivation circuitId circuitVersion _ _ _ =>
    throwIf (db.findCircuit circuitId circuitVersion ≠ none)
      ⟨"ZK_CIRCUIT_ALREADY_REGISTERED", "this circuit version is already registered"⟩
  | .productContext productId contextId _ circuitId circuitVersion => do
    throwIf (¬∃ product ∈ db.reference.products, product.id = productId ∧
        db.tenantHasProduct productId service.tenantId = true)
      ⟨"UNKNOWN_PRODUCT", "product not found for tenant"⟩
    throwIf (¬∃ circuit, db.findCircuit circuitId circuitVersion = some circuit ∧ circuit.status = .active)
      ⟨"UNAPPROVED_PROOF_CIRCUIT", "the pinned circuit must be activated first"⟩
    throwIf (∃ context ∈ db.contexts, context.productId = productId ∧ context.retired = false)
      ⟨"ZK_CONTEXT_ALREADY_ACTIVE",
        "product already has an active context; context rotation requires a note migration design"⟩
    throwIf ((∃ context ∈ db.contexts, context.contextId = contextId) ∨
        ∃ root ∈ db.roots, root.contextId = contextId)
      ⟨"ZK_CONTEXT_ID_REUSED", "contextId has been used before and cannot be reused"⟩

/-- What a maker asks for. -/
inductive ParameterRequest
  | circuitActivation
  | productContext (input : ContextInput)

def requestPayload : ParameterRequest → Except Failure ParameterPayload
  | .circuitActivation => pure (circuitPayload service)
  | .productContext input => contextPayload service input

/-- Whether a pending proposal is equivalent to a payload. -/
def samePending (payload : ParameterPayload) (row : ParameterProposal) : Bool :=
  row.status = .pending &&
    match payload, row.payload with
    | .circuitActivation .., .circuitActivation .. => true
    | .productContext productId .., .productContext other .. => productId = other
    | _, _ => false

def proposeParameters (tenantId : String) (request : ParameterRequest) (proposedBy uuid : String) (db : Database) :
    Except Failure (String × Database) := do
  throwIf (tenantId ≠ service.tenantId) ⟨"TENANT_SCOPE_MISMATCH", "proposal is outside this runtime tenant"⟩
  governanceBounded proposedBy "proposedBy" 200
  let payload ← requestPayload service request
  assertAvailable service db payload
  throwIf (∃ row ∈ db.parameterProposals, row.tenantId = tenantId ∧ samePending payload row = true)
    ⟨"ZK_PARAMETER_PROPOSAL_PENDING", "an equivalent proposal is already pending"⟩
  let id := "zk-parameters:" ++ uuid
  throwIf (id ∈ db.parameterProposals.map (·.id)) uniqueViolation
  let row : ParameterProposal :=
    { id, tenantId, payload, payloadHash := service.payloadHash payload, status := .pending, proposedBy,
      decidedBy := none, decisionReason := none }
  pure (id, { db with parameterProposals := db.parameterProposals ++ [row] })

/-- Apply an approved payload. A product context starts with the root of the
empty tree. -/
def applyPayload (poseidon3 : FieldElement → FieldElement → FieldElement → FieldElement) (proposalId : String)
    (db : Database) : ParameterPayload → Except Failure Database
  | .circuitActivation circuitId circuitVersion verificationKeyHash artifactManifestHash publicSignalOrder =>
    pure
      { db with
        reference :=
          { db.reference with
            circuits := db.reference.circuits ++
              [{ circuitId, circuitVersion, verificationKeyHash, artifactManifestHash, publicSignalOrder,
                 status := .active }] } }
  | .productContext productId contextId assetType circuitId circuitVersion => do
    let db ← db.insertContext { productId, circuitId, circuitVersion, contextId, assetType, retired := false }
    let genesis := emptyMerkleTreeState poseidon3
    db.insertRoot
      { contextId
        merkleRoot := merkleZeros poseidon3 merkleTreeDepth
        treeSize := genesis.treeSize
        frontier := some genesis.frontier
        status := .current
        expiresAt := none
        sourceReference := "genesis:" ++ proposalId }

inductive Decision
  | approve | reject
deriving DecidableEq

structure DecideRequest where
  tenantId : String
  proposalId : String
  decision : Decision
  reason : String
  decidedBy : String

def decidedStatus : Decision → ParameterStatus
  | .approve => .approved
  | .reject => .rejected

/-- An approved circuit must still be the pinned artifact. -/
def assertPinnedArtifact (proposal : ParameterProposal) : Except Failure Unit :=
  match proposal.payload with
  | .circuitActivation .. =>
    throwIf (service.payloadHash (circuitPayload service) ≠ proposal.payloadHash)
      ⟨"ZK_ARTIFACT_CHANGED", "the runtime's pinned artifact no longer matches this proposal"⟩
  | .productContext .. => pure ()

/-- Apply a decision to what its proposal asks for. -/
def applyDecision (poseidon3 : FieldElement → FieldElement → FieldElement → FieldElement) (db : Database)
    (proposal : ParameterProposal) : Decision → Except Failure Database
  | .approve => do
    assertPinnedArtifact service proposal
    assertAvailable service db proposal.payload
    applyPayload poseidon3 proposal.id db proposal.payload
  | .reject => pure db

/-- A decided proposal. Its payload tells its kind. -/
structure DecidedProposal where
  proposalId : String
  payload : ParameterPayload
  status : ParameterStatus
deriving DecidableEq

/-- Decide a pending proposal. -/
def decideParameters (poseidon3 : FieldElement → FieldElement → FieldElement → FieldElement) (request : DecideRequest)
    (db : Database) : Except Failure (DecidedProposal × Database) := do
  throwIf (request.tenantId ≠ service.tenantId)
    ⟨"TENANT_SCOPE_MISMATCH", "proposal is outside this runtime tenant"⟩
  governanceBounded request.proposalId "proposalId" 200
  governanceBounded request.decidedBy "decidedBy" 200
  governanceBounded request.reason "reason" 1000
  let proposal ← require
    (db.parameterProposals.find? fun row =>
      row.id = request.proposalId && row.tenantId = request.tenantId && row.status = .pending)
    ⟨"ZK_PARAMETER_PROPOSAL_NOT_PENDING", "proposal is not pending"⟩
  throwIf (proposal.proposedBy = request.decidedBy)
    ⟨"MAKER_CHECKER_CONFLICT", "ZK parameter maker and checker must differ"⟩
  throwIf (service.payloadHash proposal.payload ≠ proposal.payloadHash)
    ⟨"ZK_PARAMETER_PROPOSAL_INTEGRITY_FAILURE", "stored proposal does not match its digest"⟩
  let db ← applyDecision service poseidon3 db proposal request.decision
  let status := decidedStatus request.decision
  pure ({ proposalId := request.proposalId, payload := proposal.payload, status },
    { db with
      parameterProposals := db.parameterProposals.map fun row =>
        if row.id = request.proposalId then
          { row with status, decidedBy := some request.decidedBy, decisionReason := some request.reason }
        else row })

end Governance

end rwa.gate
