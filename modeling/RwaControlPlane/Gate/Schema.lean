import RwaControlPlane.Merkle.NoteTree
import RwaControlPlane.Security.PublicInputs

open checked rwa.security rwa.merkle

namespace rwa.gate

inductive TransactionType
  | subscribe | transfer | redeem
deriving DecidableEq

inductive SettlementRail
  | registered | confidentialNote
deriving DecidableEq

inductive TransactionState
  | requested | policyChecked | cashReserved | registerPending | proofPending | rootPending
  | requiresReview | pendingApproval | settled | replaced | cancelled | rejected
deriving DecidableEq

/-- The text of a state in the `current_state` column. -/
def TransactionState.text : TransactionState → String
  | requested => "REQUESTED"
  | policyChecked => "POLICY_CHECKED"
  | cashReserved => "CASH_RESERVED"
  | registerPending => "REGISTER_PENDING"
  | proofPending => "PROOF_PENDING"
  | rootPending => "ROOT_PENDING"
  | requiresReview => "REQUIRES_REVIEW"
  | pendingApproval => "PENDING_APPROVAL"
  | settled => "SETTLED"
  | replaced => "REPLACED"
  | cancelled => "CANCELLED"
  | rejected => "REJECTED"

/-- `transaction_intents` -/
structure TransactionIntent where
  id : String
  tenantId : String
  productId : String
  transactionType : TransactionType
  currentState : TransactionState
  requestHash : String
  settlementRail : SettlementRail
  originatingInstitutionId : Option String
deriving DecidableEq

inductive ProductStatus
  | draft | active | paused | closed
deriving DecidableEq

/-- Eligibility rules of a product. A rule list that is missing or is no array
is `none`. -/
structure ProductRules where
  allowedInvestorClasses : Option (List String)
  allowedJurisdictions : Option (List String)
deriving DecidableEq

/-- `products` -/
structure Product where
  id : String
  status : ProductStatus
  rules : ProductRules
deriving DecidableEq

inductive CircuitStatus
  | candidate | active | suspended | retired
deriving DecidableEq

/-- `proof_circuit_versions` -/
structure CircuitVersion where
  circuitId : String
  circuitVersion : String
  verificationKeyHash : String
  artifactManifestHash : String
  publicSignalOrder : List PublicSignal
  status : CircuitStatus
deriving DecidableEq

inductive CredentialStatus
  | active | restrictedExit | frozen | expired
deriving DecidableEq

/-- `credentials` -/
structure Credential where
  id : String
  productId : String
  subjectRef : String
  investorClass : String
  jurisdiction : String
  validFrom : Int
  validUntil : Int
  status : CredentialStatus
deriving DecidableEq

inductive OwnerKeyStatus
  | active | revoked
deriving DecidableEq

/-- `confidential_note_owner_keys` -/
structure NoteOwnerKey where
  productId : String
  ownerPublicKey : FieldElement
  subjectRef : String
  credentialId : String
  status : OwnerKeyStatus
deriving DecidableEq

/-- `ledger_accounts`, as far as the rail asks for a tenant's accounts. -/
structure LedgerAccountScope where
  productId : String
  tenantId : String
deriving DecidableEq

/-- The tables that the rail reads and that other services write. -/
structure ReferenceData where
  products : List Product
  circuits : List CircuitVersion
  credentials : List Credential
  ownerKeys : List NoteOwnerKey
  ledgerAccounts : List LedgerAccountScope
deriving DecidableEq

/-- `zk_product_contexts` -/
structure ProductContext where
  productId : String
  circuitId : String
  circuitVersion : String
  contextId : FieldElement
  assetType : FieldElement
  retired : Bool
deriving DecidableEq

/-- `zk_execution_instructions` -/
structure ExecutionInstruction where
  transactionId : String
  tenantId : String
  requestHash : String
  fee : FieldElement
  recipient : FieldElement
  relayer : FieldElement
  authorizedBy : String
  expiresAt : Int
  senderSubjectRef : String
  senderCredentialId : String
  recipientSubjectRef : String
  recipientCredentialId : String
deriving DecidableEq

/-- `zk_transaction_authorizations`. The row is VERIFIED exactly when it names
its proof receipt. -/
structure Authorization where
  transactionId : String
  tenantId : String
  circuitId : String
  circuitVersion : String
  publicInputs : JoinSplitPublicInputs FieldElement
  publicInputsHash : String
  authorizedBy : String
  proofReceiptId : Option String
deriving DecidableEq

inductive AuthorizationStatus
  | pending | verified
deriving DecidableEq

def Authorization.status (row : Authorization) : AuthorizationStatus :=
  if row.proofReceiptId.isNone then .pending else .verified

inductive RootStatus
  | current | historical | revoked
deriving DecidableEq

/-- `zk_merkle_roots` -/
structure MerkleRoot where
  contextId : FieldElement
  merkleRoot : FieldElement
  treeSize : Nat
  frontier : Option StoredFrontier
  status : RootStatus
  expiresAt : Option Int
  sourceReference : String
deriving DecidableEq

/-- `zk_proof_receipts`. A receipt is VERIFIED by its check constraint. -/
structure ProofReceipt where
  id : String
  transactionId : String
  tenantId : String
  circuitId : String
  circuitVersion : String
  contextId : FieldElement
  merkleRoot : FieldElement
  verificationKeyHash : String
  proofHash : String
  publicSignalsHash : String
deriving DecidableEq

/-- `zk_spent_nullifiers` -/
structure SpentNullifier where
  contextId : FieldElement
  nullifier : FieldElement
  proofReceiptId : String
deriving DecidableEq

/-- `zk_output_commitments` -/
structure OutputCommitment where
  proofReceiptId : String
  outputIndex : Fin 2
  contextId : FieldElement
  commitmentX : FieldElement
  commitmentY : FieldElement
deriving DecidableEq

/-- The columns of a settlement that are set together when it becomes FINAL. -/
structure Finality where
  outputMerkleRoot : FieldElement
  outputTreeSize : Nat
  rootSourceReference : String
  executionReference : String
  finalizedBy : String
deriving DecidableEq

/-- `zk_settlements`. The finality columns are all null while the settlement is
ROOT_PENDING. -/
structure Settlement where
  transactionId : String
  proofReceiptId : String
  tenantId : String
  productId : String
  contextId : FieldElement
  merkleRoot : FieldElement
  finality : Option Finality
deriving DecidableEq

inductive FinalityStatus
  | rootPending | final
deriving DecidableEq

def Settlement.finalityStatus (row : Settlement) : FinalityStatus :=
  if row.finality.isNone then .rootPending else .final

inductive ProposalStatus
  | pending | approved | cancelled
deriving DecidableEq

/-- `zk_finalization_proposals` -/
structure FinalizationProposal where
  id : String
  transactionId : String
  tenantId : String
  outputMerkleRoot : FieldElement
  outputTreeSize : Nat
  baseMerkleRoot : FieldElement
  baseTreeSize : Nat
  rootSourceReference : String
  executionReference : String
  status : ProposalStatus
  proposedBy : String
  approvedBy : Option String
  cancelledBy : Option String
  cancelReason : Option String
deriving DecidableEq

/-- The payload of a parameter proposal. -/
inductive ParameterPayload
  | circuitActivation (circuitId circuitVersion verificationKeyHash artifactManifestHash : String)
      (publicSignalOrder : List PublicSignal)
  | productContext (productId : String) (contextId assetType : FieldElement) (circuitId circuitVersion : String)
deriving DecidableEq

inductive ParameterStatus
  | pending | approved | rejected
deriving DecidableEq

/-- `zk_parameter_proposals` -/
structure ParameterProposal where
  id : String
  tenantId : String
  payload : ParameterPayload
  payloadHash : String
  status : ParameterStatus
  proposedBy : String
  decidedBy : Option String
  decisionReason : Option String
deriving DecidableEq

/-- The tables of the confidential rail. -/
structure Database where
  reference : ReferenceData
  transactions : List TransactionIntent
  contexts : List ProductContext
  instructions : List ExecutionInstruction
  authorizations : List Authorization
  roots : List MerkleRoot
  receipts : List ProofReceipt
  nullifiers : List SpentNullifier
  outputs : List OutputCommitment
  settlements : List Settlement
  finalizations : List FinalizationProposal
  parameterProposals : List ParameterProposal
deriving DecidableEq

end rwa.gate
