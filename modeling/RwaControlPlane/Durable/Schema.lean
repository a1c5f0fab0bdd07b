import RwaControlPlane.ControlPlane.System
import RwaControlPlane.Storage.Transactions

open checked
open rwa.gate (TransactionType TransactionState SettlementRail ProductStatus CredentialStatus)
open rwa.control_plane (FiniteRules EvidencePayload CaseStatus Decision SettlementMode)
open rwa.storage (TransactionIntent TransactionTables)

namespace rwa.durable

/-- `institutions` -/
structure Institution where
  id : String
  publicKeyPem : String
deriving DecidableEq

/-- `products` -/
structure Product where
  id : String
  issuerId : String
  currency : String
  status : ProductStatus
  ruleVersion : Nat
  rules : FiniteRules

/-- `product_role_assignments` that have not ended. -/
structure RoleAssignment where
  productId : String
  role : String
  institutionId : String
deriving DecidableEq

inductive EvidenceStatus
  | active | revoked
deriving DecidableEq

/-- `evidence_envelopes` -/
structure Evidence where
  id : String
  productId : String
  dataType : String
  effectiveAt : Int
  expiresAt : Int
  payload : EvidencePayload
  status : EvidenceStatus

/-- `credentials` -/
structure Credential where
  id : String
  productId : String
  subjectRef : String
  investorClass : String
  jurisdiction : String
  maxUnits : Int
  validFrom : Int
  validUntil : Int
  status : CredentialStatus
deriving DecidableEq

inductive AccountType
  | investor | issuer | treasury | cashClearing | fee
deriving DecidableEq

def AccountType.text : AccountType → String
  | investor => "INVESTOR"
  | issuer => "ISSUER"
  | treasury => "TREASURY"
  | cashClearing => "CASH_CLEARING"
  | fee => "FEE"

/-- `ledger_accounts` and `register_accounts` -/
structure Account where
  id : String
  productId : String
  ownerRef : String
  assetCode : String
  accountType : AccountType
deriving DecidableEq

/-- `ledger_entries` and `register_entries` -/
structure Entry where
  accountId : String
  assetCode : String
  signedDelta : Int
deriving DecidableEq

/-- `ledger_batches` and `register_batches` with their entries. Every batch is
POSTED by the transaction that inserts it. -/
structure Batch where
  id : String
  transactionId : Option String
  entries : List Entry
deriving DecidableEq

/-- `transaction_receipts` -/
structure Receipt where
  transactionId : String
  productId : String
  type : TransactionType
  state : TransactionState
  settledAt : Option String
  navEvidenceId : String
  ruleVersion : Nat
  settlementMode : SettlementMode
  lifecycle : List TransactionState
  proofSystem : String
  exceptionCaseId : Option String
  reasonCode : Option String
deriving DecidableEq

inductive CashState
  | confirmed | released
deriving DecidableEq

/-- `cash_confirmations` -/
structure CashConfirmation where
  transactionId : String
  sourceInstitutionId : String
  state : CashState
  externalReference : String
deriving DecidableEq

/-- `transaction_economic_commitments` -/
structure EconomicCommitment where
  transactionId : String
  commitmentVersion : String
  keyId : String
  assetCode : String
  currency : String
  unitsCommitment : String
  cashAmountCommitment : String
  feeAmountCommitment : String
deriving DecidableEq

/-- `exception_cases` -/
structure ExceptionCase where
  id : String
  transactionId : String
  productId : String
  status : CaseStatus
  failureStage : TransactionState
  reasonCode : String
  approvalRound : Nat
  replacementTransactionId : Option String
deriving DecidableEq

inductive ApprovalRole
  | maker | checker
deriving DecidableEq

inductive ApprovalDecision
  | retry | cancel | approve | reject
deriving DecidableEq

/-- `approval_records` -/
structure ApprovalRecord where
  exceptionId : String
  approvalRound : Nat
  role : ApprovalRole
  actorRef : String
  decision : ApprovalDecision
  proposedReplacementTransactionId : Option String
deriving DecidableEq

structure Database where
  institutions : List Institution
  products : List Product
  roleAssignments : List RoleAssignment
  evidence : List Evidence
  credentials : List Credential
  ledgerAccounts : List Account
  ledgerBatches : List Batch
  registerAccounts : List Account
  registerBatches : List Batch
  transactions : TransactionTables
  receipts : List Receipt
  cashConfirmations : List CashConfirmation
  commitments : List EconomicCommitment
  exceptionCases : List ExceptionCase
  approvals : List ApprovalRecord

def Database.empty : Database where
  institutions := []
  products := []
  roleAssignments := []
  evidence := []
  credentials := []
  ledgerAccounts := []
  ledgerBatches := []
  registerAccounts := []
  registerBatches := []
  transactions := TransactionTables.empty
  receipts := []
  cashConfirmations := []
  commitments := []
  exceptionCases := []
  approvals := []

/-- A request: an object whose members are texts. -/
structure Request where
  members : List (String × String)
  distinct : (members.map Prod.fst).Nodup
deriving DecidableEq

namespace Request

/-- A member, or nothing where it is undefined. -/
def get (request : Request) (key : String) : Option String :=
  (request.members.find? fun member => member.1 = key).map Prod.snd

/-- A member as a template writes it. -/
def text (request : Request) (key : String) : String := (request.get key).getD "undefined"

def assign (key value : String) : List (String × String) → List (String × String)
  | [] => [(key, value)]
  | member :: rest => if member.1 = key then (key, value) :: rest else member :: assign key value rest

theorem mem_keys_assign {key value other : String} {members : List (String × String)}
    (h : other ∈ (assign key value members).map Prod.fst) : other = key ∨ other ∈ members.map Prod.fst := by
  induction members with
  | nil => simpa [assign] using h
  | cons member rest ih =>
    by_cases hkey : member.1 = key
    · rw [assign, if_pos hkey] at h
      rcases List.mem_cons.mp h with rfl | hrest
      · exact Or.inl rfl
      · exact Or.inr (List.mem_cons_of_mem _ hrest)
    · rw [assign, if_neg hkey] at h
      rcases List.mem_cons.mp h with rfl | hrest
      · exact Or.inr List.mem_cons_self
      · exact (ih hrest).imp_right (List.mem_cons_of_mem _)

theorem nodup_assign {key value : String} {members : List (String × String)} (h : (members.map Prod.fst).Nodup) :
    ((assign key value members).map Prod.fst).Nodup := by
  induction members with
  | nil => simp [assign]
  | cons member rest ih =>
    rw [List.map_cons, List.nodup_cons] at h
    by_cases hkey : member.1 = key
    · rw [assign, if_pos hkey, List.map_cons, List.nodup_cons]
      exact ⟨hkey ▸ h.1, h.2⟩
    · rw [assign, if_neg hkey, List.map_cons, List.nodup_cons]
      exact ⟨fun hmem => (mem_keys_assign hmem).elim hkey h.1, ih h.2⟩

/-- The request with one member set. -/
def set (request : Request) (key value : String) : Request where
  members := assign key value request.members
  distinct := nodup_assign request.distinct

end Request

/-- The context that a payload is encrypted under. -/
structure CipherContext where
  tenantId : String
  transactionId : String
  productId : String
  transactionType : TransactionType
deriving DecidableEq

structure EconomicCommitter where
  version : String
  keyId : String
  commit (transactionId productId field : String) (value : Int) : Except Failure String

/-- The workflow service with what it takes from its platform. -/
structure DurableWorkflowService where
  tenantId : String
  sha256 : String → String
  numberText : Rat → String
  dateTime : String → Option Int
  isoText : Int → String
  timestamptz : String → Option Int
  numeric : String → Option Int
  encrypt : Request → CipherContext → Except Failure String
  decrypt : String → CipherContext → Except Failure Request
  economicCommitter : Option EconomicCommitter

end rwa.durable
