import RwaControlPlane.Failure
import RwaControlPlane.Library.Attempt
import RwaControlPlane.Library.JsMap
import RwaControlPlane.Library.JsText
import RwaControlPlane.Library.JsValue

open attempt js_map js_value

namespace rwa.control_plane

/-- What the control plane takes from its platform: hashing, signatures, texts of
numbers and times, and what the n-th call of the random source returns. -/
structure Platform where
  sha256 : String → String
  numberText : Rat → String
  verify (message publicKeyPem signature : String) : Bool
  dateTime : String → Option Int
  isoText : Int → String
  randomHex : Nat → String

structure Institution where
  id : String
  roles : List String
  publicKeyPem : String
deriving DecidableEq

/-- Rules in which no value contains itself. Values other than the checked ones are
in `extra`. -/
structure FiniteRules where
  currency : String
  allowedInvestorClasses : List String
  allowedJurisdictions : List String
  maxPriceDeviationBps : Rat
  extra : List (String × JsValue)

/-- Rules of a product. `structuredClone` also copies values that contain themselves.
If there are any, `cycle` is what `canonicalize` throws on the rules. -/
structure ProductRules extends FiniteRules where
  cycle : Option String

inductive ProductStatus where
  | draft
  | active
  | paused
deriving DecidableEq

structure Product where
  id : String
  name : String
  jurisdiction : String
  issuerId : String
  roleAssignments : List (String × String)
  rules : ProductRules
  ruleVersion : Nat
  status : ProductStatus
  createdAt : String

structure Credential where
  id : String
  issuerId : String
  subjectId : String
  productId : String
  investorClass : String
  jurisdiction : String
  maxUnits : String
  validFrom : String
  validUntil : String
  signature : String
  extra : List (String × JsValue)

inductive CredentialStatus where
  | unknown
  | pending
  | active
  | expired
  | restrictedExit
  | frozen
deriving DecidableEq

structure CredentialRestriction where
  status : CredentialStatus
  reason : String
  effectiveAt : String
deriving DecidableEq

/-- Payload of an evidence envelope. Only a NAV is read. -/
structure EvidencePayload where
  navPerUnit : Option String
  currency : Option String
  extra : List (String × JsValue)

inductive EvidenceStatus where
  | active
deriving DecidableEq

structure Evidence where
  id : String
  productId : String
  dataType : String
  sourceInstitutionId : String
  trustTier : String
  effectiveAt : String
  expiresAt : String
  schemaVersion : String
  payload : EvidencePayload
  signature : String
  issuerId : Option String
  extra : List (String × JsValue)

/-- An accepted envelope. -/
structure StoredEvidence extends Evidence where
  status : EvidenceStatus

inductive TransactionType where
  | subscribe
  | transfer
  | redeem
deriving DecidableEq

/-- States of a transaction and the labels of its lifecycle. -/
inductive TransactionState where
  | requested
  | policyChecked
  | cashReserved
  | registerPending
  | registerFailed
  | requiresReview
  | settled
  | reviewProposed
  | pendingApproval
  | reviewApproved
  | cancelled
  | retryBlocked
  | replaced
deriving DecidableEq

inductive SettlementMode where
  | standard
  | restrictedExit
  | exceptionReview
deriving DecidableEq

structure Transition where
  state : TransactionState
  time : String
deriving DecidableEq

/-- Policy under which a transaction was checked. -/
structure PolicySnapshot where
  ruleVersion : Nat
  navEvidenceId : String
  navEffectiveAt : String
  navExpiresAt : String
  navSchemaVersion : String
  policySnapshotHash : String
deriving DecidableEq

structure Transaction where
  id : String
  type : TransactionType
  productId : String
  sellerId : Option String
  buyerId : Option String
  units : Int
  pricePerUnit : Option Int
  cashAmount : Int
  fee : Option Int
  expiresAt : Option String
  policy : PolicySnapshot
  settlementMode : SettlementMode
  state : TransactionState
  settledAt : Option String
  lifecycle : List Transition
  sandboxCommitment : String
deriving DecidableEq

inductive CashState where
  | confirmed
  | released
deriving DecidableEq

structure CashSettlement where
  transactionId : String
  productId : String
  state : CashState
  confirmedAt : String
deriving DecidableEq

/-- Maker's decision on an exception case. -/
inductive Decision where
  | retry
  | cancel
  | other (text : String)
deriving DecidableEq

structure Proposal where
  decision : Decision
  replacementTransactionId : Option String
  makerId : String
  proposedAt : String
deriving DecidableEq

inductive CaseStatus where
  | opened
  | pendingApproval
  | resolvedRetried
  | resolvedCancelled
deriving DecidableEq

/-- Terms that a retry of a failed transfer uses again. -/
structure RetryPayload where
  productId : String
  sellerId : String
  sellerCredentialId : String
  buyerId : String
  buyerCredentialId : String
  units : String
  pricePerUnit : String
  fee : String
  expiresAt : String
deriving DecidableEq

structure ExceptionCase where
  id : String
  productId : String
  transactionId : String
  status : CaseStatus
  failureStage : TransactionState
  reasonCode : String
  assignedRole : String
  openedAt : String
  resolvedAt : Option String
  replacementTransactionId : Option String
  checkedBy : Option String
  proposal : Option Proposal
  retryPayload : RetryPayload
deriving DecidableEq

structure Receipt where
  transactionId : String
  productId : String
  type : TransactionType
  state : TransactionState
  settledAt : Option String
  navEvidenceId : String
  ruleVersion : Nat
  settlementMode : SettlementMode
  lifecycle : List TransactionState
  evidencePackageHash : String
  sandboxCommitment : String
  proofSystem : String
  exceptionCaseId : Option String
  reasonCode : Option String
deriving DecidableEq

structure IdempotencyRecord where
  fingerprint : String
  result : Receipt
deriving DecidableEq

/-- What the audit log records. -/
inductive Event where
  | institutionRegistered (institutionId : String) (roles : List String)
  | productCreated (productId issuerId : String) (ruleVersion : Nat)
  | productActivated (productId : String) (ruleVersion : Nat)
  | productPaused (productId reason : String)
  | credentialRegistered (credentialId productId subjectId : String)
  | credentialRestricted (credentialId reason : String) (status : CredentialStatus)
  | evidenceAccepted (evidenceId productId dataType : String)
  | cashCredited (accountId currency amount : String)
  | transactionStateChanged (transactionId productId : String) (type : TransactionType) (state : TransactionState)
  | transactionRejected (transactionId productId : String) (type : TransactionType) (reasonCode : String)
  | cashConfirmed (transactionId productId : String)
  | cashReleased (transactionId productId : String)
  | subscriptionSettled (transactionId productId : String)
  | transferSettled (transactionId productId : String)
  | redemptionSettled (transactionId productId : String) (mode : SettlementMode)
  | exceptionOpened (productId transactionId reasonCode : String)
  | exceptionProposed (productId transactionId : String)
  | exceptionRetryBlocked (productId transactionId reasonCode : String)
  | exceptionResolved (productId transactionId : String) (state : CaseStatus)
deriving DecidableEq

structure LoggedEvent where
  sequence : Nat
  time : String
  event : Event
deriving DecidableEq

/-- The maps that operations change. -/
structure Tables where
  institutions : JsMap String Institution
  products : JsMap String Product
  credentials : JsMap String Credential
  credentialRestrictions : JsMap String CredentialRestriction
  evidence : JsMap String StoredEvidence
  transactions : JsMap String Transaction
  cashSettlements : JsMap String CashSettlement
  exceptionCases : JsMap String ExceptionCase
  idempotency : JsMap String IdempotencyRecord
  cashBalances : JsMap String Int
  assetBalances : JsMap String Int
  legalRegister : JsMap String Int

/-- A control plane: its maps, its event log, the time that `now` returns, and how
often it has called the random source. -/
structure ControlPlane extends Tables where
  events : List LoggedEvent
  clock : Int
  randomCalls : Nat

def ControlPlane.start : ControlPlane where
  institutions := empty
  products := empty
  credentials := empty
  credentialRestrictions := empty
  evidence := empty
  transactions := empty
  cashSettlements := empty
  exceptionCases := empty
  idempotency := empty
  cashBalances := empty
  assetBalances := empty
  legalRegister := empty
  events := []
  clock := 0
  randomCalls := 0

/-- A step of the control plane. An error does not undo what was written before
it. -/
abbrev Step (α : Type) := Attempt Failure ControlPlane α

end rwa.control_plane
