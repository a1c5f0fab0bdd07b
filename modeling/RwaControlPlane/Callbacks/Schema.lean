import RwaControlPlane.Catalog.Inputs
import RwaControlPlane.Durable.Schema
import RwaControlPlane.Storage.Canonical

open checked js_value
open rwa.gate (TransactionIntent)
open rwa.storage (Platform)
open rwa.catalog (Institution SigningKey RoleAssignment)
open rwa.durable (EconomicCommitment)

namespace rwa.callbacks

inductive Channel
  | register | cash | custody
deriving DecidableEq

namespace Channel

def text : Channel → String
  | register => "REGISTER"
  | cash => "CASH"
  | custody => "CUSTODY"

/-- `CHANNEL_ROLE` -/
def role : Channel → String
  | register => "transfer_agent"
  | cash => "cash_provider"
  | custody => "custodian"

def subjectType : Channel → String
  | custody => "POSITION"
  | register | cash => "TRANSACTION"

def evidenceType : Channel → String
  | register => "legal_register"
  | cash => "cash_state"
  | custody => "custody_balance"

def ofText (text : String) : Option Channel := [register, cash, custody].find? (·.text = text)

end Channel

inductive Outcome
  | confirmed | rejected | permanentFailure
deriving DecidableEq

namespace Outcome

def text : Outcome → String
  | confirmed => "CONFIRMED"
  | rejected => "REJECTED"
  | permanentFailure => "PERMANENT_FAILURE"

def ofText (text : String) : Option Outcome := [confirmed, rejected, permanentFailure].find? (·.text = text)

end Outcome

/-- The callbacks of an institution for a product on a channel are one stream. -/
structure Stream where
  tenantId : String
  institutionId : String
  productId : String
  channel : Channel
deriving DecidableEq

/-- The payload of a callback, with what is read of its members. -/
structure Payload where
  members : List (String × JsValue)
  subjectRef : String
  outcome : Outcome
  details : List (String × JsValue)

/-- `callback_stream_positions` -/
structure StreamPosition where
  stream : Stream
  nextSequence : Nat

/-- `callback_receipts` -/
structure CallbackReceipt where
  callbackId : String
  stream : Stream
  streamSequence : Nat
  eventType : String
  occurredAt : Int
  expiresAt : Int
  payload : Payload
  payloadHash : String
  envelopeHash : String
  signature : String
  signingKeyId : String

/-- `callback_applications`. A callback that is buffered has no outcome yet. -/
structure CallbackApplication where
  callbackId : String
  outcome : Option Outcome

/-- `callback_effects` -/
structure CallbackEffect where
  callbackId : String
  subjectRef : String
  outcome : Outcome
  details : List (String × JsValue)

/-- `callback_evidence_records` -/
structure CallbackEvidence where
  callbackId : String
  evidenceId : String
  productId : String
  evidenceType : String
  sourceInstitutionId : String
  subjectType : String
  subjectRef : String
  payload : List (String × JsValue)
  payloadHash : String
  sourceSignature : String
  effectiveAt : Int
  expiresAt : Int

/-- `reconciliation_status` with `mismatch_reason`, as they are written. -/
inductive Reconciliation
  | notApplicable
  | fullyMatched
  | mismatch (reason : String)
deriving DecidableEq

/-- `external_callback_confirmations` -/
structure Confirmation where
  callbackId : String
  transactionId : Option String
  productId : String
  channel : Channel
  outcome : Outcome
  reconciliation : Reconciliation
  evidenceId : String
  createdAt : Int
deriving DecidableEq

/-- `external_reconciliation_incidents` -/
structure Incident where
  id : String
  callbackId : String
  transactionId : Option String
  tenantId : String
  productId : String
  channel : Channel
  severity : String
  reasonCode : String
deriving DecidableEq

structure Tables where
  positions : List StreamPosition
  receipts : List CallbackReceipt
  applications : List CallbackApplication
  effects : List CallbackEffect
  evidence : List CallbackEvidence
  confirmations : List Confirmation
  incidents : List Incident

def Tables.empty : Tables := ⟨[], [], [], [], [], [], []⟩

/-- What callbacks read of `products`. -/
structure Product where
  id : String
  currency : String
deriving DecidableEq

/-- The tables that other services write. -/
structure Registry where
  institutions : List Institution
  roleAssignments : List RoleAssignment
  signingKeys : List SigningKey
  products : List Product
  transactions : List TransactionIntent
  commitments : List EconomicCommitment
deriving DecidableEq

/-- What a commitment is made to. -/
structure CommitmentContext where
  tenantId : String
  transactionId : String
  productId : String
  field : String
  value : String
deriving DecidableEq

/-- The callback service, with what it takes from its platform: the signature
library, the reading of times in the runtime (`dateTime`) and in the database
(`timestamptz`), the text of a date (`dateText`), and the economic committer with its keys. -/
structure CallbackService where
  platform : Platform
  asymmetricKeyType : String → Option String
  verify (message publicKeyPem signature : String) : Bool
  decoyPublicKey : String
  dateTime : String → Option Int
  timestamptz : String → Option Int
  dateText : Int → String
  matchesCommitment : Option (CommitmentContext → String → String → Except Failure Bool)
  tenantId : String
  maxClockSkewMs : Int
  maxValidityMs : Int

end rwa.callbacks
