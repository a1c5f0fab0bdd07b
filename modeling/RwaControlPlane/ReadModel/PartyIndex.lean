import Mathlib.Data.Prod.Lex
import Mathlib.Data.String.Basic
import RwaControlPlane.Library.JsObject
import RwaControlPlane.Library.JsonText
import RwaControlPlane.Library.JsText
import RwaControlPlane.Library.Paging
import RwaControlPlane.Library.Visits
import RwaControlPlane.Storage.Canonical
import RwaControlPlane.Storage.Transactions

open checked js_value
open rwa.gate (TransactionType TransactionState SettlementRail uniqueViolation)
open rwa.storage (Platform TransactionIntent TransactionTables typeError checkViolation sha256Canonical IsHash)

namespace rwa.read_model

/-- What the code takes from the language: the texts of numbers, and their reading. -/
structure Runtime extends Platform where
  readNumber : String → Option Rat

/-- A type as it is stored. -/
def typeText : TransactionType → String
  | .subscribe => "SUBSCRIBE"
  | .transfer => "TRANSFER"
  | .redeem => "REDEEM"

/-- The context that a payload is encrypted under. -/
structure CipherContext where
  tenantId : String
  transactionId : String
  productId : String
  transactionType : TransactionType
deriving DecidableEq

/-- Authenticated encryption of texts under associated data. -/
structure PayloadCipher where
  schema : String
  encipher (plaintext aad : String) : String
  decipher (envelope aad : String) : Except Failure String

/-- A committer computes the MAC under the key that its key id names, when its key
is available. -/
structure EconomicCommitter (mac : String → String → String) where
  keyId : String
  generateMac (message : String) : Except Failure String
  computes : ∀ message result, generateMac message = .ok result → result = mac keyId message

/-- `intent.partyIndex` -/
structure PartyIndex where
  keyId : String
  macs : List String

/-- `transaction_party_index` -/
structure PartyIndexRow where
  transactionId : String
  tenantId : String
  productId : String
  partyMac : String
deriving DecidableEq

/-- The columns of `transaction_intents` that order the transactions of a product
and say how their parties are indexed. -/
structure IndexColumns where
  transactionId : String
  createdAt : Int
  partyIndexKeyId : Option String
deriving DecidableEq

/-- `transaction_receipts` -/
structure ReceiptRow where
  transactionId : String
  receipt : JsValue

structure Tables where
  transactions : TransactionTables
  columns : List IndexColumns
  partyIndex : List PartyIndexRow
  receipts : List ReceiptRow

def Tables.empty : Tables := ⟨TransactionTables.empty, [], [], []⟩

section Texts

variable (runtime : Runtime)

/-- The canonical text that is sealed or authenticated. -/
def canonicalText (value : JsValue) : Except Failure String := do
  let text ← rethrow typeError (canonicalize runtime.numberText value)
  require text (typeError "The first argument must be of type string")

/-- The associated data of a payload. -/
def associatedData (schema : String) (context : CipherContext) : Except Failure String :=
  canonicalText runtime (texts [("schema", schema), ("tenantId", context.tenantId),
    ("transactionId", context.transactionId), ("productId", context.productId),
    ("transactionType", typeText context.transactionType)])

def PayloadCipher.encrypt (cipher : PayloadCipher) (value : JsValue) (context : CipherContext) :
    Except Failure String := do
  let aad ← associatedData runtime cipher.schema context
  let plaintext ← canonicalText runtime value
  pure (cipher.encipher plaintext aad)

def PayloadCipher.decrypt (cipher : PayloadCipher) (envelope : String) (context : CipherContext) :
    Except Failure JsValue := do
  let aad ← associatedData runtime cipher.schema context
  let plaintext ← cipher.decipher envelope aad
  require (jsonParse runtime.readNumber plaintext)
    ⟨"CIPHERTEXT_AUTHENTICATION_FAILED", "private payload authentication failed"⟩

variable {mac : String → String → String}

/-- The text that a committer authenticates. -/
def economicMessage (tenantId : String) (transactionId : JsValue) (productId field value : String) :
    Except Failure String :=
  canonicalText runtime (.object [("domain", .string "rwa.economic-commitment.v1"), ("tenantId", .string tenantId),
    ("transactionId", transactionId), ("productId", .string productId), ("field", .string field),
    ("value", .string value)])

def EconomicCommitter.commit (committer : EconomicCommitter mac) (tenantId : String) (transactionId : JsValue)
    (productId field value : String) : Except Failure String := do
  let message ← economicMessage runtime tenantId transactionId productId field value
  committer.generateMac message

/-- The pseudonym of an investor in the transactions of a product. -/
def partyIndexMac (committer : EconomicCommitter mac) (tenantId productId partyRef : String) : Except Failure String :=
  committer.commit runtime tenantId .null productId "party-index-v1" partyRef

def partyRefFields : List String := ["investorId", "buyerId", "sellerId"]

/-- The distinct parties that a request names by non-empty texts. -/
def partyRefs (request : JsValue) : List String :=
  ((partyRefFields.filterMap fun field => (property request field).bind asText).filter (· ≠ "")).dedup

/-- What is indexed for a request. Nothing is without a committer. -/
def partyIndexFor (committer : Option (EconomicCommitter mac)) (tenantId productId : String) (request : JsValue) :
    Except Failure (Option PartyIndex) :=
  match committer with
  | none => .ok none
  | some committer => do
    let macs ← (partyRefs request).mapM (partyIndexMac runtime committer tenantId productId)
    pure (some ⟨committer.keyId, macs⟩)

end Texts

namespace Tables

variable (tables : Tables)

/-- `INSERT INTO transaction_party_index … ON CONFLICT DO NOTHING` -/
def insertPartyMac (intent : TransactionIntent) (rows : List PartyIndexRow) (partyMac : String) :
    Except Failure (List PartyIndexRow) := do
  throwIf (¬IsHash partyMac) checkViolation
  if ∃ row ∈ rows, row.transactionId = intent.id ∧ row.partyMac = partyMac then pure rows
  else pure (rows ++ [⟨intent.id, intent.tenantId, intent.productId, partyMac⟩])

/-- Insert a transaction with its index rows, or return the one that has used its
idempotency key. -/
def createTransactionIntent (intent : TransactionIntent) (partyIndex : Option PartyIndex) (actorRef : Option String)
    (createdAt : Int) : Except Failure (Bool × TransactionIntent × Tables) := do
  let (created, row, transactions) ← tables.transactions.createTransactionIntent intent actorRef
  if created then
    let rows ← ((partyIndex.map (·.macs)).getD []).foldlM (insertPartyMac row) tables.partyIndex
    pure (true, row,
      { tables with
        transactions
        columns := tables.columns ++ [⟨row.id, createdAt, partyIndex.map (·.keyId)⟩]
        partyIndex := rows })
  else pure (false, row, tables)

def transitionTransaction (transactionId : String) (toState : TransactionState) (reasonCode actorRef : Option String) :
    Except Failure Tables := do
  let transactions ← tables.transactions.transitionTransaction transactionId toState reasonCode actorRef
  pure { tables with transactions }

def storeReceipt (row : ReceiptRow) : Except Failure Tables := do
  throwIf (row.transactionId ∈ tables.receipts.map (·.transactionId)) uniqueViolation
  pure { tables with receipts := tables.receipts ++ [row] }

def columnsOf (transactionId : String) : Option IndexColumns :=
  tables.columns.find? (·.transactionId = transactionId)

/-- `ORDER BY created_at,id` -/
def position (row : TransactionIntent) : Int ×ₗ String :=
  toLex (((tables.columnsOf row.id).map (·.createdAt)).getD 0, row.id)

/-- The transactions of a product, oldest first. -/
def productTransactions (tenantId productId : String) : List TransactionIntent :=
  paging.inOrder tables.position
    (tables.transactions.intents.filter fun row => row.tenantId = tenantId && row.productId = productId)

end Tables

/-- A settlement of the workflow service, as far as it creates its transaction. The
request is an object, and its texts name the transaction. -/
structure Settlement (mac : String → String → String) where
  payloadCipher : PayloadCipher
  economicCommitter : Option (EconomicCommitter mac)
  tenantId : String
  productId : String
  id : String
  idempotencyKey : String
  transactionType : TransactionType
  request : List (String × JsValue)
  ruleVersion : Nat
  navEvidenceId : String
  policySnapshotHash : String
  originatingInstitutionId : Option String

section Write

variable (runtime : Runtime) {mac : String → String → String}

/-- The transaction of a settlement and what is indexed for it. -/
def Settlement.intent (settlement : Settlement mac) : Except Failure (TransactionIntent × Option PartyIndex) := do
  let request := JsValue.object settlement.request
  let privatePayloadCiphertext ← settlement.payloadCipher.encrypt runtime request
    ⟨settlement.tenantId, settlement.id, settlement.productId, settlement.transactionType⟩
  let partyIndex ← partyIndexFor runtime settlement.economicCommitter settlement.tenantId settlement.productId request
  let requestHash ← sha256Canonical runtime.toPlatform request
  pure
    ({ id := settlement.id, tenantId := settlement.tenantId, productId := settlement.productId
       idempotencyKey := settlement.idempotencyKey, requestHash
       transactionType := settlement.transactionType, currentState := .requested
       ruleVersion := settlement.ruleVersion, navEvidenceId := some settlement.navEvidenceId
       policySnapshotHash := settlement.policySnapshotHash, privatePayloadCiphertext
       settlementRail := .registered
       originatingInstitutionId := settlement.originatingInstitutionId }, partyIndex)

/-- What is written to the tables that the investor view reads. -/
inductive Action (mac : String → String → String)
  | settle (settlement : Settlement mac) (createdAt : Int)
  /-- The confidential rail creates transactions without an index, as every service
  did before there was one. -/
  | createUnindexed (intent : TransactionIntent) (actorRef : Option String) (createdAt : Int)
  | transitionTransaction (transactionId : String) (toState : TransactionState) (reasonCode actorRef : Option String)
  | storeReceipt (row : ReceiptRow)

def sandboxWorkflow : String := "sandbox-workflow"

def execute (tables : Tables) : Action mac → Except Failure (Unit × Tables)
  | .settle settlement createdAt => do
    let (intent, partyIndex) ← settlement.intent runtime
    let (_, _, next) ← tables.createTransactionIntent intent partyIndex (some sandboxWorkflow) createdAt
    pure ((), next)
  | .createUnindexed intent actorRef createdAt => do
    let (_, _, next) ← tables.createTransactionIntent intent none actorRef createdAt
    pure ((), next)
  | .transitionTransaction transactionId toState reasonCode actorRef => do
    let next ← tables.transitionTransaction transactionId toState reasonCode actorRef
    pure ((), next)
  | .storeReceipt row => do
    let next ← tables.storeReceipt row
    pure ((), next)

def step (tables : Tables) (action : Action mac) : Tables := (commit tables (execute runtime · action)).2

end Write

/-- The read model with what it takes from its platform. -/
structure PostgresReadModel (mac : String → String → String) where
  payloadCipher : PayloadCipher
  tenantId : String
  economicCommitter : Option (EconomicCommitter mac)

/-- `VIEW_ROLES` -/
inductive Role
  | issuer | distributor | investor | broker | operations | supervisor
deriving DecidableEq

def denied (message : String) : Failure := ⟨"DISCLOSURE_DENIED", message⟩

/-- What is disclosed of a transaction. Its metadata are the columns of its row, and
the payload is left out for the roles that see metadata only. -/
structure Disclosed where
  transaction : TransactionIntent
  receipt : JsValue
  privatePayload : Option JsValue

/-- An item of `ownTransactions` -/
structure OwnTransaction where
  id : String
  type : TransactionType
  state : TransactionState
  units : JsValue
  cashAmount : JsValue
  fee : JsValue
  settlementMode : JsValue
  settledAt : JsValue

/-- `value ?? other` -/
def orElse (value other : JsValue) : JsValue :=
  match value with
  | .undefined | .null => other
  | value => value

/-- `value?.key` -/
def optionalMember (value : JsValue) (key : String) : JsValue := (property value key).getD .undefined

section Read

variable (runtime : Runtime)

/-- `BigInt(value)` -/
def toBigInt : JsValue → Except Failure Int
  | .undefined => .error (typeError "Cannot convert undefined to a BigInt")
  | .null => .error (typeError "Cannot convert null to a BigInt")
  | .bool value => .ok (if value then 1 else 0)
  | .number value =>
    if value.den = 1 then .ok value.num
    else .error (typeError "The number cannot be converted to a BigInt because it is not an integer")
  | .notFinite => .error (typeError "The number cannot be converted to a BigInt because it is not an integer")
  | .bigint value => .ok value
  | .date time => .ok time
  | value => require (js_text.bigInt (stringOf runtime.numberText invalidDate value))
      (typeError ("Cannot convert " ++ stringOf runtime.numberText invalidDate value ++ " to a BigInt"))

def member (value : JsValue) (key : String) : Except Failure JsValue :=
  require (property value key) (typeError ("Cannot read properties of null (reading '" ++ key ++ "')"))

/-- Whether the payload of a transaction names an investor as one of its parties. -/
def isParty (payload : JsValue) (actorRef : String) : Except Failure Bool := do
  let investorId ← member payload "investorId"
  let sellerId ← member payload "sellerId"
  let buyerId ← member payload "buyerId"
  pure (strictEquals investorId (.string actorRef) || strictEquals sellerId (.string actorRef) ||
    strictEquals buyerId (.string actorRef))

/-- The cash amount of a payload, or its units at their price. -/
def amountShown (units cashAmount pricePerUnit : JsValue) : Except Failure JsValue :=
  match cashAmount with
  | .undefined | .null =>
    if isTruthy pricePerUnit then do
      let count ← toBigInt runtime units
      let price ← toBigInt runtime pricePerUnit
      pure (.string (toString (count * price)))
    else pure .null
  | cashAmount => pure cashAmount

/-- What the investor view shows of a transaction. -/
def ownTransaction (row : TransactionIntent) (receipt payload : JsValue) : Except Failure OwnTransaction := do
  let units ← member payload "units"
  let cashAmount ← member payload "cashAmount"
  let pricePerUnit ← member payload "pricePerUnit"
  let fee ← member payload "fee"
  let amount ← amountShown runtime units cashAmount pricePerUnit
  pure
    { id := row.id, type := row.transactionType, state := row.currentState, units, cashAmount := amount
      fee := orElse fee (.string "0")
      settlementMode := orElse (optionalMember receipt "settlementMode") .null
      settledAt := orElse (optionalMember receipt "settledAt") .null }

variable {mac : String → String → String} (model : PostgresReadModel mac) (tables : Tables)

def Tables.receiptOf (transactionId : String) : JsValue :=
  ((tables.receipts.find? (·.transactionId = transactionId)).map (·.receipt)).getD .null

/-- The payload of a transaction, decrypted under the context of its row. -/
def decryptPayload (row : TransactionIntent) : Except Failure JsValue :=
  model.payloadCipher.decrypt runtime row.privatePayloadCiphertext
    ⟨row.tenantId, row.id, row.productId, row.transactionType⟩

def transactionForRole (transactionId : String) (role : Role) (actorRef : Option String) :
    Except Failure Disclosed := do
  let row ← require
    (single (tables.transactions.intents.filter fun row => row.id = transactionId && row.tenantId = model.tenantId))
    ⟨"UNKNOWN_TRANSACTION", "transaction not found"⟩
  let receipt := tables.receiptOf row.id
  match role with
  | .issuer | .operations | .supervisor => pure ⟨row, receipt, none⟩
  | .distributor => throw (denied "role cannot access transaction economics")
  | .broker => do
    let payload ← decryptPayload runtime model row
    pure ⟨row, receipt, some payload⟩
  | .investor => do
    let payload ← decryptPayload runtime model row
    let actor ← require (actorRef.filter (· ≠ "")) (denied "investor identity is required")
    let party ← isParty payload actor
    throwIf (¬party) (denied "investor is not a party to this transaction")
    pure ⟨row, receipt, some payload⟩

/-- Whether a transaction has to be decrypted: it has no index under the current
key, or the index has the pseudonym of the investor. -/
def Tables.isCandidate (keyId partyMac : String) (row : TransactionIntent) : Bool :=
  (tables.columnsOf row.id).bind (·.partyIndexKeyId) ≠ some keyId ||
    tables.partyIndex.any fun index => index.transactionId = row.id && index.tenantId = row.tenantId &&
      index.productId = row.productId && index.partyMac = partyMac

/-- The transactions that an investor may be a party to. -/
def investorCandidateTransactions (productId actorRef : String) : Except Failure (List String) :=
  match model.economicCommitter with
  | none => .ok ((tables.productTransactions model.tenantId productId).map (·.id))
  | some committer => do
    let partyMac ← partyIndexMac runtime committer model.tenantId productId actorRef
    pure ((paging.inOrder tables.position
      (tables.transactions.intents.filter fun row => row.tenantId = model.tenantId && row.productId = productId &&
        tables.isCandidate committer.keyId partyMac row)).map (·.id))

/-- What the investor view shows of a transaction of its own. -/
def discloseOwn (actorRef transactionId : String) : Except Failure OwnTransaction := do
  let disclosed ← transactionForRole runtime model tables transactionId .investor (some actorRef)
  ownTransaction runtime disclosed.transaction disclosed.receipt (disclosed.privatePayload.getD .undefined)

/-- `ownTransactions` of the investor view -/
def ownTransactions (productId actorRef : String) : Except Failure (List OwnTransaction) := do
  throwIf (actorRef = "") (denied "investor identity is required")
  let transactionIds ← investorCandidateTransactions runtime model tables productId actorRef
  visits.visitAll (discloseOwn runtime model tables actorRef) (·.code = "DISCLOSURE_DENIED") transactionIds

end Read

end rwa.read_model
