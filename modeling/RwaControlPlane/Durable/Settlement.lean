import RwaControlPlane.Durable.Ledger
import RwaControlPlane.Library.JsCanonical
import RwaControlPlane.Storage.Canonical

open checked
open rwa.gate (TransactionType TransactionState uniqueViolation)
open rwa.control_plane (SettlementMode toBigInt typeError)
open rwa.storage (TransactionIntent IsHash)

namespace rwa.durable

variable (service : DurableWorkflowService)

/-- `BigInt` of a member that may be missing. -/
def toInteger (value : Option String) : Except Failure Int := do
  let text ← require value (typeError "Cannot convert undefined to a BigInt")
  toBigInt text

def positive (value : Option String) (field : String) : Except Failure Int := do
  let parsed ← toInteger value
  throwIf (parsed ≤ 0) ⟨"INVALID_AMOUNT", field ++ " must be positive"⟩
  pure parsed

/-- Later effect first. -/
def newerEvidence (first second : Evidence) : Prop := second.effectiveAt ≤ first.effectiveAt

instance : DecidableRel newerEvidence := fun first second =>
  inferInstanceAs (Decidable (second.effectiveAt ≤ first.effectiveAt))

/-- The NAV of a product: of the active ones in effect that have not expired, the
one in effect last. Rows of one time are answered in the order of the table. -/
def Database.currentNav (db : Database) (productId : String) (now : Int) : Option Evidence :=
  ((db.evidence.filter fun row => row.productId = productId && row.dataType = "nav" && row.status = .active &&
    row.effectiveAt ≤ now && now < row.expiresAt).insertionSort newerEvidence).head?

/-- The credential of a party, after all checks on it. -/
def assertCredential (db : Database) (product : Product) (subjectRef credentialId : Option String)
    (additionalUnits : Int) (allowRestrictedExit : Bool) (now : Int) : Except Failure Credential := do
  let credential ← require
    (db.credentials.find? fun row => some row.id = credentialId && row.productId = product.id)
    ⟨"UNKNOWN_CREDENTIAL", "credential not found"⟩
  throwIf (some credential.subjectRef ≠ subjectRef) ⟨"CREDENTIAL_SUBJECT", "credential subject mismatch"⟩
  throwIf (¬(credential.validFrom ≤ now ∧ now < credential.validUntil)) ⟨"CREDENTIAL_TIME", "credential not active"⟩
  throwIf (¬(credential.status = .active ∨ (allowRestrictedExit = true ∧ credential.status = .restrictedExit)))
    ⟨"CREDENTIAL_REVOKED", "credential is restricted"⟩
  throwIf (credential.investorClass ∉ product.rules.allowedInvestorClasses)
    ⟨"INVESTOR_CLASS", "investor class not allowed"⟩
  throwIf (credential.jurisdiction ∉ product.rules.allowedJurisdictions)
    ⟨"INVESTOR_JURISDICTION", "jurisdiction not allowed"⟩
  throwIf (0 < additionalUnits ∧ credential.maxUnits < additionalUnits + accountBalance db.registerBatches
      (registerAccountId product.id credential.subjectRef (unitAssetOf product.id) .investor))
    ⟨"HOLDING_LIMIT", "holding limit exceeded"⟩
  pure credential

/-- What a settlement will post. -/
structure SettlementPlan where
  units : Int
  cashAmount : Int
  settlementMode : SettlementMode
  ledgerEntries : List Entry
  registerEntries : List Entry

/-- Units that move from one register account to another, in the ledger and in
the register. -/
def unitEntries (accountId : String → String → String → AccountType → String) (productId : String)
    (source : String) (sourceType : AccountType) (target : String) (targetType : AccountType) (units : Int) :
    List Entry :=
  [⟨accountId productId source (unitAssetOf productId) sourceType, unitAssetOf productId, -units⟩,
    ⟨accountId productId target (unitAssetOf productId) targetType, unitAssetOf productId, units⟩]

def planSubscribe (db : Database) (product : Product) (request : Request) (units navPrice now : Int) :
    Except Failure SettlementPlan := do
  let _ ← assertCredential db product (request.get "investorId") (request.get "credentialId") units false now
  let cashAmount ← positive (request.get "cashAmount") "cashAmount"
  throwIf (cashAmount ≠ units * navPrice)
    ⟨"PRICE_MISMATCH", "subscription amount does not match current NAV"⟩
  let currency := product.rules.currency
  let investor := request.text "investorId"
  let investorCash := ledgerAccountId product.id investor currency .investor
  throwIf (accountBalance db.ledgerBatches investorCash < cashAmount) ⟨"INSUFFICIENT_CASH", "insufficient cash"⟩
  pure
    { units, cashAmount, settlementMode := .standard
      ledgerEntries :=
        [⟨investorCash, currency, -cashAmount⟩,
          ⟨ledgerAccountId product.id product.issuerId currency .issuer, currency, cashAmount⟩] ++
        unitEntries ledgerAccountId product.id "TREASURY" .treasury investor .investor units
      registerEntries := unitEntries registerAccountId product.id "TREASURY" .treasury investor .investor units }

def planTransfer (db : Database) (product : Product) (request : Request) (units navPrice now : Int) :
    Except Failure SettlementPlan := do
  throwIf (¬((request.get "expiresAt").bind service.dateTime).any fun expiry => now < expiry)
    ⟨"TRANSACTION_EXPIRED", "transaction intent expired"⟩
  throwIf (request.get "sellerId" = request.get "buyerId") ⟨"SELF_TRANSFER", "seller and buyer must differ"⟩
  let _ ← assertCredential db product (request.get "sellerId") (request.get "sellerCredentialId") 0 false now
  let _ ← assertCredential db product (request.get "buyerId") (request.get "buyerCredentialId") units false now
  let price ← positive (request.get "pricePerUnit") "pricePerUnit"
  let fee ← toBigInt ((request.get "fee").getD "0")
  throwIf (fee < 0) ⟨"INVALID_AMOUNT", "fee must be non-negative"⟩
  let deviation := if navPrice < price then price - navPrice else navPrice - price
  throwIf (navPrice * product.rules.maxPriceDeviationBps.num < deviation * 10000)
    ⟨"PRICE_DEVIATION", "price exceeds NAV band"⟩
  let cashAmount := units * price
  let currency := product.rules.currency
  let seller := request.text "sellerId"
  let buyer := request.text "buyerId"
  let sellerUnit := ledgerAccountId product.id seller (unitAssetOf product.id) .investor
  let buyerCash := ledgerAccountId product.id buyer currency .investor
  throwIf (accountBalance db.ledgerBatches sellerUnit < units) ⟨"INSUFFICIENT_ASSET", "seller units insufficient"⟩
  throwIf (accountBalance db.ledgerBatches buyerCash < cashAmount + fee)
    ⟨"INSUFFICIENT_CASH", "buyer cash insufficient"⟩
  pure
    { units, cashAmount, settlementMode := .standard
      ledgerEntries :=
        [⟨buyerCash, currency, -(cashAmount + fee)⟩,
          ⟨ledgerAccountId product.id seller currency .investor, currency, cashAmount⟩] ++
        (if fee = 0 then [] else [⟨ledgerAccountId product.id product.issuerId currency .fee, currency, fee⟩]) ++
        unitEntries ledgerAccountId product.id seller .investor buyer .investor units
      registerEntries := unitEntries registerAccountId product.id seller .investor buyer .investor units }

def planRedeem (db : Database) (product : Product) (request : Request) (units navPrice now : Int) :
    Except Failure SettlementPlan := do
  let credential ← assertCredential db product (request.get "investorId") (request.get "credentialId") 0 true now
  let cashAmount := units * navPrice
  let currency := product.rules.currency
  let investor := request.text "investorId"
  let investorUnit := ledgerAccountId product.id investor (unitAssetOf product.id) .investor
  let issuerCash := ledgerAccountId product.id product.issuerId currency .issuer
  throwIf (accountBalance db.ledgerBatches investorUnit < units)
    ⟨"INSUFFICIENT_ASSET", "investor units insufficient"⟩
  throwIf (accountBalance db.ledgerBatches issuerCash < cashAmount)
    ⟨"INSUFFICIENT_REDEMPTION_CASH", "issuer cash insufficient"⟩
  pure
    { units, cashAmount
      settlementMode := if credential.status = .restrictedExit then .restrictedExit else .standard
      ledgerEntries :=
        [⟨issuerCash, currency, -cashAmount⟩,
          ⟨ledgerAccountId product.id investor currency .investor, currency, cashAmount⟩] ++
        unitEntries ledgerAccountId product.id investor .investor "TREASURY" .treasury units
      registerEntries := unitEntries registerAccountId product.id investor .investor "TREASURY" .treasury units }

def plan (db : Database) (type : TransactionType) (product : Product) (request : Request) (units navPrice now : Int) :
    Except Failure SettlementPlan :=
  match type with
  | .subscribe => planSubscribe db product request units navPrice now
  | .transfer => planTransfer service db product request units navPrice now
  | .redeem => planRedeem db product request units navPrice now

/-- The checks of a settlement, up to its entries. -/
def checkSettlement (db : Database) (type : TransactionType) (request : Request) (now : Int) :
    Except Failure (Product × Evidence × SettlementPlan) := do
  let product ← require
    (db.products.find? fun row => some row.id = request.get "productId" && row.status = .active)
    ⟨"PRODUCT_NOT_ACTIVE", "product is not active"⟩
  let nav ← require (db.currentNav product.id now) ⟨"MISSING_EVIDENCE", "current NAV evidence is missing"⟩
  throwIf (nav.payload.currency ≠ some product.currency)
    ⟨"EVIDENCE_CURRENCY", "NAV currency does not match product"⟩
  let units ← positive (request.get "units") "units"
  let navPrice ← toInteger nav.payload.navPerUnit
  let plan ← plan service db type product request units navPrice now
  pure (product, nav, plan)

/-- The hash of a value. -/
def sha256Canonical (value : js_value.JsValue) : Except Failure String :=
  match js_value.canonicalize service.numberText value with
  | .ok (some text) => .ok (service.sha256 text)
  | .ok none => .error (typeError "The data argument must be of type string")
  | .error message => .error (typeError message)

/-- The hash that binds an idempotency key to a request. The text of a request is
never undefined. -/
def requestHash (request : Request) : String :=
  match js_value.canonicalize service.numberText (js_value.texts request.members) with
  | .ok (some text) => service.sha256 text
  | _ => ""

def policySnapshotHash (product : Product) (nav : Evidence) : Except Failure String :=
  sha256Canonical service (.object [("ruleVersion", .number product.ruleVersion),
    ("rules", product.rules.value), ("navEvidenceId", .string nav.id)])

/-- The institution of a role that has not ended. -/
def Database.assigned (db : Database) (productId role : String) : List String :=
  (db.roleAssignments.filter fun row => row.productId = productId && row.role = role).map (·.institutionId)

/-- The row of a new transaction. -/
def newIntent (db : Database) (type : TransactionType) (request : Request) (product : Product) (nav : Evidence) :
    Except Failure TransactionIntent := do
  let policySnapshotHash ← policySnapshotHash service product nav
  let id ← require (request.get "id") ⟨"23502", "null value in column id violates not-null constraint"⟩
  let idempotencyKey ← require (request.get "idempotencyKey")
    ⟨"23502", "null value in column idempotency_key violates not-null constraint"⟩
  let ciphertext ← service.encrypt request ⟨service.tenantId, id, product.id, type⟩
  pure
    { id, tenantId := service.tenantId, productId := product.id, idempotencyKey
      requestHash := requestHash service request, transactionType := type, currentState := .requested
      ruleVersion := product.ruleVersion, navEvidenceId := some nav.id, policySnapshotHash
      privatePayloadCiphertext := ciphertext, settlementRail := .registered
      originatingInstitutionId := (db.assigned product.id "distributor").head? }

def economicCommitment (committer : EconomicCommitter) (type : TransactionType) (transactionId : String)
    (product : Product) (request : Request) (plan : SettlementPlan) : Except Failure EconomicCommitment := do
  let feeAmount ← if type = .transfer then toBigInt ((request.get "fee").getD "0") else pure 0
  let unitsCommitment ← committer.commit transactionId product.id "units" plan.units
  let cashAmountCommitment ← committer.commit transactionId product.id "cashAmountMinor" plan.cashAmount
  let feeAmountCommitment ← committer.commit transactionId product.id "feeAmountMinor" feeAmount
  pure
    { transactionId, commitmentVersion := committer.version, keyId := committer.keyId
      assetCode := unitAssetOf product.id, currency := product.currency
      unitsCommitment, cashAmountCommitment, feeAmountCommitment }

def checkViolation : Failure := ⟨"23514", "new row violates check constraint"⟩

/-- Three capital letters. -/
def IsCurrency (text : String) : Prop :=
  text.toList.length = 3 ∧ ∀ char ∈ text.toList, 'A' ≤ char ∧ char ≤ 'Z'

instance (text : String) : Decidable (IsCurrency text) :=
  @instDecidableAnd _ _ _ (List.decidableBAll _ text.toList)

namespace Database

/-- Move a transaction through states. -/
def transitionThrough (db : Database) (transactionId : String) (actorRef : String) :
    List TransactionState → Except Failure Database
  | [] => pure db
  | toState :: rest => do
    let transactions ← db.transactions.transitionTransaction transactionId toState none (some actorRef)
    transitionThrough { db with transactions } transactionId actorRef rest

def transitionTransaction (db : Database) (transactionId : String) (toState : TransactionState)
    (reasonCode : Option String) (actorRef : String) : Except Failure Database := do
  let transactions ← db.transactions.transitionTransaction transactionId toState reasonCode (some actorRef)
  pure { db with transactions }

/-- The checks of `transaction_economic_commitments` come before its key. -/
def insertCommitment (db : Database) (row : EconomicCommitment) : Except Failure Database := do
  throwIf (¬(row.commitmentVersion = "HMAC-SHA256-v1" ∧ IsCurrency row.currency ∧ IsHash row.unitsCommitment ∧
    IsHash row.cashAmountCommitment ∧ IsHash row.feeAmountCommitment)) checkViolation
  throwIf (row.transactionId ∈ db.commitments.map (·.transactionId)) uniqueViolation
  pure { db with commitments := db.commitments ++ [row] }

def insertCashConfirmation (db : Database) (row : CashConfirmation) : Except Failure Database := do
  throwIf (row.transactionId ∈ db.cashConfirmations.map (·.transactionId)) uniqueViolation
  pure { db with cashConfirmations := db.cashConfirmations ++ [row] }

def insertExceptionCase (db : Database) (row : ExceptionCase) : Except Failure Database := do
  throwIf (row.id ∈ db.exceptionCases.map (·.id)) uniqueViolation
  throwIf (row.transactionId ∈ db.exceptionCases.map (·.transactionId)) uniqueViolation
  pure { db with exceptionCases := db.exceptionCases ++ [row] }

def storeReceipt (db : Database) (receipt : Receipt) : Except Failure Database := do
  throwIf (receipt.transactionId ∈ db.receipts.map (·.transactionId)) uniqueViolation
  pure { db with receipts := db.receipts ++ [receipt] }

def receiptOf (db : Database) (transactionId : String) : Option Receipt :=
  db.receipts.find? (·.transactionId = transactionId)

end Database

/-- The states of a settlement, and the actor that moves it through them. -/
def settledLifecycle : List TransactionState := [.policyChecked, .cashReserved, .registerPending]

def sandboxWorkflow : String := "sandbox-workflow"

def exceptionCaseId (transactionId : String) : String := "case-" ++ transactionId

/-- The only cash provider of a product. -/
def cashProvider (db : Database) (productId : String) : Except Failure String :=
  require (single (db.assigned productId "cash_provider")) ⟨"MISSING_ROLE", "cash provider assignment is missing"⟩

/-- The registration of a transfer fails: nothing is posted, and an exception case
is opened. -/
def openException (db : Database) (transactionId : String) (type : TransactionType) (product : Product)
    (nav : Evidence) : Except Failure (Receipt × Database) := do
  let db ← db.transitionThrough transactionId sandboxWorkflow [.policyChecked, .cashReserved]
  let provider ← cashProvider db product.id
  let db ← db.insertCashConfirmation ⟨transactionId, provider, .released, "sandbox-released:" ++ transactionId⟩
  let db ← db.transitionTransaction transactionId .requiresReview (some "REGISTER_TIMEOUT") sandboxWorkflow
  let db ← db.insertExceptionCase
    { id := exceptionCaseId transactionId, transactionId, productId := product.id, status := .opened
      failureStage := .registerPending, reasonCode := "REGISTER_TIMEOUT", approvalRound := 0
      replacementTransactionId := none }
  let receipt : Receipt :=
    { transactionId, productId := product.id, type, state := .requiresReview, settledAt := none
      navEvidenceId := nav.id, ruleVersion := product.ruleVersion, settlementMode := .exceptionReview
      lifecycle := [.requested, .policyChecked, .cashReserved, .requiresReview]
      proofSystem := "SANDBOX_NO_ZK_PROOF", exceptionCaseId := some (exceptionCaseId transactionId)
      reasonCode := some "REGISTER_TIMEOUT" }
  let db ← db.storeReceipt receipt
  pure (receipt, db)

/-- Post the entries of a plan and settle the transaction. -/
def postSettlement (db : Database) (transactionId : String) (type : TransactionType) (product : Product)
    (nav : Evidence) (plan : SettlementPlan) (now : Int) : Except Failure (Receipt × Database) := do
  let db ← db.transitionThrough transactionId sandboxWorkflow settledLifecycle
  let db ← db.appendLedgerBatch ("ledger:" ++ transactionId) (some transactionId) plan.ledgerEntries
  let db ← db.appendRegisterBatch ("register:" ++ transactionId) (some transactionId) (unitAssetOf product.id)
    plan.registerEntries
  let provider ← cashProvider db product.id
  let db ← db.insertCashConfirmation ⟨transactionId, provider, .confirmed, "sandbox:" ++ transactionId⟩
  let db ← db.transitionTransaction transactionId .settled none sandboxWorkflow
  let receipt : Receipt :=
    { transactionId, productId := product.id, type, state := .settled, settledAt := some (service.isoText now)
      navEvidenceId := nav.id, ruleVersion := product.ruleVersion, settlementMode := plan.settlementMode
      lifecycle := [.requested, .policyChecked, .cashReserved, .registerPending, .settled]
      proofSystem := "SANDBOX_NO_ZK_PROOF", exceptionCaseId := none, reasonCode := none }
  let db ← db.storeReceipt receipt
  pure (receipt, db)

/-- The transaction that has used the key of a request, with its receipt. -/
def Database.replay (db : Database) (request : Request) : Option TransactionIntent :=
  (request.get "idempotencyKey").bind fun key => db.transactions.findKey service.tenantId key

/-- The settlement transaction. A key that was used is answered before any
check. -/
def settleInTransaction (type : TransactionType) (request : Request) (registerFailure : Bool) (now : Int)
    (db : Database) : Except Failure (Receipt × Database) :=
  match db.replay service request with
  | some existing => do
    throwIf (existing.requestHash ≠ requestHash service request)
      ⟨"IDEMPOTENCY_CONFLICT", "idempotency key reused for a different request"⟩
    let receipt ← require (db.receiptOf existing.id)
      ⟨"IDEMPOTENCY_IN_FLIGHT", "transaction receipt is not available"⟩
    pure (receipt, db)
  | none => do
    let (product, nav, plan) ← checkSettlement service db type request now
    let intent ← newIntent service db type request product nav
    let (created, row, transactions) ← db.transactions.createTransactionIntent intent (some sandboxWorkflow)
    let db := { db with transactions }
    if created = false then
      let receipt ← require (db.receiptOf row.id)
        ⟨"IDEMPOTENCY_IN_FLIGHT", "transaction receipt is not available"⟩
      pure (receipt, db)
    else
      let committer ← require service.economicCommitter
        ⟨"ECONOMIC_COMMITTER_REQUIRED", "economic commitment service is required"⟩
      let commitment ← economicCommitment committer type intent.id product request plan
      let db ← db.insertCommitment commitment
      if registerFailure = true then openException db intent.id type product nav
      else postSettlement service db intent.id type product nav plan now

end rwa.durable
