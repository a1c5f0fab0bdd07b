import RwaControlPlane.ControlPlane.Checks

open attempt js_map js_value

namespace rwa.control_plane

variable (platform : Platform)

/-- Append a state to a lifecycle and log it. -/
def transition (lifecycle : List Transition) (state : TransactionState) (id : String) (type : TransactionType)
    (productId : String) : Step (List Transition) := do
  let time ← now
  record platform (.transactionStateChanged id productId type state)
  return lifecycle ++ [⟨state, platform.isoText time⟩]

def rejected (id productId : String) (type : TransactionType) (failure : Failure) : Step Unit :=
  record platform (.transactionRejected id productId type
    (if failure.code = "" then "REQUEST_FAILED" else failure.code))

def runTransactionAttempt {α : Type} (id : String) (type : TransactionType) (productId : String)
    (operation : List Transition → Step α) : Step α := do
  let lifecycle ← transition platform [] .requested id type productId
  onFailure (operation lifecycle) (rejected platform id productId type)

/-- Run an operation once for an idempotency key. A later call with the same
fingerprint gets the stored result. -/
def idempotent (key : String) (request : JsValue) (operation : Step Receipt) : Step Receipt := do
  ensure (key ≠ "") ⟨"MISSING_IDEMPOTENCY_KEY", "idempotency key required"⟩
  let fingerprint ← lift (sha256Canonical platform request)
  let previous ← read (·.idempotency.get key)
  match previous with
  | some previous =>
    ensure (previous.fingerprint = fingerprint)
      ⟨"IDEMPOTENCY_CONFLICT", "idempotency key reused for different request"⟩
    return previous.result
  | none =>
    let result ← operation
    modify fun plane => { plane with idempotency := plane.idempotency.set key ⟨fingerprint, result⟩ }
    return result

def setUnits (ledger : UnitLedger) (balances : JsMap String Int) (plane : ControlPlane) : ControlPlane :=
  match ledger with
  | .assetBalances => { plane with assetBalances := balances }
  | .legalRegister => { plane with legalRegister := balances }

def addAsset (ledger : UnitLedger) (accountId productId : String) (delta : Int) : Step Unit := do
  let balances ← read (·.units ledger)
  let next := balanceOf balances (balanceKey accountId productId) + delta
  ensure (0 ≤ next) ⟨"NEGATIVE_BALANCE", "ledger balance cannot be negative"⟩
  modify (setUnits ledger (balances.set (balanceKey accountId productId) next))

/-- Subtract from a cash balance that must exist. -/
def debitCash (key : String) (amount : Int) : Step Unit := do
  let balances ← read (·.cashBalances)
  let balance ← require (balances.get key) (typeError "Cannot mix BigInt and other types")
  modify fun plane => { plane with cashBalances := balances.set key (balance - amount) }

def creditCash (key : String) (amount : Int) : Step Unit := do
  let balances ← read (·.cashBalances)
  modify fun plane => { plane with cashBalances := balances.set key (balanceOf balances key + amount) }

def confirmSandboxCash (transactionId productId : String) : Step Unit := do
  let time ← now
  modify fun plane => { plane with
    cashSettlements := plane.cashSettlements.set transactionId
      ⟨transactionId, productId, .confirmed, platform.isoText time⟩ }
  record platform (.cashConfirmed transactionId productId)

/-- Everything that a transaction stores before its lifecycle and commitment are
known. -/
structure TransactionData where
  id : String
  type : TransactionType
  productId : String
  sellerId : Option String
  buyerId : Option String
  units : Int
  pricePerUnit : Option Int
  cashAmount : Int
  fee : Option Int
  expiresAt : Option String
  policy : PolicySnapshot
  settlementMode : SettlementMode

/-- The body that a transaction commits to. -/
def TransactionData.privateBody (data : TransactionData) : JsValue :=
  .object ([("id", .string data.id), ("type", .string data.type.text), ("productId", .string data.productId)] ++
    (data.sellerId.map fun seller => ("sellerId", JsValue.string seller)).toList ++
    (data.buyerId.map fun buyer => ("buyerId", JsValue.string buyer)).toList ++
    [("units", .string (toString data.units)), ("cashAmount", .string (toString data.cashAmount))] ++
    (data.pricePerUnit.map fun price => ("pricePerUnit", JsValue.string (toString price))).toList ++
    (data.fee.map fun fee => ("fee", JsValue.string (toString fee))).toList ++
    (data.expiresAt.map fun expiry => ("expiresAt", JsValue.string expiry)).toList ++
    [("ruleVersion", .number data.policy.ruleVersion), ("navEvidenceId", .string data.policy.navEvidenceId),
      ("navEffectiveAt", .string data.policy.navEffectiveAt), ("navExpiresAt", .string data.policy.navExpiresAt),
      ("navSchemaVersion", .string data.policy.navSchemaVersion),
      ("policySnapshotHash", .string data.policy.policySnapshotHash),
      ("settlementMode", .string data.settlementMode.text)])

def TransactionData.transaction (data : TransactionData) (state : TransactionState) (settledAt : Option String)
    (lifecycle : List Transition) (sandboxCommitment : String) : Transaction where
  id := data.id
  type := data.type
  productId := data.productId
  sellerId := data.sellerId
  buyerId := data.buyerId
  units := data.units
  pricePerUnit := data.pricePerUnit
  cashAmount := data.cashAmount
  fee := data.fee
  expiresAt := data.expiresAt
  policy := data.policy
  settlementMode := data.settlementMode
  state := state
  settledAt := settledAt
  lifecycle := lifecycle
  sandboxCommitment := sandboxCommitment

/-- The text of a commitment: the private body and a salt. -/
def commitmentText (body : JsValue) (salt : String) : Except Failure String :=
  match canonicalize platform.numberText body with
  | .ok text => .ok (platform.sha256 (text.getD "undefined" ++ ":" ++ salt))
  | .error message => .error (typeError message)

def randomHex : Step String := fun plane =>
  (.ok (platform.randomHex plane.randomCalls), { plane with randomCalls := plane.randomCalls + 1 })

def storeTransaction (transaction : Transaction) : Step Unit :=
  modify fun plane => { plane with transactions := plane.transactions.set transaction.id transaction }

def completeTransaction (data : TransactionData) (lifecycle : List Transition) : Step Transaction := do
  assertNewTransaction data.id
  let salt ← randomHex platform
  let time ← now
  let commitment ← lift (commitmentText platform data.privateBody salt)
  let lifecycle ← transition platform lifecycle .settled data.id data.type data.productId
  let transaction := data.transaction .settled (some (platform.isoText time)) lifecycle commitment
  storeTransaction transaction
  return transaction

def storeExceptionTransaction (data : TransactionData) (lifecycle : List Transition) : Step Transaction := do
  let commitment ← lift (commitmentText platform data.privateBody "exception")
  let transaction := data.transaction .requiresReview none lifecycle commitment
  storeTransaction transaction
  return transaction

/-- Lifecycle states that the evidence package of a transaction shows. -/
def creationStates : List TransactionState :=
  [.requested, .policyChecked, .cashReserved, .registerPending, .registerFailed, .requiresReview, .settled]

def immutableCore (transaction : Transaction) (cashControl : Option CashSettlement) : JsValue :=
  .object [("schemaVersion", .string "1.0.0-sandbox"),
    ("transaction", .object [("id", .string transaction.id), ("productId", .string transaction.productId),
      ("type", .string transaction.type.text),
      ("stateAtCreation", .string (if transaction.settledAt.isSome then "SETTLED" else "REQUIRES_REVIEW")),
      ("ruleVersion", .number transaction.policy.ruleVersion),
      ("navEvidenceId", .string transaction.policy.navEvidenceId),
      ("navEffectiveAt", .string transaction.policy.navEffectiveAt),
      ("navExpiresAt", .string transaction.policy.navExpiresAt),
      ("navSchemaVersion", .string transaction.policy.navSchemaVersion),
      ("policySnapshotHash", .string transaction.policy.policySnapshotHash),
      ("settlementMode", .string transaction.settlementMode.text),
      ("lifecycleAtCreation", .array ((transaction.lifecycle.filter fun item => item.state ∈ creationStates).map
        fun item => .object [("state", .string item.state.text), ("at", .string item.time)]))]),
    ("cashControl", match cashControl with
      | some cash => .object [("state", .string cash.state.text), ("source", .string "SANDBOX_CASH_JOURNAL"),
        ("confirmedAt", .string cash.confirmedAt)]
      | none => .null),
    ("disclosure", .string "NO_PARTIES_NO_AMOUNTS_NO_PRICES"),
    ("proofSystem", .string "SANDBOX_NO_ZK_PROOF")]

/-- The hash of the evidence package of a stored transaction. -/
def evidencePackageHash (transactionId : String) : Step String := do
  let transaction ← read (·.transactions.get transactionId)
  let transaction ← require transaction ⟨"UNKNOWN_TRANSACTION", "transaction not found"⟩
  let cashControl ← read (·.cashSettlements.get transactionId)
  lift (sha256Canonical platform (immutableCore transaction cashControl))

def publicReceipt (transaction : Transaction) : Step Receipt := do
  let packageHash ← evidencePackageHash platform transaction.id
  return {
    transactionId := transaction.id
    productId := transaction.productId
    type := transaction.type
    state := transaction.state
    settledAt := transaction.settledAt
    navEvidenceId := transaction.policy.navEvidenceId
    ruleVersion := transaction.policy.ruleVersion
    settlementMode := transaction.settlementMode
    lifecycle := transaction.lifecycle.map Transition.state
    evidencePackageHash := packageHash
    sandboxCommitment := transaction.sandboxCommitment
    proofSystem := "SANDBOX_NO_ZK_PROOF"
    exceptionCaseId := none
    reasonCode := none
  }

/-- How every settlement ends: the policy is hashed, the transaction is stored and
the receipt is built. -/
def finish (product : Product) (nav : StoredEvidence) (data : PolicySnapshot → TransactionData) (event : Event)
    (lifecycle : List Transition) : Step Receipt := do
  let policy ← policySnapshot platform product nav
  let transaction ← completeTransaction platform (data policy) lifecycle
  record platform event
  publicReceipt platform transaction

structure SubscribeCommand where
  id : String
  idempotencyKey : String
  productId : String
  investorId : String
  credentialId : String
  units : String
  cashAmount : String
deriving DecidableEq

def SubscribeCommand.request (command : SubscribeCommand) : JsValue :=
  .object [("id", .string command.id), ("productId", .string command.productId),
    ("investorId", .string command.investorId), ("credentialId", .string command.credentialId),
    ("units", .string command.units), ("cashAmount", .string command.cashAmount)]

/-- What a subscription moves. -/
structure SubscribePlan where
  product : Product
  nav : StoredEvidence
  units : Int
  amount : Int

/-- The checks of a subscription. -/
def checkSubscribe (command : SubscribeCommand) : Step SubscribePlan := do
  assertNewTransaction command.id
  let product ← activeProduct command.productId
  let unitCount ← toNonNegativeInteger command.units "units"
  let amount ← toNonNegativeInteger command.cashAmount "cashAmount"
  ensure (0 < unitCount) ⟨"INVALID_AMOUNT", "units must be positive"⟩
  assertEligible platform product command.investorId command.credentialId unitCount
  let nav ← currentEvidence platform product "nav"
  let price ← navPrice nav
  ensure (amount = unitCount * price) ⟨"PRICE_MISMATCH", "subscription amount does not match current NAV"⟩
  let balances ← read (·.cashBalances)
  ensure (amount ≤ balanceOf balances (balanceKey command.investorId product.rules.currency))
    ⟨"INSUFFICIENT_CASH", "insufficient sandbox cash"⟩
  return ⟨product, nav, unitCount, amount⟩

def SubscribeCommand.data (command : SubscribeCommand) (plan : SubscribePlan) (policy : PolicySnapshot) :
    TransactionData where
  id := command.id
  type := .subscribe
  productId := command.productId
  sellerId := none
  buyerId := some command.investorId
  units := plan.units
  pricePerUnit := none
  cashAmount := plan.amount
  fee := none
  expiresAt := none
  policy := policy
  settlementMode := .standard

/-- The movements of a subscription that was checked. -/
def settleSubscribe (command : SubscribeCommand) (plan : SubscribePlan) (lifecycle : List Transition) :
    Step Receipt := do
  let lifecycle ← transition platform lifecycle .policyChecked command.id .subscribe command.productId
  let lifecycle ← transition platform lifecycle .cashReserved command.id .subscribe command.productId
  debitCash (balanceKey command.investorId plan.product.rules.currency) plan.amount
  creditCash (balanceKey plan.product.issuerId plan.product.rules.currency) plan.amount
  confirmSandboxCash platform command.id command.productId
  let lifecycle ← transition platform lifecycle .registerPending command.id .subscribe command.productId
  addAsset .assetBalances command.investorId command.productId plan.units
  addAsset .legalRegister command.investorId command.productId plan.units
  finish platform plan.product plan.nav (command.data plan)
    (.subscriptionSettled command.id command.productId) lifecycle

def subscribe (command : SubscribeCommand) : Step Receipt :=
  idempotent platform command.idempotencyKey command.request
    (runTransactionAttempt platform command.id .subscribe command.productId fun lifecycle => do
      let plan ← checkSubscribe platform command
      settleSubscribe platform command plan lifecycle)

structure TransferCommand where
  id : String
  idempotencyKey : String
  productId : String
  sellerId : String
  sellerCredentialId : String
  buyerId : String
  buyerCredentialId : String
  units : String
  pricePerUnit : String
  fee : Option String
  expiresAt : String
deriving DecidableEq

/-- The fee is zero unless given. -/
def TransferCommand.feeText (command : TransferCommand) : String := command.fee.getD "0"

def TransferCommand.request (command : TransferCommand) : JsValue :=
  .object [("id", .string command.id), ("productId", .string command.productId),
    ("sellerId", .string command.sellerId), ("sellerCredentialId", .string command.sellerCredentialId),
    ("buyerId", .string command.buyerId), ("buyerCredentialId", .string command.buyerCredentialId),
    ("units", .string command.units), ("pricePerUnit", .string command.pricePerUnit),
    ("fee", .string command.feeText), ("expiresAt", .string command.expiresAt)]

/-- What a transfer moves. -/
structure TransferPlan where
  product : Product
  nav : StoredEvidence
  units : Int
  price : Int
  fee : Int

def TransferPlan.consideration (plan : TransferPlan) : Int := plan.units * plan.price

/-- The checks of a transfer, which its simulated failure makes as well. -/
def checkTransfer (command : TransferCommand) : Step TransferPlan := do
  assertNewTransaction command.id
  let product ← activeProduct command.productId
  let time ← now
  ensure (dateAfter platform command.expiresAt time = true) ⟨"TRANSACTION_EXPIRED", "transaction intent expired"⟩
  let unitCount ← toNonNegativeInteger command.units "units"
  let price ← toNonNegativeInteger command.pricePerUnit "pricePerUnit"
  let feeAmount ← toNonNegativeInteger command.feeText "fee"
  ensure (0 < unitCount ∧ 0 < price) ⟨"INVALID_AMOUNT", "units and price must be positive"⟩
  ensure (command.sellerId ≠ command.buyerId) ⟨"SELF_TRANSFER", "seller and buyer must differ"⟩
  let held ← assetOf .assetBalances command.sellerId command.productId
  ensure (unitCount ≤ held) ⟨"INSUFFICIENT_ASSET", "seller balance insufficient"⟩
  assertEligible platform product command.sellerId command.sellerCredentialId 0
  assertEligible platform product command.buyerId command.buyerCredentialId unitCount
  let nav ← currentEvidence platform product "nav"
  let navPrice ← navPrice nav
  let deviation := if navPrice < price then price - navPrice else navPrice - price
  ensure (deviation * 10000 ≤ navPrice * product.rules.maxPriceDeviationBps.num)
    ⟨"PRICE_DEVIATION", "price exceeds allowed NAV deviation"⟩
  let balances ← read (·.cashBalances)
  ensure (unitCount * price + feeAmount ≤ balanceOf balances (balanceKey command.buyerId product.rules.currency))
    ⟨"INSUFFICIENT_CASH", "buyer cash insufficient"⟩
  return ⟨product, nav, unitCount, price, feeAmount⟩

def TransferCommand.data (command : TransferCommand) (plan : TransferPlan) (mode : SettlementMode)
    (policy : PolicySnapshot) : TransactionData where
  id := command.id
  type := .transfer
  productId := command.productId
  sellerId := some command.sellerId
  buyerId := some command.buyerId
  units := plan.units
  pricePerUnit := some plan.price
  cashAmount := plan.consideration
  fee := some plan.fee
  expiresAt := some command.expiresAt
  policy := policy
  settlementMode := mode

/-- The movements of a transfer that was checked. -/
def settleTransfer (command : TransferCommand) (plan : TransferPlan) (lifecycle : List Transition) :
    Step Receipt := do
  let lifecycle ← transition platform lifecycle .policyChecked command.id .transfer command.productId
  let lifecycle ← transition platform lifecycle .cashReserved command.id .transfer command.productId
  debitCash (balanceKey command.buyerId plan.product.rules.currency) (plan.consideration + plan.fee)
  creditCash (balanceKey command.sellerId plan.product.rules.currency) plan.consideration
  creditCash (balanceKey plan.product.issuerId plan.product.rules.currency) plan.fee
  confirmSandboxCash platform command.id command.productId
  let lifecycle ← transition platform lifecycle .registerPending command.id .transfer command.productId
  addAsset .assetBalances command.sellerId command.productId (-plan.units)
  addAsset .assetBalances command.buyerId command.productId plan.units
  addAsset .legalRegister command.sellerId command.productId (-plan.units)
  addAsset .legalRegister command.buyerId command.productId plan.units
  finish platform plan.product plan.nav (command.data plan .standard) (.transferSettled command.id command.productId)
    lifecycle

def transfer (command : TransferCommand) : Step Receipt :=
  idempotent platform command.idempotencyKey command.request
    (runTransactionAttempt platform command.id .transfer command.productId fun lifecycle => do
      let plan ← checkTransfer platform command
      settleTransfer platform command plan lifecycle)

structure RedeemCommand where
  id : String
  idempotencyKey : String
  productId : String
  investorId : String
  credentialId : String
  units : String
deriving DecidableEq

def RedeemCommand.request (command : RedeemCommand) : JsValue :=
  .object [("id", .string command.id), ("productId", .string command.productId),
    ("investorId", .string command.investorId), ("credentialId", .string command.credentialId),
    ("units", .string command.units)]

/-- What a redemption moves. -/
structure RedeemPlan where
  product : Product
  nav : StoredEvidence
  units : Int
  cashAmount : Int
  mode : SettlementMode

/-- The checks of a redemption. -/
def checkRedeem (command : RedeemCommand) : Step RedeemPlan := do
  assertNewTransaction command.id
  let product ← activeProduct command.productId
  let unitCount ← toNonNegativeInteger command.units "units"
  ensure (0 < unitCount) ⟨"INVALID_AMOUNT", "units must be positive"⟩
  let status ← assertExitAllowed platform product command.investorId command.credentialId
  let held ← assetOf .assetBalances command.investorId command.productId
  ensure (unitCount ≤ held) ⟨"INSUFFICIENT_ASSET", "investor balance insufficient"⟩
  let nav ← currentEvidence platform product "nav"
  let price ← navPrice nav
  let balances ← read (·.cashBalances)
  ensure (unitCount * price ≤ balanceOf balances (balanceKey product.issuerId product.rules.currency))
    ⟨"INSUFFICIENT_REDEMPTION_CASH", "issuer cash insufficient"⟩
  return ⟨product, nav, unitCount, unitCount * price,
    if status = .restrictedExit then .restrictedExit else .standard⟩

def RedeemCommand.data (command : RedeemCommand) (plan : RedeemPlan) (policy : PolicySnapshot) : TransactionData where
  id := command.id
  type := .redeem
  productId := command.productId
  sellerId := some command.investorId
  buyerId := none
  units := plan.units
  pricePerUnit := none
  cashAmount := plan.cashAmount
  fee := none
  expiresAt := none
  policy := policy
  settlementMode := plan.mode

/-- The movements of a redemption that was checked. -/
def settleRedeem (command : RedeemCommand) (plan : RedeemPlan) (lifecycle : List Transition) : Step Receipt := do
  let lifecycle ← transition platform lifecycle .policyChecked command.id .redeem command.productId
  let lifecycle ← transition platform lifecycle .cashReserved command.id .redeem command.productId
  addAsset .assetBalances command.investorId command.productId (-plan.units)
  addAsset .legalRegister command.investorId command.productId (-plan.units)
  debitCash (balanceKey plan.product.issuerId plan.product.rules.currency) plan.cashAmount
  creditCash (balanceKey command.investorId plan.product.rules.currency) plan.cashAmount
  confirmSandboxCash platform command.id command.productId
  let lifecycle ← transition platform lifecycle .registerPending command.id .redeem command.productId
  finish platform plan.product plan.nav (command.data plan)
    (.redemptionSettled command.id command.productId plan.mode) lifecycle

def redeem (command : RedeemCommand) : Step Receipt :=
  idempotent platform command.idempotencyKey command.request
    (runTransactionAttempt platform command.id .redeem command.productId fun lifecycle => do
      let plan ← checkRedeem platform command
      settleRedeem platform command plan lifecycle)

def caseIdOf (transactionId : String) : String := s!"case-{transactionId}"

/-- The release of the reservation and the open case of a transfer whose
registration failed. -/
def openException (command : TransferCommand) (plan : TransferPlan) (lifecycle : List Transition) :
    Step Receipt := do
  let lifecycle ← transition platform lifecycle .policyChecked command.id .transfer command.productId
  let lifecycle ← transition platform lifecycle .cashReserved command.id .transfer command.productId
  let lifecycle ← transition platform lifecycle .registerFailed command.id .transfer command.productId
  let time ← now
  modify fun plane => { plane with
    cashSettlements := plane.cashSettlements.set command.id
      ⟨command.id, command.productId, .released, platform.isoText time⟩ }
  record platform (.cashReleased command.id command.productId)
  let lifecycle ← transition platform lifecycle .requiresReview command.id .transfer command.productId
  let policy ← policySnapshot platform plan.product plan.nav
  let transaction ← storeExceptionTransaction platform (command.data plan .exceptionReview policy) lifecycle
  modify fun plane => { plane with
    exceptionCases := plane.exceptionCases.set (caseIdOf command.id)
      { id := caseIdOf command.id
        productId := command.productId
        transactionId := command.id
        status := .opened
        failureStage := .registerPending
        reasonCode := "REGISTER_TIMEOUT"
        assignedRole := "operations"
        openedAt := platform.isoText time
        resolvedAt := none
        replacementTransactionId := none
        checkedBy := none
        proposal := none
        retryPayload :=
          { productId := command.productId
            sellerId := command.sellerId
            sellerCredentialId := command.sellerCredentialId
            buyerId := command.buyerId
            buyerCredentialId := command.buyerCredentialId
            units := toString plan.units
            pricePerUnit := toString plan.price
            fee := toString plan.fee
            expiresAt := command.expiresAt } } }
  record platform (.exceptionOpened command.productId command.id "REGISTER_TIMEOUT")
  let receipt ← publicReceipt platform transaction
  return { receipt with exceptionCaseId := some (caseIdOf command.id), reasonCode := some "REGISTER_TIMEOUT" }

def simulateRegisterFailure (command : TransferCommand) : Step Receipt :=
  idempotent platform command.idempotencyKey command.request
    (runTransactionAttempt platform command.id .transfer command.productId fun lifecycle => do
      let plan ← checkTransfer platform command
      openException platform command plan lifecycle)

end rwa.control_plane
