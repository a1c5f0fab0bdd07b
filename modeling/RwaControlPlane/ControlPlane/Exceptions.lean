import RwaControlPlane.ControlPlane.Settlement

open attempt js_map js_value

namespace rwa.control_plane

variable (platform : Platform)

def updateCase (caseId : String) (change : ExceptionCase → ExceptionCase) : Step Unit :=
  modify fun plane => match plane.exceptionCases.get caseId with
    | some exceptionCase => { plane with exceptionCases := plane.exceptionCases.set caseId (change exceptionCase) }
    | none => plane

def updateTransaction (transactionId : String) (change : Transaction → Transaction) : Step Unit :=
  modify fun plane => match plane.transactions.get transactionId with
    | some transaction => { plane with transactions := plane.transactions.set transactionId (change transaction) }
    | none => plane

/-- Append a state to the lifecycle of a stored transaction. -/
def pushLifecycle (original : Transaction) (state : TransactionState) : Step Unit := do
  let time ← now
  updateTransaction original.id fun transaction =>
    { transaction with lifecycle := transaction.lifecycle ++ [⟨state, platform.isoText time⟩] }
  record platform (.transactionStateChanged original.id original.productId original.type state)

def setState (original : Transaction) (state : TransactionState) : Step Unit :=
  updateTransaction original.id fun transaction => { transaction with state }

structure Proposed where
  caseId : String
  decision : Decision
  replacementTransactionId : Option String
  makerId : String
deriving DecidableEq

/-- A text that is missing or empty counts as false. -/
def truthy (text : Option String) : Bool := text.any fun text => text ≠ ""

def proposeExceptionResolution (caseId makerId : String) (decision : Decision)
    (replacementTransactionId : Option String) : Step Proposed := do
  let exceptionCase ← read (·.exceptionCases.get caseId)
  let exceptionCase ← require exceptionCase ⟨"UNKNOWN_EXCEPTION", "exception case not found"⟩
  ensure (exceptionCase.status = .opened) ⟨"EXCEPTION_NOT_OPEN", "exception case is not open for proposal"⟩
  ensure (makerId ≠ "") ⟨"MISSING_MAKER", "maker identity required"⟩
  ensure (decision = .retry ∨ decision = .cancel) ⟨"INVALID_DECISION", "decision must be RETRY or CANCEL"⟩
  ensure (decision ≠ .retry ∨ truthy replacementTransactionId = true)
    ⟨"MISSING_REPLACEMENT_ID", "replacement transaction id required"⟩
  updateCase caseId fun exceptionCase => { exceptionCase with status := .pendingApproval }
  let original ← read (·.transactions.get exceptionCase.transactionId)
  let original ← require original (typeError "Cannot set properties of undefined")
  setState original .pendingApproval
  pushLifecycle platform original .reviewProposed
  let time ← now
  updateCase caseId fun exceptionCase =>
    { exceptionCase with
      proposal := some ⟨decision, replacementTransactionId, makerId, platform.isoText time⟩ }
  record platform (.exceptionProposed exceptionCase.productId exceptionCase.transactionId)
  return ⟨caseId, decision, replacementTransactionId, makerId⟩

structure Resolved where
  caseId : String
  state : CaseStatus
  makerId : String
  checkerId : String
  replacement : Option Receipt
deriving DecidableEq

/-- The transfer that retries a failed one under a new id. -/
def RetryPayload.command (payload : RetryPayload) (caseId : String) (replacementTransactionId : Option String) :
    TransferCommand where
  id := replacementTransactionId.getD "null"
  idempotencyKey := "exception-retry:" ++ caseId ++ ":" ++ replacementTransactionId.getD "null"
  productId := payload.productId
  sellerId := payload.sellerId
  sellerCredentialId := payload.sellerCredentialId
  buyerId := payload.buyerId
  buyerCredentialId := payload.buyerCredentialId
  units := payload.units
  pricePerUnit := payload.pricePerUnit
  fee := some payload.fee
  expiresAt := payload.expiresAt

/-- A retry that failed opens the case again. -/
def blockRetry (exceptionCase : ExceptionCase) (original : Transaction) (failure : Failure) : Step Unit := do
  updateCase exceptionCase.id fun exceptionCase => { exceptionCase with status := .opened, proposal := none }
  setState original .requiresReview
  pushLifecycle platform original .retryBlocked
  record platform (.exceptionRetryBlocked exceptionCase.productId exceptionCase.transactionId
    (if failure.code = "" then "REQUEST_FAILED" else failure.code))

def approveExceptionResolution (caseId checkerId : String) : Step Resolved := do
  let exceptionCase ← read (·.exceptionCases.get caseId)
  let exceptionCase ← require exceptionCase ⟨"UNKNOWN_EXCEPTION", "exception case not found"⟩
  ensure (exceptionCase.status = .pendingApproval)
    ⟨"EXCEPTION_NOT_PENDING_APPROVAL", "exception case has no pending proposal"⟩
  ensure (checkerId ≠ "") ⟨"MISSING_CHECKER", "checker identity required"⟩
  let proposal ← require exceptionCase.proposal (typeError "Cannot read properties of null")
  ensure (checkerId ≠ proposal.makerId) ⟨"MAKER_CHECKER_CONFLICT", "maker and checker must be different people"⟩
  let original ← read (·.transactions.get exceptionCase.transactionId)
  let original ← require original (typeError "Cannot read properties of undefined")
  pushLifecycle platform original .reviewApproved
  let time ← now
  if proposal.decision = .cancel then
    setState original .cancelled
    pushLifecycle platform original .cancelled
    updateCase caseId fun exceptionCase => { exceptionCase with
      status := .resolvedCancelled
      resolvedAt := some (platform.isoText time)
      checkedBy := some checkerId }
    record platform (.exceptionResolved exceptionCase.productId exceptionCase.transactionId .resolvedCancelled)
    return ⟨caseId, .resolvedCancelled, proposal.makerId, checkerId, none⟩
  else
    let receipt ← onFailure
      (transfer platform (exceptionCase.retryPayload.command caseId proposal.replacementTransactionId))
      (blockRetry platform exceptionCase original)
    setState original .replaced
    pushLifecycle platform original .replaced
    updateCase caseId fun exceptionCase => { exceptionCase with
      status := .resolvedRetried
      replacementTransactionId := proposal.replacementTransactionId
      resolvedAt := some (platform.isoText time)
      checkedBy := some checkerId }
    record platform (.exceptionResolved exceptionCase.productId exceptionCase.transactionId .resolvedRetried)
    return ⟨caseId, .resolvedRetried, proposal.makerId, checkerId, some receipt⟩

end rwa.control_plane
