import RwaControlPlane.Durable.Settlement

open checked
open rwa.gate (TransactionState uniqueViolation)
open rwa.control_plane (CaseStatus Decision truthy)

namespace rwa.durable

variable (service : DurableWorkflowService)

namespace Database

def findCase (db : Database) (exceptionId : String) : Option ExceptionCase :=
  db.exceptionCases.find? (·.id = exceptionId)

def updateCase (db : Database) (exceptionId : String) (change : ExceptionCase → ExceptionCase) : Database :=
  { db with exceptionCases := db.exceptionCases.map fun row => if row.id = exceptionId then change row else row }

/-- What the maker has proposed in a round. -/
def makerOf (db : Database) (exceptionId : String) (approvalRound : Nat) : Option ApprovalRecord :=
  single (db.approvals.filter fun row =>
    row.exceptionId = exceptionId && row.approvalRound = approvalRound && row.role = .maker)

/-- The guard of an approval record. -/
def validateApprovalRecord (db : Database) (row : ApprovalRecord) : Except Failure Unit :=
  match row.role with
  | .maker =>
    throwIf ((row.decision = .retry ∧ row.proposedReplacementTransactionId = none) ∨
        (row.decision = .cancel ∧ row.proposedReplacementTransactionId ≠ none))
      ⟨"23514", "maker proposal payload does not match decision"⟩
  | .checker => do
    throwIf (row.proposedReplacementTransactionId ≠ none)
      ⟨"23514", "checker cannot replace maker proposal payload"⟩
    let maker ← require (db.makerOf row.exceptionId row.approvalRound)
      ⟨"23514", "checker approval requires a maker proposal in the same round"⟩
    throwIf (maker.actorRef = row.actorRef) ⟨"23514", "maker and checker must be different actors"⟩

def insertApproval (db : Database) (row : ApprovalRecord) : Except Failure Database := do
  db.validateApprovalRecord row
  throwIf ((row.exceptionId, row.approvalRound, row.role) ∈
      db.approvals.map fun other => (other.exceptionId, other.approvalRound, other.role))
    uniqueViolation
  pure { db with approvals := db.approvals ++ [row] }

/-- The decision of a maker. -/
def makerDecision : Decision → Except Failure ApprovalDecision
  | .retry => .ok .retry
  | .cancel => .ok .cancel
  | .other _ => .error ⟨"INVALID_APPROVAL_DECISION", "maker decision must be RETRY or CANCEL"⟩

/-- A maker proposes what becomes of an open case: the next round starts. -/
def proposeExceptionResolution (db : Database) (exceptionId makerRef : String) (decision : Decision)
    (replacementTransactionId : Option String) : Except Failure (ExceptionCase × Database) := do
  let decision ← makerDecision decision
  throwIf ((decision = .retry ∧ truthy replacementTransactionId = false) ∨
      (decision = .cancel ∧ truthy replacementTransactionId = true))
    ⟨"INVALID_APPROVAL_PAYLOAD", "maker proposal payload does not match decision"⟩
  let row ← require ((db.findCase exceptionId).filter (·.status = .opened))
    ⟨"INVALID_EXCEPTION_STATE", "exception is not open"⟩
  let approvalRound := row.approvalRound + 1
  let db ← db.insertApproval ⟨exceptionId, approvalRound, .maker, makerRef, decision, replacementTransactionId⟩
  pure ({ row with status := .pendingApproval, approvalRound },
    db.updateCase exceptionId fun row => { row with status := .pendingApproval, approvalRound })

/-- The decision of a checker. -/
def checkerDecision : ApprovalDecision → Except Failure ApprovalDecision
  | .approve => .ok .approve
  | .reject => .ok .reject
  | _ => .error ⟨"INVALID_APPROVAL_DECISION", "checker decision must be APPROVE or REJECT"⟩

/-- A checker decides on the proposal of the current round. The case and the
proposal are returned. -/
def approveExceptionResolution (db : Database) (exceptionId checkerRef : String) (decision : ApprovalDecision) :
    Except Failure (ExceptionCase × ApprovalRecord × Database) := do
  let decision ← checkerDecision decision
  let row ← require ((db.findCase exceptionId).filter (·.status = .pendingApproval))
    ⟨"INVALID_EXCEPTION_STATE", "exception has no pending maker proposal"⟩
  let maker ← require (db.makerOf exceptionId row.approvalRound)
    ⟨"INVALID_EXCEPTION_STATE", "exception has no pending maker proposal"⟩
  throwIf (maker.actorRef = checkerRef) ⟨"MAKER_CHECKER_CONFLICT", "maker and checker must be different actors"⟩
  let db ← db.insertApproval ⟨exceptionId, row.approvalRound, .checker, checkerRef, decision, none⟩
  pure (row, maker, db)

/-- A case that waits for approval. -/
def pendingCase (db : Database) (exceptionId : String) : Except Failure ExceptionCase :=
  require ((db.findCase exceptionId).filter (·.status = .pendingApproval))
    ⟨"INVALID_EXCEPTION_STATE", "exception is not pending approval"⟩

def returnExceptionForReview (db : Database) (exceptionId : String) : Except Failure Database := do
  let _ ← db.pendingCase exceptionId
  pure (db.updateCase exceptionId fun row => { row with status := .opened })

/-- Close a case. Its replacement is a transaction. -/
def resolveExceptionCase (db : Database) (exceptionId : String) (status : CaseStatus)
    (replacementTransactionId : Option String) : Except Failure Database := do
  let _ ← db.pendingCase exceptionId
  throwIf (∃ replacement ∈ replacementTransactionId, replacement ∉ db.transactions.intents.map (·.id))
    ⟨"23503", "insert or update violates foreign key constraint"⟩
  pure (db.updateCase exceptionId fun row => { row with status, replacementTransactionId })

end Database

structure Proposed where
  caseId : String
  state : CaseStatus
  decision : Decision
  replacementTransactionId : Option String
  makerId : String
deriving DecidableEq

def proposeExceptionResolution (caseId makerId : String) (decision : Decision)
    (replacementTransactionId : Option String) (db : Database) : Except Failure (Proposed × Database) := do
  let (row, db) ← db.proposeExceptionResolution caseId makerId decision replacementTransactionId
  let db ← db.transitionTransaction row.transactionId .pendingApproval none makerId
  pure (⟨caseId, .pendingApproval, decision, replacementTransactionId, makerId⟩, db)

/-- What a checker is told. -/
inductive Decided
  | rejected (caseId checkerId : String)
  | cancelled (caseId makerId checkerId : String)
  | retryBlocked (caseId reasonCode : String)
  | retried (caseId makerId checkerId : String) (replacement : Receipt)
deriving DecidableEq

/-- The idempotency key of a retry. -/
def retryKey (caseId : String) (replacementTransactionId : Option String) : String :=
  "exception-retry:" ++ caseId ++ ":" ++ replacementTransactionId.getD "null"

/-- The request of a retry: the original one under a new id and key. -/
def retryRequest (original : Request) (caseId : String) (replacementTransactionId : Option String) : Request :=
  (original.set "id" (replacementTransactionId.getD "null")).set "idempotencyKey"
    (retryKey caseId replacementTransactionId)

/-- Back to review, after a checker has refused or a retry was blocked. -/
def Database.reopen (db : Database) (row : ExceptionCase) (reasonCode : Option String) (checkerId : String) :
    Except Failure Database := do
  let db ← db.transitionTransaction row.transactionId .requiresReview reasonCode checkerId
  db.returnExceptionForReview row.id

/-- Settle the original request again. A failure goes back to the savepoint, and
the case back to review. -/
def retryException (row : ExceptionCase) (maker : ApprovalRecord) (checkerId : String) (now : Int) (db : Database) :
    Except Failure (Decided × Database) := do
  let original ← require (db.transactions.find row.transactionId)
    ⟨"UNKNOWN_TRANSACTION", "original transaction is missing"⟩
  let originalRequest ← service.decrypt original.privatePayloadCiphertext
    ⟨original.tenantId, original.id, original.productId, original.transactionType⟩
  let replacementRequest := retryRequest originalRequest row.id maker.proposedReplacementTransactionId
  match settleInTransaction service original.transactionType replacementRequest false now db with
  | .error failure => do
    let reasonCode := if failure.code = "" then "RETRY_BLOCKED" else failure.code
    let db ← db.reopen row (some reasonCode) checkerId
    pure (.retryBlocked row.id reasonCode, db)
  | .ok (replacement, db) => do
    let db ← db.transitionTransaction row.transactionId .replaced none checkerId
    let db ← db.resolveExceptionCase row.id .resolvedRetried maker.proposedReplacementTransactionId
    pure (.retried row.id maker.actorRef checkerId replacement, db)

def approveExceptionResolution (caseId checkerId : String) (decision : ApprovalDecision) (now : Int) (db : Database) :
    Except Failure (Decided × Database) := do
  let (row, maker, db) ← db.approveExceptionResolution caseId checkerId decision
  if decision = .reject then
    let db ← db.reopen row none checkerId
    pure (.rejected caseId checkerId, db)
  else if maker.decision = .cancel then
    let db ← db.transitionTransaction row.transactionId .cancelled none checkerId
    let db ← db.resolveExceptionCase caseId .resolvedCancelled none
    pure (.cancelled caseId maker.actorRef checkerId, db)
  else retryException service row maker checkerId now db

end rwa.durable
