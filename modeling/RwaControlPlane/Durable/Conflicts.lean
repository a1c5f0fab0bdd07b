import RwaControlPlane.Durable.Conservation
import RwaControlPlane.Library.Statements

open attempt checked statements
open rwa.gate (TransactionType)

namespace rwa.durable

/-- `serialization_failure` and `deadlock_detected` -/
inductive Conflict
  | serializationFailure
  | deadlockDetected
deriving DecidableEq

def Conflict.failure : Conflict → Failure
  | .serializationFailure => ⟨"40001", "could not serialize access due to concurrent update"⟩
  | .deadlockDetected => ⟨"40P01", "deadlock detected"⟩

/-- Errors after which a transaction is attempted again. -/
def isRetryable (failure : Failure) : Bool := ["40001", "40P01"].contains failure.code

section Programs

variable (service : DurableWorkflowService)

/-- The statements that post a settlement. Statements that follow one another
without a decision of the service in between stand as one. -/
def postStatements (transactionId : String) (type : TransactionType) (product : Product) (nav : Evidence)
    (plan : SettlementPlan) (now : Int) : Program Failure Database Receipt := do
  execute fun db => db.transitionThrough transactionId sandboxWorkflow settledLifecycle
  execute fun db => db.appendLedgerBatch ("ledger:" ++ transactionId) (some transactionId) plan.ledgerEntries
  execute fun db => db.appendRegisterBatch ("register:" ++ transactionId) (some transactionId) (unitAssetOf product.id)
    plan.registerEntries
  let provider ← query fun db => cashProvider db product.id
  execute fun db => db.insertCashConfirmation ⟨transactionId, provider, .confirmed, "sandbox:" ++ transactionId⟩
  execute fun db => db.transitionTransaction transactionId .settled none sandboxWorkflow
  let receipt : Receipt :=
    { transactionId, productId := product.id, type, state := .settled, settledAt := some (service.isoText now)
      navEvidenceId := nav.id, ruleVersion := product.ruleVersion, settlementMode := plan.settlementMode
      lifecycle := [.requested, .policyChecked, .cashReserved, .registerPending, .settled]
      proofSystem := "SANDBOX_NO_ZK_PROOF", exceptionCaseId := none, reasonCode := none }
  execute fun db => db.storeReceipt receipt
  return receipt

/-- The statements of a settlement whose key was not used. -/
def newStatements (type : TransactionType) (request : Request) (now : Int) : Program Failure Database Receipt := do
  let product ← query fun db => require
    (db.products.find? fun row => some row.id = request.get "productId" && row.status = .active)
    ⟨"PRODUCT_NOT_ACTIVE", "product is not active"⟩
  let nav ← query fun db => require (db.currentNav product.id now)
    ⟨"MISSING_EVIDENCE", "current NAV evidence is missing"⟩
  lift (throwIf (nav.payload.currency ≠ some product.currency)
    ⟨"EVIDENCE_CURRENCY", "NAV currency does not match product"⟩)
  let units ← lift (positive (request.get "units") "units")
  let navPrice ← lift (toInteger nav.payload.navPerUnit)
  let plan ← query fun db => plan service db type product request units navPrice now
  let intent ← query fun db => newIntent service db type request product nav
  let stored ← statement fun db =>
    (db.transactions.createTransactionIntent intent (some sandboxWorkflow)).map fun result =>
      ((result.1, result.2.1), { db with transactions := result.2.2 })
  if stored.1 = false then
    query fun db => require (db.receiptOf stored.2.id)
      ⟨"IDEMPOTENCY_IN_FLIGHT", "transaction receipt is not available"⟩
  else
    let committer ← lift (require service.economicCommitter
      ⟨"ECONOMIC_COMMITTER_REQUIRED", "economic commitment service is required"⟩)
    let commitment ← lift (economicCommitment committer type intent.id product request plan)
    execute fun db => db.insertCommitment commitment
    postStatements service intent.id type product nav plan now

/-- The statements of a settlement whose registration does not fail. -/
def settleStatements (type : TransactionType) (request : Request) (now : Int) : Program Failure Database Receipt := do
  let replay ← query fun db =>
    .ok ((db.replay service request).map fun existing => (existing, db.receiptOf existing.id))
  match replay with
  | some (existing, receipt) => do
    lift (throwIf (existing.requestHash ≠ requestHash service request)
      ⟨"IDEMPOTENCY_CONFLICT", "idempotency key reused for a different request"⟩)
    lift (require receipt ⟨"IDEMPOTENCY_IN_FLIGHT", "transaction receipt is not available"⟩)
  | none => newStatements service type request now

/-- Where an approval stands before it moves the transaction. -/
inductive Stage
  | rejected (row : ExceptionCase)
  | cancelled (row : ExceptionCase) (maker : ApprovalRecord)
  | retry (row : ExceptionCase) (maker : ApprovalRecord) (type : TransactionType) (request : Request)

/-- The statements of an approval up to the savepoint of its retry. -/
def approvalStage (caseId checkerId : String) (decision : ApprovalDecision) : Program Failure Database Stage := do
  let approval ← statement fun db =>
    (db.approveExceptionResolution caseId checkerId decision).map fun result => ((result.1, result.2.1), result.2.2)
  if decision = .reject then return .rejected approval.1
  else if approval.2.decision = .cancel then return .cancelled approval.1 approval.2
  else
    let original ← query fun db => require (db.transactions.find approval.1.transactionId)
      ⟨"UNKNOWN_TRANSACTION", "original transaction is missing"⟩
    let originalRequest ← lift (service.decrypt original.privatePayloadCiphertext
      ⟨original.tenantId, original.id, original.productId, original.transactionType⟩)
    execute .ok -- SAVEPOINT
    return .retry approval.1 approval.2 original.transactionType
      (retryRequest originalRequest approval.1.id approval.2.proposedReplacementTransactionId)

/-- The statements that a savepoint guards. -/
def retriedSettlement (type : TransactionType) (request : Request) (now : Int) : Program Failure Database Receipt := do
  let replacement ← settleStatements service type request now
  execute .ok -- RELEASE SAVEPOINT
  return replacement

/-- What an approval does with the outcome of its retry. -/
def recordRetry (row : ExceptionCase) (maker : ApprovalRecord) (checkerId : String) :
    Except Failure Receipt → Program Failure Database Decided
  | .error failure => do
    let reasonCode := if failure.code = "" then "RETRY_BLOCKED" else failure.code
    execute .ok -- ROLLBACK TO SAVEPOINT
    execute fun db => db.reopen row (some reasonCode) checkerId
    return .retryBlocked row.id reasonCode
  | .ok replacement => do
    execute fun db => db.transitionTransaction row.transactionId .replaced none checkerId
    execute fun db => db.resolveExceptionCase row.id .resolvedRetried maker.proposedReplacementTransactionId
    return .retried row.id maker.actorRef checkerId replacement

/-- The statements of an approval behind that stage. -/
def decideStage (caseId checkerId : String) (now : Int) : Stage → Program Failure Database Decided
  | .rejected row => do
    execute fun db => db.reopen row none checkerId
    return .rejected caseId checkerId
  | .cancelled row maker => do
    execute fun db => db.transitionTransaction row.transactionId .cancelled none checkerId
    execute fun db => db.resolveExceptionCase caseId .resolvedCancelled none
    return .cancelled caseId maker.actorRef checkerId
  | .retry row maker type request => do
    let settled ← savepoint (retriedSettlement service type request now)
    recordRetry row maker checkerId settled

/-- One attempt of an approval. -/
def approvalAttempt (caseId checkerId : String) (decision : ApprovalDecision) (now : Int) :
    Program Failure Database Decided := do
  let stage ← approvalStage service caseId checkerId decision
  let decided ← decideStage service caseId checkerId now stage
  execute .ok -- COMMIT
  return decided

end Programs

section Models

variable {service : DurableWorkflowService} {type : TransactionType} {request : Request} {now : Int}

private theorem map_eq_bind {α β : Type} {outcome : Except Failure α} {change : α → β} :
    outcome.map change = outcome >>= fun value => pure (change value) := by
  cases outcome <;> rfl

private theorem ok_bind {α β : Type} {value : α} {next : α → Except Failure β} :
    (Except.ok value >>= next) = next value := rfl

private theorem post_models {transactionId : String} {product : Product} {nav : Evidence} {plan : SettlementPlan} :
    Models (postStatements service transactionId type product nav plan now)
      fun db => postSettlement service db transactionId type product nav plan now :=
  Models.execute_bind fun _ => Models.execute_bind fun _ => Models.execute_bind fun _ => Models.query_bind fun _ =>
    Models.execute_bind fun _ => Models.execute_bind fun _ => Models.execute_bind fun _ => models_pure

private theorem new_models : ∃ action, Models (newStatements service type request now) action ∧
    ∀ db : Database, db.replay service request = none →
      action db = settleInTransaction service type request false now db := by
  refine ⟨_, Models.query_bind fun product => Models.query_bind fun nav => Models.lift_bind fun _ =>
    Models.lift_bind fun units => Models.lift_bind fun navPrice => Models.query_bind fun plan =>
    Models.query_bind fun intent => models_statement.bind fun stored => Models.ite models_statement <|
      Models.lift_bind fun committer => Models.lift_bind fun commitment => Models.execute_bind fun _ => post_models,
    fun db hnew => ?_⟩
  simp only [settleInTransaction, hnew, checkSettlement, map_eq_bind, bind_assoc, pure_bind, reduceCtorEq, if_false]

/-- The statements of a settlement do what the settlement does. -/
theorem settle_models :
    Models (settleStatements service type request now) (settleInTransaction service type request false now) := by
  obtain ⟨action, hmodels, haction⟩ := @new_models service type request now
  refine (@Models.query_bind _ _ _ _ _ (fun replay db => match replay with
    | some (existing, receipt) =>
      throwIf (existing.requestHash ≠ requestHash service request)
          ⟨"IDEMPOTENCY_CONFLICT", "idempotency key reused for a different request"⟩ >>= fun _ =>
        (checked.require receipt ⟨"IDEMPOTENCY_IN_FLIGHT", "transaction receipt is not available"⟩).map (·, db)
    | none => action db) _ fun replay => ?_).congr fun db => ?_
  · cases replay with
    | some found => exact Models.lift_bind fun _ => models_lift
    | none => exact hmodels
  · cases hreplay : db.replay service request with
    | none => exact haction db hreplay
    | some existing =>
      simp only [settleInTransaction, hreplay, map_eq_bind]
      rfl

private theorem retried_models :
    Models (retriedSettlement service type request now) (settleInTransaction service type request false now) := by
  unfold retriedSettlement
  apply Models.congr
  · exact settle_models.bind fun replacement => Models.execute_bind fun _ => models_pure
  · intro db
    cases settleInTransaction service type request false now db <;> rfl

variable {caseId checkerId : String} {decision : ApprovalDecision} {row : ExceptionCase} {maker : ApprovalRecord}

/-- What an approval does behind a stage. -/
private def stageAction (service : DurableWorkflowService) (caseId checkerId : String) (now : Int) (stage : Stage)
    (db : Database) : Except Failure (Decided × Database) :=
  match stage with
  | .rejected row => db.reopen row none checkerId >>= fun db => .ok (.rejected caseId checkerId, db)
  | .cancelled row maker =>
    db.transitionTransaction row.transactionId .cancelled none checkerId >>= fun db =>
      db.resolveExceptionCase caseId .resolvedCancelled none >>= fun db =>
        .ok (.cancelled caseId maker.actorRef checkerId, db)
  | .retry row maker type request =>
    match settleInTransaction service type request false now db with
    | .error failure =>
      db.reopen row (some (if failure.code = "" then "RETRY_BLOCKED" else failure.code)) checkerId >>= fun db =>
        .ok (.retryBlocked row.id (if failure.code = "" then "RETRY_BLOCKED" else failure.code), db)
    | .ok (replacement, db) =>
      db.transitionTransaction row.transactionId .replaced none checkerId >>= fun db =>
        db.resolveExceptionCase row.id .resolvedRetried maker.proposedReplacementTransactionId >>= fun db =>
          .ok (.retried row.id maker.actorRef checkerId replacement, db)

private theorem record_models (settled : Except Failure Receipt) :
    Models (recordRetry row maker checkerId settled) fun db => match settled with
      | .error failure =>
        db.reopen row (some (if failure.code = "" then "RETRY_BLOCKED" else failure.code)) checkerId >>= fun db =>
          .ok (.retryBlocked row.id (if failure.code = "" then "RETRY_BLOCKED" else failure.code), db)
      | .ok replacement =>
        db.transitionTransaction row.transactionId .replaced none checkerId >>= fun db =>
          db.resolveExceptionCase row.id .resolvedRetried maker.proposedReplacementTransactionId >>= fun db =>
            .ok (.retried row.id maker.actorRef checkerId replacement, db) := by
  cases settled with
  | error failure => exact Models.execute_bind fun _ => Models.execute_bind fun _ => models_pure
  | ok replacement => exact Models.execute_bind fun _ => Models.execute_bind fun _ => models_pure

private theorem decideStage_models (stage : Stage) :
    Models (decideStage service caseId checkerId now stage) (stageAction service caseId checkerId now stage) := by
  cases stage with
  | rejected row => exact Models.execute_bind fun _ => models_pure
  | cancelled row maker => exact Models.execute_bind fun _ => Models.execute_bind fun _ => models_pure
  | retry row maker type request =>
    refine (retried_models.savepoint.bind record_models).congr fun db => ?_
    simp only [stageAction, behindSavepoint]
    cases settleInTransaction service type request false now db <;> rfl

private theorem stage_models : ∃ action, Models (approvalStage service caseId checkerId decision) action ∧
    ∀ db, (action db >>= fun result => stageAction service caseId checkerId now result.1 result.2) =
      approveExceptionResolution service caseId checkerId decision now db := by
  unfold approvalStage
  refine ⟨_, models_statement.bind fun approval => Models.ite models_pure <| Models.ite models_pure <|
    Models.query_bind fun original => Models.lift_bind fun request => Models.execute_bind fun _ => models_pure,
    fun db => ?_⟩
  unfold approveExceptionResolution
  cases db.approveExceptionResolution caseId checkerId decision with
  | error failure => rfl
  | ok approval =>
    obtain ⟨row, maker, db⟩ := approval
    by_cases hreject : decision = .reject
    · simp only [map_eq_bind, ok_bind, pure_bind, if_pos hreject]
      rfl
    by_cases hcancel : maker.decision = .cancel
    · simp only [map_eq_bind, ok_bind, pure_bind, if_neg hreject, if_pos hcancel]
      rfl
    · simp only [map_eq_bind, ok_bind, pure_bind, bind_assoc, if_neg hreject, if_neg hcancel,
        retryException, stageAction]
      refine bind_congr fun original => bind_congr fun originalRequest => ?_
      cases settleInTransaction service original.transactionType
        (retryRequest originalRequest row.id maker.proposedReplacementTransactionId) false now db <;> rfl

/-- Without an error of the server, an attempt does what the approval does. -/
theorem approvalAttempt_models :
    Models (approvalAttempt service caseId checkerId decision now)
      (approveExceptionResolution service caseId checkerId decision now) := by
  obtain ⟨action, hmodels, haction⟩ := @stage_models service now caseId checkerId decision
  unfold approvalAttempt
  apply Models.congr
  · exact hmodels.bind fun stage => (decideStage_models stage).bind fun decided =>
      Models.execute_bind fun _ => models_pure
  · intro db
    rw [← haction]
    refine congrArg _ (funext fun result => ?_)
    cases stageAction service caseId checkerId now result.1 result.2 <;> rfl

end Models

section Stops

variable {service : DurableWorkflowService} {type : TransactionType} {request : Request} {now : Int}
  {caseId checkerId : String} {decision : ApprovalDecision} {row : ExceptionCase} {maker : ApprovalRecord}

private theorem new_stops : Stops (newStatements service type request now) :=
  stops_statement.bind fun _ => stops_statement.bind fun _ => stops_lift.bind fun _ => stops_lift.bind fun _ =>
    stops_lift.bind fun _ => stops_statement.bind fun _ => stops_statement.bind fun _ => stops_statement.bind fun _ =>
    Stops.ite stops_statement <| stops_lift.bind fun _ => stops_lift.bind fun _ => stops_statement.bind fun _ =>
    stops_statement.bind fun _ => stops_statement.bind fun _ => stops_statement.bind fun _ =>
    stops_statement.bind fun _ => stops_statement.bind fun _ => stops_statement.bind fun _ =>
    stops_statement.bind fun _ => stops_pure

private theorem retried_stops : Stops (retriedSettlement service type request now) := by
  refine Stops.bind (stops_statement.bind fun replay => ?_) fun _ => stops_statement.bind fun _ => stops_pure
  cases replay with
  | some found => exact stops_lift.bind fun _ => stops_lift
  | none => exact new_stops

private theorem stage_stops : Stops (approvalStage service caseId checkerId decision) :=
  stops_statement.bind fun _ => Stops.ite stops_pure <| Stops.ite stops_pure <| stops_statement.bind fun _ =>
    stops_lift.bind fun _ => stops_statement.bind fun _ => stops_pure

private theorem record_stops (settled : Except Failure Receipt) : Stops (recordRetry row maker checkerId settled) := by
  cases settled with
  | error failure => exact stops_statement.bind fun _ => stops_statement.bind fun _ => stops_pure
  | ok replacement => exact stops_statement.bind fun _ => stops_statement.bind fun _ => stops_pure

end Stops

/-- One round of an approval: the time that the service reads, what others have
committed before it, and the conflicts that the database raises. -/
structure Round where
  now : Int
  others : Database → Database
  conflicts : Nat → Option Conflict

def Round.turn (round : Round) : Turn Failure Database :=
  ⟨round.others, fun number => (round.conflicts number).map Conflict.failure⟩

section Approval

variable (service : DurableWorkflowService) (caseId checkerId : String) (decision : ApprovalDecision)
  (rounds : Nat → Round) (db : Database)

/-- An approval: three attempts at most. -/
def approveWithRetries : Except Failure Decided × Database :=
  withRetries isRetryable (fun number => approvalAttempt service caseId checkerId decision (rounds number).now)
    (fun number => (rounds number).turn) 2 0 db

/-- The attempts of an approval, with the session in which each starts. -/
def approvalAttempts : List (Nat × Session Failure Database) :=
  attempts isRetryable (fun number => approvalAttempt service caseId checkerId decision (rounds number).now)
    (fun number => (rounds number).turn) 2 0 db

/-- A statement of the retried settlement raises a conflict. -/
def SettlementRaised (now : Int) (session : Session Failure Database) : Prop :=
  ∃ row maker type request start,
    approvalStage service caseId checkerId decision session = (.ok (.retry row maker type request), start) ∧
      (retriedSettlement service type request now start).2.raised ≠ start.raised

instance (now : Int) (session : Session Failure Database) :
    Decidable (SettlementRaised service caseId checkerId decision now session) :=
  match h : approvalStage service caseId checkerId decision session with
  | (.ok (.retry row maker type request), start) =>
    decidable_of_iff ((retriedSettlement service type request now start).2.raised ≠ start.raised)
      ⟨fun hraised => ⟨row, maker, type, request, start, h, hraised⟩, by
        rintro ⟨_, _, _, _, _, hstage, hraised⟩
        rw [h] at hstage
        cases hstage
        exact hraised⟩
  | (.ok (.rejected _), _) => isFalse (by rintro ⟨_, _, _, _, _, hstage, _⟩; rw [h] at hstage; cases hstage)
  | (.ok (.cancelled _ _), _) => isFalse (by rintro ⟨_, _, _, _, _, hstage, _⟩; rw [h] at hstage; cases hstage)
  | (.error _, _) => isFalse (by rintro ⟨_, _, _, _, _, hstage, _⟩; rw [h] at hstage; cases hstage)

/-- The retried settlement fails for a reason of its own, which is recorded. -/
def SettlementRefused (now : Int) (session : Session Failure Database) (reasonCode : String) : Prop :=
  ∃ row maker type request start failure,
    approvalStage service caseId checkerId decision session = (.ok (.retry row maker type request), start) ∧
      settleInTransaction service type request false now start.db = .error failure ∧
      reasonCode = if failure.code = "" then "RETRY_BLOCKED" else failure.code

/-- An attempt whose retried settlement raises a conflict is rolled back: it is made
again, or the conflict reaches the caller and nothing has changed. A case is opened
again with a blocked retry only when the settlement failed by itself. -/
structure ConflictsHandled : Prop where
  rolledBack : ∀ before number session after,
    approvalAttempts service caseId checkerId decision rounds db = before ++ (number, session) :: after →
      SettlementRaised service caseId checkerId decision (rounds number).now session →
      after ≠ [] ∨ ∃ conflict : Conflict,
        approveWithRetries service caseId checkerId decision rounds db = (.error conflict.failure, session.db)
  refused : ∀ blockedCase reasonCode,
    (approveWithRetries service caseId checkerId decision rounds db).1 = .ok (.retryBlocked blockedCase reasonCode) →
      ∃ before number session,
        approvalAttempts service caseId checkerId decision rounds db = before ++ [(number, session)] ∧
          SettlementRefused service caseId checkerId decision (rounds number).now session reasonCode

end Approval

section Attempt

variable {service : DurableWorkflowService} {caseId checkerId : String} {decision : ApprovalDecision} {now : Int}
  {session : Session Failure Database}

theorem isRetryable_conflict (conflict : Conflict) : isRetryable conflict.failure = true := by
  cases conflict <;> rfl

/-- Opening a case again fails for reasons of its own only. -/
theorem not_retryable_of_reopen {db : Database} {row : ExceptionCase} {reasonCode : Option String} {failure : Failure}
    (h : db.reopen row reasonCode checkerId = .error failure) : isRetryable failure = false := by
  obtain h | ⟨_, _, h⟩ := bind_eq_error_iff.mp h
  · obtain h | ⟨_, _, h⟩ := bind_eq_error_iff.mp h
    · unfold storage.TransactionTables.transitionTransaction at h
      obtain h | ⟨_, _, h⟩ := bind_eq_error_iff.mp h
      · rw [← (require_eq_error_iff.mp h).2]
        rfl
      obtain h | ⟨_, _, h⟩ := bind_eq_error_iff.mp h
      · rw [← (throwIf_eq_error_iff.mp h).2]
        rfl
      obtain h | ⟨_, _, h⟩ := bind_eq_error_iff.mp h
      · rw [← (throwIf_eq_error_iff.mp h).2]
        rfl
      · cases h
    · cases h
  · obtain h | ⟨_, _, h⟩ := bind_eq_error_iff.mp h
    · rw [← (require_eq_error_iff.mp h).2]
      rfl
    · cases h

/-- Errors that the server raises are the conflicts of the round. -/
private theorem conflict_of_fault {round : Round} {number : Nat} {failure : Failure}
    (h : round.turn.faults number = some failure) : ∃ conflict : Conflict, failure = conflict.failure := by
  obtain ⟨conflict, _, rfl⟩ := Option.map_eq_some_iff.mp h
  exact ⟨conflict, rfl⟩

/-- How an approval goes on after its settlement has failed. -/
private def afterFailure (row : ExceptionCase) (maker : ApprovalRecord) (checkerId : String) (failure : Failure) :
    Program Failure Database Decided := do
  let decided ← recordRetry row maker checkerId (.error failure)
  execute .ok
  return decided

private theorem afterFailure_stops {row : ExceptionCase} {maker : ApprovalRecord} {failure : Failure} :
    Stops (afterFailure row maker checkerId failure) :=
  (record_stops _).bind fun _ => stops_statement.bind fun _ => stops_pure

private theorem afterFailure_models {row : ExceptionCase} {maker : ApprovalRecord} {cause : Failure} :
    Models (afterFailure row maker checkerId cause) fun db =>
      db.reopen row (some (if cause.code = "" then "RETRY_BLOCKED" else cause.code)) checkerId >>= fun db =>
        .ok (.retryBlocked row.id (if cause.code = "" then "RETRY_BLOCKED" else cause.code), db) := by
  unfold afterFailure
  apply Models.congr
  · exact (record_models (.error cause)).bind fun decided => Models.execute_bind fun _ => models_pure
  · intro db
    dsimp only
    cases db.reopen row (some (if cause.code = "" then "RETRY_BLOCKED" else cause.code)) checkerId <;> rfl

private theorem afterFailure_keeps {row : ExceptionCase} {maker : ApprovalRecord} {cause failure : Failure}
    (hkept : (afterFailure row maker checkerId cause session).2.raised = session.raised)
    (hfails : (afterFailure row maker checkerId cause session).1 = .error failure) : isRetryable failure = false := by
  obtain ⟨houtcome, _⟩ := afterFailure_models.agrees session hkept
  rw [hfails] at houtcome
  cases hreopen : session.db.reopen row (some (if cause.code = "" then "RETRY_BLOCKED" else cause.code)) checkerId with
  | ok db =>
    rw [hreopen] at houtcome
    cases houtcome
  | error raised =>
    rw [hreopen] at houtcome
    obtain rfl := Except.error.inj houtcome
    exact not_retryable_of_reopen hreopen

/-- The outcome of an attempt whose retried settlement raised a conflict: a later
statement raises one as well and the attempt ends with it, or the attempt does not
end with a retryable error. -/
theorem attempt_of_settlementRaised {rounds : Nat → Round} {db : Database} {number : Nat}
    (hmem : (number, session) ∈ approvalAttempts service caseId checkerId decision rounds db)
    (hraised : SettlementRaised service caseId checkerId decision now session) :
    ((∃ conflict : Conflict, (approvalAttempt service caseId checkerId decision now session).1 =
      .error conflict.failure) ∧
        1 < (approvalAttempt service caseId checkerId decision now session).2.raised.length) ∨
      (approvalAttempt service caseId checkerId decision now session).2.raised.length = 1 ∧
        ∀ failure, (approvalAttempt service caseId checkerId decision now session).1 = .error failure →
          isRetryable failure = false := by
  obtain ⟨origin, hsession⟩ := session_of_mem_attempts hmem
  have hfaults : session.faults = (rounds number).turn.faults := congrArg Session.faults hsession
  have hfresh : session.raised = [] := congrArg Session.raised hsession
  obtain ⟨row, maker, type, request, start, hstage, hnot⟩ := hraised
  have hprefix := @stage_stops service caseId checkerId decision session
  rw [hstage] at hprefix
  obtain ⟨hstartFaults, hstart | ⟨_, _, _, hfails, _⟩⟩ := hprefix
  swap
  · cases hfails
  obtain ⟨hreachedFaults, hkept | ⟨position, error, hfault, herror, hreached⟩⟩ :=
    @retried_stops service type request now start
  · exact absurd hkept hnot
  cases hrun : retriedSettlement service type request now start with
  | mk outcome reached =>
    rw [hrun] at hreachedFaults herror hreached
    obtain rfl : outcome = .error error := herror
    have hsaved : savepoint (retriedSettlement service type request now) start =
        (.ok (.error error), { reached with db := start.db }) := by
      rw [savepoint, hrun]
    have hattempt : approvalAttempt service caseId checkerId decision now session =
        afterFailure row maker checkerId error { reached with db := start.db } := by
      unfold approvalAttempt
      rw [bind_of_ok hstage]
      exact bind_of_eq (bind_of_ok hsaved)
    obtain ⟨conflict, rfl⟩ := @conflict_of_fault (rounds number) position error (by
      rw [← hfaults, ← hstartFaults]
      exact hfault)
    change reached.raised = start.raised ++ [conflict.failure] at hreached
    rw [show start.raised = [] from hstart.trans hfresh, List.nil_append] at hreached
    rw [hattempt]
    obtain ⟨_, hend | ⟨again, later, hlater, hlaterError, hlaterRaised⟩⟩ :=
      @afterFailure_stops checkerId row maker conflict.failure { reached with db := start.db }
    · right
      refine ⟨by rw [hend]; simp [hreached], fun failure hfails => afterFailure_keeps hend hfails⟩
    · left
      obtain ⟨second, rfl⟩ := @conflict_of_fault (rounds number) again later (by
        rw [← hfaults, ← hstartFaults, ← hreachedFaults]
        exact hlater)
      exact ⟨⟨second, hlaterError⟩, by rw [hlaterRaised]; simp [hreached]⟩

/-- An attempt that reports a blocked retry, and whose settlement raised no conflict,
records why the settlement failed by itself. -/
theorem attempt_of_retryBlocked {blockedCase reasonCode : String}
    (hraised : ¬SettlementRaised service caseId checkerId decision now session)
    (hblocked : (approvalAttempt service caseId checkerId decision now session).1 =
      .ok (.retryBlocked blockedCase reasonCode)) :
    SettlementRefused service caseId checkerId decision now session reasonCode := by
  cases hrun : approvalAttempt service caseId checkerId decision now session with
  | mk outcome final =>
    rw [hrun] at hblocked
    obtain rfl : outcome = _ := hblocked
    unfold approvalAttempt at hrun
    obtain ⟨stage, start, hstage, hrun⟩ := bind_eq_ok_iff.mp hrun
    obtain ⟨decided, reached, hdecided, hrun⟩ := bind_eq_ok_iff.mp hrun
    obtain ⟨_, _, _, hrun⟩ := bind_eq_ok_iff.mp hrun
    obtain ⟨rfl, rfl⟩ := attempt.pure_eq_ok_iff.mp hrun
    cases stage with
    | rejected row =>
      obtain ⟨_, _, _, hreturned⟩ := bind_eq_ok_iff.mp hdecided
      cases (attempt.pure_eq_ok_iff.mp hreturned).1
    | cancelled row maker =>
      obtain ⟨_, _, _, hdecided⟩ := bind_eq_ok_iff.mp hdecided
      obtain ⟨_, _, _, hreturned⟩ := bind_eq_ok_iff.mp hdecided
      cases (attempt.pure_eq_ok_iff.mp hreturned).1
    | retry row maker type request =>
      obtain ⟨settled, behind, hsettled, hrecorded⟩ := bind_eq_ok_iff.mp hdecided
      have hnone : (retriedSettlement service type request now start).2.raised = start.raised := by
        by_contra hnot
        exact hraised ⟨row, maker, type, request, start, hstage, hnot⟩
      obtain ⟨houtcome, _⟩ := retried_models.agrees start hnone
      cases settled with
      | ok replacement =>
        obtain ⟨_, _, _, hrecorded⟩ := bind_eq_ok_iff.mp hrecorded
        obtain ⟨_, _, _, hreturned⟩ := bind_eq_ok_iff.mp hrecorded
        cases (attempt.pure_eq_ok_iff.mp hreturned).1
      | error failure =>
        obtain ⟨_, _, _, hrecorded⟩ := bind_eq_ok_iff.mp hrecorded
        obtain ⟨_, _, _, hreturned⟩ := bind_eq_ok_iff.mp hrecorded
        obtain ⟨rfl, rfl⟩ := Decided.retryBlocked.inj (attempt.pure_eq_ok_iff.mp hreturned).1
        have hfails : (retriedSettlement service type request now start).1 = .error failure := by
          have hsaved := @savepoint_fst _ _ _ (retriedSettlement service type request now) start
          rw [hsettled] at hsaved
          exact (Except.ok.inj hsaved).symm
        rw [hfails] at houtcome
        refine ⟨row, maker, type, request, start, failure, hstage, ?_, rfl⟩
        cases hsettle : settleInTransaction service type request false now start.db with
        | ok result =>
          rw [hsettle] at houtcome
          cases houtcome
        | error cause =>
          rw [hsettle] at houtcome
          rw [Except.error.inj houtcome]

end Attempt

variable {service : DurableWorkflowService} {caseId checkerId : String} {decision : ApprovalDecision}
  {rounds : Nat → Round} {db : Database}

/-- An approval treats conflicts in its retried settlement as it should exactly when
each attempt whose settlement raises one meets another one later. -/
theorem conflicts_handled_iff :
    ConflictsHandled service caseId checkerId decision rounds db ↔
      ∀ number session, (number, session) ∈ approvalAttempts service caseId checkerId decision rounds db →
        SettlementRaised service caseId checkerId decision (rounds number).now session →
        1 < (approvalAttempt service caseId checkerId decision (rounds number).now session).2.raised.length := by
  constructor
  · rintro ⟨hrolledBack, _⟩ number session hmem hraised
    obtain ⟨before, after, hsplit⟩ := List.append_of_mem hmem
    obtain ⟨_, hagain⟩ | ⟨_, hplain⟩ := attempt_of_settlementRaised hmem hraised
    · exact hagain
    obtain ⟨hfollowed, hlast⟩ := attempts_spec hsplit
    obtain hafter | ⟨conflict, hends⟩ := hrolledBack _ _ _ _ hsplit hraised
    · obtain ⟨failure, hfails, hretryable⟩ := hfollowed hafter
      rw [hplain failure hfails] at hretryable
      cases hretryable
    · by_cases hafter : after = []
      · rw [approveWithRetries, hlast hafter] at hends
        have hfails := finish_fst.symm.trans (congrArg Prod.fst hends)
        have hretryable := hplain _ hfails
        rw [isRetryable_conflict] at hretryable
        cases hretryable
      · obtain ⟨failure, hfails, hretryable⟩ := hfollowed hafter
        rw [hplain failure hfails] at hretryable
        cases hretryable
  · intro hagain
    have hconflict : ∀ {before number session after},
        approvalAttempts service caseId checkerId decision rounds db = before ++ (number, session) :: after →
          SettlementRaised service caseId checkerId decision (rounds number).now session → ∃ conflict : Conflict,
            (approvalAttempt service caseId checkerId decision (rounds number).now session).1 =
              .error conflict.failure := by
      intro before number session after hsplit hraised
      have hmem : (number, session) ∈ approvalAttempts service caseId checkerId decision rounds db := by
        rw [hsplit]
        simp
      obtain ⟨hends, _⟩ | ⟨hone, _⟩ := attempt_of_settlementRaised hmem hraised
      · exact hends
      · have hlength := hagain number session hmem hraised
        omega
    constructor
    · intro before number session after hsplit hraised
      obtain ⟨conflict, hends⟩ := hconflict hsplit hraised
      by_cases hafter : after = []
      · right
        refine ⟨conflict, ?_⟩
        rw [approveWithRetries, (attempts_spec hsplit).2 hafter]
        exact finish_of_error hends
      · exact Or.inl hafter
    · intro blockedCase reasonCode hblocked
      obtain ⟨before, ⟨number, session⟩, hsplit⟩ := List.eq_nil_or_concat'
        (approvalAttempts service caseId checkerId decision rounds db) |>.resolve_left attempts_ne_nil
      refine ⟨before, number, session, hsplit, ?_⟩
      rw [approveWithRetries, (attempts_spec hsplit).2 rfl, finish_fst] at hblocked
      refine attempt_of_retryBlocked (fun hraised => ?_) hblocked
      obtain ⟨conflict, hends⟩ := hconflict hsplit hraised
      rw [hends] at hblocked
      cases hblocked

/-- An attempt that succeeds although a statement of its settlement raised a conflict. -/
private theorem not_handled_of_ok {rounds : Nat → Round} {db : Database} {decided : Decided}
    (hraised : SettlementRaised service caseId checkerId decision (rounds 0).now ((rounds 0).turn.session db))
    (hdecided : (approvalAttempt service caseId checkerId decision (rounds 0).now
      ((rounds 0).turn.session db)).1.toOption = some decided) :
    ¬ConflictsHandled service caseId checkerId decision rounds db := by
  have hrun : (approvalAttempt service caseId checkerId decision (rounds 0).now
      ((rounds 0).turn.session db)).1 = .ok decided := by
    cases houtcome : (approvalAttempt service caseId checkerId decision (rounds 0).now
        ((rounds 0).turn.session db)).1 with
    | error failure =>
      rw [houtcome] at hdecided
      cases hdecided
    | ok outcome =>
      rw [houtcome] at hdecided
      rw [Option.some.inj hdecided]
  have hsplit : approvalAttempts service caseId checkerId decision rounds db =
      [] ++ (0, (rounds 0).turn.session db) :: [] :=
    attempts_of_ok hrun
  rintro ⟨hrolledBack, _⟩
  obtain hafter | ⟨conflict, hends⟩ := hrolledBack [] 0 _ [] hsplit hraised
  · exact hafter rfl
  · rw [approveWithRetries, (attempts_spec hsplit).2 rfl] at hends
    have hfails := finish_fst.symm.trans (congrArg Prod.fst hends)
    cases hrun.symm.trans hfails

section Sample

/-- Another transaction has changed the product since the approval began: the
statement that locks it fails. -/
def sampleRound : Round where
  now := 3
  others := id
  conflicts := fun number => if number = 4 then some .serializationFailure else none

theorem conflicts_not_handled :
    ¬ConflictsHandled sampleService "case-transfer-1" "checker" .approve (fun _ => sampleRound)
      (run sampleService (sampleActions.take 4)) := by
  have hattempt : SettlementRaised sampleService "case-transfer-1" "checker" .approve 3
        (sampleRound.turn.session (run sampleService (sampleActions.take 4))) ∧
      (approvalAttempt sampleService "case-transfer-1" "checker" .approve 3
        (sampleRound.turn.session (run sampleService (sampleActions.take 4)))).1.toOption =
          some (.retryBlocked "case-transfer-1" "40001") := by
    rw [sampleService_eq_quick]
    decide +kernel
  exact @not_handled_of_ok sampleService "case-transfer-1" "checker" .approve (fun _ => sampleRound) _ _
    hattempt.1 hattempt.2

end Sample

end rwa.durable
