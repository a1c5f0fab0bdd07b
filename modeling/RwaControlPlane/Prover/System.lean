import Mathlib.Logic.Function.Basic
import RwaControlPlane.Gate.Commit
import RwaControlPlane.Library.Leases
import RwaControlPlane.Prover.Jobs

open checked js_value leases
open rwa.security (JoinSplitPublicInputs FieldElement verifyJoinSplit)
open rwa.catalog (sha256Pattern)
open rwa.storage (checkViolation)
open rwa.gate (GateState ZkSettlementGate AcceptRequest Acceptance readAuthorization recordAcceptance uniqueViolation)

namespace rwa.prover

/-- Configuration of `ProverJobService`. -/
structure ProverJobService where
  tenantId : String
  leaseMs : Int
  expectedServiceId : String
  numberText : Rat → String

structure JobRequest where
  transactionId : String
  tenantId : String
  witnessReference : String
  requestedBy : String
  actorInstitutionId : Option String

def bounded (value label : String) : Except Failure Unit :=
  throwIf (¬js_text.Bounded value 200) ⟨"INVALID_PROVER_JOB", label ++ " must be a bounded non-empty string"⟩

/-- A transaction of the tenant with its authorization. -/
def authorizedTransaction (db : gate.Database) (transactionId tenantId : String) :
    Option (gate.TransactionIntent × gate.Authorization) := do
  let transaction ← db.transactions.find? (·.id = transactionId)
  let authorization ← db.authorizations.find? (·.transactionId = transactionId)
  guard (transaction.tenantId = tenantId ∧ authorization.tenantId = transaction.tenantId)
  pure (transaction, authorization)

/-- The row of a new job. -/
def queuedJob (request : JobRequest) (transaction : gate.TransactionIntent) (authorization : gate.Authorization)
    (uuid : String) (now : Int) : ProverJob where
  id := "prover:" ++ request.transactionId ++ ":" ++ uuid
  transactionId := request.transactionId
  tenantId := request.tenantId
  productId := transaction.productId
  circuitId := authorization.circuitId
  circuitVersion := authorization.circuitVersion
  authorizationHash := authorization.publicInputsHash
  witnessReference := request.witnessReference
  state := .queued
  externalJobId := none
  attempts := 0
  pollCount := 0
  nextAttemptAt := now
  lease := none
  proofReceiptId := none
  lastErrorCode := none
  requestedBy := request.requestedBy
  requestedAt := now
  updatedAt := now

/-- `request`: the job of a transaction, and whether it is new. -/
def requestJob (service : ProverJobService) (request : JobRequest) (uuid : String) (now : Int) (db : gate.Database)
    (jobs : List ProverJob) : Except Failure ((ProverJob × Bool) × List ProverJob) := do
  bounded request.transactionId "transactionId"
  bounded request.requestedBy "requestedBy"
  throwIf (request.tenantId ≠ service.tenantId)
    ⟨"TENANT_SCOPE_MISMATCH", "prover job is outside this runtime tenant"⟩
  throwIf (witnessReferencePattern request.witnessReference = false)
    ⟨"INVALID_WITNESS_REFERENCE", "an opaque bounded witness reference is required"⟩
  let (transaction, authorization) ← require (authorizedTransaction db request.transactionId request.tenantId)
    ⟨"ZK_TRANSACTION_NOT_AUTHORIZED", "transaction has no immutable ZK authorization"⟩
  throwIf (∃ institutionId ∈ request.actorInstitutionId,
      institutionId = "" ∨ transaction.originatingInstitutionId ≠ some institutionId)
    ⟨"ZK_TRANSACTION_NOT_AUTHORIZED", "transaction is unavailable to this institution"⟩
  throwIf (transaction.currentState ≠ .proofPending ∨ authorization.status ≠ .pending)
    ⟨"INVALID_ZK_TRANSACTION_STATE", "transaction is not awaiting proof generation"⟩
  match jobs.find? fun row => row.transactionId = request.transactionId && row.tenantId = request.tenantId with
  | some existing => pure ((existing, false), jobs)
  | none => do
    let row := queuedJob request transaction authorization uuid now
    throwIf (sha256Pattern row.authorizationHash = false) checkViolation
    throwIf (row.id ∈ jobs.map ProverJob.id ∨ row.transactionId ∈ jobs.map ProverJob.transactionId) uniqueViolation
    pure ((row, true), jobs ++ [row])

/-- What a transaction of `runOnce` has done to the jobs. -/
structure Claimed where
  abandoned : List ProverJob
  claimed : Option ProverJob
  jobs : List ProverJob

/-- The transaction of `runOnce`: it gives up the expired attempts and claims a
job. -/
def claimJob (service : ProverJobService) (workerId : String) (unseen locked : List String) (sweptAt now : Int)
    (jobs : List ProverJob) : Except Failure Claimed := do
  bounded workerId "workerId"
  let (abandoned, swept) ← (expireLeases service.tenantId unseen sweptAt).execute jobs
  match nextJob service.tenantId locked now swept with
  | none => pure { abandoned, claimed := none, jobs := swept }
  | some row => do
    let (claimed, next) ← (claim row workerId service.leaseMs now).execute swept
    pure { abandoned, claimed := claimed.head?, jobs := next }

/-- Where a worker stands with the job it has claimed. -/
inductive Phase
  | submitting
  | polling
  | accepting (request : AcceptRequest JsValue) (expected : JoinSplitPublicInputs FieldElement)
  | lookingUp (failure : Failure)
  | accepted (receiptId : String)
  | retrying (failure : Failure)

/-- How the attempt of a claim has ended: by an update of a worker, or because its
lease has expired. -/
inductive Ending
  | submitted (workerId : String)
  | pending (workerId : String)
  | remoteFailed (workerId : String)
  | verified (workerId : String)
  | failed (workerId : String)
  | abandoned
deriving DecidableEq

/-- A claim that has committed: a grant of a job to a worker. -/
abbrev Claim := Grant String String Ending

/-- A worker at a job: the row that it has claimed, and the position of its
claim among all claims. -/
structure WorkerRun where
  service : ProverJobService
  job : ProverJob
  claim : Nat
  phase : Phase

/-- The database, the workers that are at work and the committed claims. The claims
are a record for the proofs; no operation reads them. -/
structure ProverState where
  gate : GateState JsValue
  jobs : List ProverJob
  workers : String → Option WorkerRun
  claims : List Claim

/-- What a step returns to its caller. -/
inductive Response
  | requested (job : PublicJob) (created : Bool)
  | idle
  | continues
  | ran (job : PublicJob)
  | gate (response : Except Failure gate.Response)

/-- One step of the system. A lost answer is the failure that a worker sees in its
place. -/
inductive Action
  | request (service : ProverJobService) (request : JobRequest) (uuid : String) (now : Int)
  | runOnce (service : ProverJobService) (workerId : String) (unseen locked : List String) (sweptAt now : Int)
      (lost : Option Failure)
  | submit (workerId : String) (response : ServiceResponse) (now : Int) (lost : Option Failure)
  | poll (workerId : String) (response : ServiceResponse) (busy : Bool) (now : Int) (lost : Option Failure)
  | record (workerId uuid : String) (now : Int) (lost : Option Failure)
  | lookUp (workerId : String)
  | verify (workerId : String) (now : Int) (lost : Option Failure)
  | retry (workerId : String) (now : Int) (lost : Option Failure)
  | fail (workerId : String) (failure : Failure)
  | crash (workerId : String)
  | gate (action : gate.Action JsValue)

namespace ProverState

def atWork (state : ProverState) (workerId : String) (run : WorkerRun) : ProverState :=
  { state with workers := Function.update state.workers workerId (some run) }

def done (state : ProverState) (workerId : String) : ProverState :=
  { state with workers := Function.update state.workers workerId none }

def move (state : ProverState) (workerId : String) (run : WorkerRun) (phase : Phase) : ProverState :=
  state.atWork workerId { run with phase }

/-- The catch of `runOnce`. -/
def caught (state : ProverState) (workerId : String) (run : WorkerRun) (failure : Failure) :
    Except Failure Response × ProverState :=
  (.error failure, state.move workerId run (.retrying failure))

/-- Commit an update of the jobs that ends the claims of the rows it has changed. -/
def commit (state : ProverState) (rows jobs : List ProverJob) (ending : Ending) : ProverState :=
  { state with jobs, claims := close (rows.map ProverJob.id) ending state.claims }

/-- `runOnce`, until the job is claimed. -/
def runOnce (state : ProverState) (service : ProverJobService) (workerId : String) (unseen locked : List String)
    (sweptAt now : Int) (lost : Option Failure) : Except Failure Response × ProverState :=
  match state.workers workerId, claimJob service workerId unseen locked sweptAt now state.jobs with
  | some _, _ => (.ok .idle, state)
  | none, .error failure => (.error failure, state)
  | none, .ok outcome =>
    let swept := state.commit outcome.abandoned outcome.jobs .abandoned
    match outcome.claimed with
    | none => ((lost.map Except.error).getD (.ok .idle), swept)
    | some job =>
      let claimed := { swept with claims := issue job.id workerId swept.claims }
      match lost with
      | some failure => (.error failure, claimed)
      | none =>
        (.ok .continues,
          claimed.atWork workerId
            { service, job, claim := swept.claims.length
              phase := if job.submitted then .polling else .submitting })

/-- A worker's update of its job. It must find the job still leased by the
worker. -/
def conclude (state : ProverState) (workerId : String) (run : WorkerRun) (update : Update) (ending : Ending)
    (leaseLost : String) (lost : Option Failure) : Except Failure Response × ProverState :=
  match update.execute state.jobs with
  | .error failure => state.caught workerId run failure
  | .ok (rows, jobs) =>
    let committed := state.commit rows jobs ending
    match lost, rows with
    | some failure, _ => committed.caught workerId run failure
    | none, [row] => (.ok (.ran (publicJob row)), committed.done workerId)
    | none, _ => committed.caught workerId run ⟨"PROVER_JOB_LEASE_LOST", leaseLost⟩

/-- `#submit` -/
def submit (state : ProverState) (workerId : String) (run : WorkerRun) (response : ServiceResponse) (now : Int)
    (lost : Option Failure) : Except Failure Response × ProverState :=
  let request : SubmitRequest :=
    { requestId := run.job.id
      transactionId := run.job.transactionId
      circuitId := run.job.circuitId
      circuitVersion := run.job.circuitVersion
      authorizationHash := run.job.authorizationHash
      witnessReference := run.job.witnessReference }
  match submitJob run.service.numberText run.service.expectedServiceId request response with
  | .error failure => state.caught workerId run failure
  | .ok externalJobId =>
    state.conclude workerId run (recordSubmission run.job workerId externalJobId now) (.submitted workerId)
      "prover job lease was lost after submission" lost

/-- The catch around `accept`: a transaction that was already accepted has a
receipt. -/
def refused (state : ProverState) (workerId : String) (run : WorkerRun) (failure : Failure) :
    Except Failure Response × ProverState :=
  if failure.code = "ZK_TRANSACTION_NOT_AUTHORIZED" then
    (.ok .continues, state.move workerId run (.lookingUp failure))
  else state.caught workerId run failure

def acceptedBy (state : ProverState) (workerId : String) (run : WorkerRun) (receiptId : String) :
    Except Failure Response × ProverState :=
  if receiptId = "" then
    state.caught workerId run
      ⟨"INVALID_ZK_GATE_RECEIPT", "verified ZK gate did not return a proof receipt identity"⟩
  else (.ok .continues, state.move workerId run (.accepted receiptId))

/-- `#poll`, until the gate has read the authorization. -/
def poll (zkGate : ZkSettlementGate JsValue) (state : ProverState) (workerId : String) (run : WorkerRun)
    (response : ServiceResponse) (busy : Bool) (now : Int) (lost : Option Failure) :
    Except Failure Response × ProverState :=
  match getJob run.service.expectedServiceId (run.job.externalJobId.getD "") response with
  | .error failure => state.caught workerId run failure
  | .ok .pending =>
    state.conclude workerId run (recordPending run.job workerId now) (.pending workerId)
      "prover job lease was lost while polling" lost
  | .ok (.failed errorCode) =>
    state.conclude workerId run (recordRemoteFailure run.job workerId errorCode now) (.remoteFailed workerId)
      "prover job lease was lost while recording failure" lost
  | .ok .cancelled =>
    state.conclude workerId run (recordRemoteFailure run.job workerId "PROVER_JOB_FAILED" now)
      (.remoteFailed workerId) "prover job lease was lost while recording failure" lost
  | .ok (.succeeded proof publicSignals) =>
    let request : AcceptRequest JsValue :=
      { transactionId := run.job.transactionId
        tenantId := run.job.tenantId
        proof := some proof
        publicSignals
        actorInstitutionId := none }
    match readAuthorization zkGate.adapter request state.gate.db with
    | .error failure => state.refused workerId run failure
    | .ok expected =>
      if busy then
        state.caught workerId run ⟨"PROOF_VERIFIER_BUSY", "proof verifier concurrency limit reached"⟩
      else (.ok .continues, state.move workerId run (.accepting request expected))

/-- The verification and the transaction of `accept`. -/
def record (zkGate : ZkSettlementGate JsValue) (state : ProverState) (workerId : String) (run : WorkerRun)
    (request : AcceptRequest JsValue) (expected : JoinSplitPublicInputs FieldElement) (uuid : String) (now : Int)
    (lost : Option Failure) : Except Failure Response × ProverState :=
  match verifyJoinSplit zkGate.adapter request.proof request.publicSignals expected with
  | .error failure => state.refused workerId run failure
  | .ok verification =>
    match recordAcceptance request expected verification uuid now state.gate.db with
    | .error failure => state.refused workerId run failure
    | .ok (metadata, db) =>
      let accepted :=
        { state with
          gate :=
            { state.gate with
              db
              history := state.gate.history ++ [gate.Event.accepted (Acceptance.of request expected metadata)] } }
      match lost with
      | some failure => accepted.refused workerId run failure
      | none => accepted.acceptedBy workerId run metadata.receiptId

/-- The search for the receipt of an acceptance that was made before. -/
def lookUp (state : ProverState) (workerId : String) (run : WorkerRun) (failure : Failure) :
    Except Failure Response × ProverState :=
  match single (state.gate.db.receipts.filter fun receipt =>
      receipt.transactionId = run.job.transactionId && receipt.tenantId = run.job.tenantId) with
  | none => state.caught workerId run failure
  | some receipt => state.acceptedBy workerId run receipt.id

/-- `#retry`. The worker is done with the job whether it finds it or not. -/
def retry (state : ProverState) (workerId : String) (run : WorkerRun) (failure : Failure) (now : Int)
    (lost : Option Failure) : Except Failure Response × ProverState :=
  match (recordRetry run.job workerId failure now).execute state.jobs with
  | .error cause => (.error cause, state.done workerId)
  | .ok (rows, jobs) =>
    let committed := (state.commit rows jobs (.failed workerId)).done workerId
    match lost, rows with
    | some cause, _ => (.error cause, committed)
    | none, [row] => (.ok (.ran (publicJob row)), committed)
    | none, _ => (.error failure, committed)

/-- An error of something that a worker has called. -/
def fail (state : ProverState) (workerId : String) (run : WorkerRun) (failure : Failure) :
    Except Failure Response × ProverState :=
  match run.phase with
  | .accepting _ _ => state.refused workerId run failure
  | .retrying _ => (.error failure, state.done workerId)
  | _ => state.caught workerId run failure

end ProverState

/-- The response and the next state of one step. A worker takes the steps of the
phase it is in. -/
def respond (zkGate : ZkSettlementGate JsValue) (state : ProverState) : Action → Except Failure Response × ProverState
  | .request service request uuid now =>
    match requestJob service request uuid now state.gate.db state.jobs with
    | .error failure => (.error failure, state)
    | .ok ((job, created), jobs) => (.ok (.requested (publicJob job) created), { state with jobs })
  | .runOnce service workerId unseen locked sweptAt now lost =>
    state.runOnce service workerId unseen locked sweptAt now lost
  | .submit workerId response now lost =>
    match state.workers workerId with
    | some ⟨service, job, claim, .submitting⟩ =>
      state.submit workerId ⟨service, job, claim, .submitting⟩ response now lost
    | _ => (.ok .idle, state)
  | .poll workerId response busy now lost =>
    match state.workers workerId with
    | some ⟨service, job, claim, .polling⟩ =>
      state.poll zkGate workerId ⟨service, job, claim, .polling⟩ response busy now lost
    | _ => (.ok .idle, state)
  | .record workerId uuid now lost =>
    match state.workers workerId with
    | some ⟨service, job, claim, .accepting request expected⟩ =>
      state.record zkGate workerId ⟨service, job, claim, .accepting request expected⟩ request expected uuid now lost
    | _ => (.ok .idle, state)
  | .lookUp workerId =>
    match state.workers workerId with
    | some ⟨service, job, claim, .lookingUp failure⟩ =>
      state.lookUp workerId ⟨service, job, claim, .lookingUp failure⟩ failure
    | _ => (.ok .idle, state)
  | .verify workerId now lost =>
    match state.workers workerId with
    | some ⟨service, job, claim, .accepted receiptId⟩ =>
      state.conclude workerId ⟨service, job, claim, .accepted receiptId⟩
        (recordVerified job workerId receiptId now) (.verified workerId)
        "prover job lease was lost after verification" lost
    | _ => (.ok .idle, state)
  | .retry workerId now lost =>
    match state.workers workerId with
    | some ⟨service, job, claim, .retrying failure⟩ =>
      state.retry workerId ⟨service, job, claim, .retrying failure⟩ failure now lost
    | _ => (.ok .idle, state)
  | .fail workerId failure =>
    match state.workers workerId with
    | some run => state.fail workerId run failure
    | none => (.ok .idle, state)
  | .crash workerId => (.ok .idle, state.done workerId)
  | .gate action =>
    (.ok (.gate (gate.respond zkGate state.gate action).1),
      { state with gate := (gate.respond zkGate state.gate action).2 })

end rwa.prover
