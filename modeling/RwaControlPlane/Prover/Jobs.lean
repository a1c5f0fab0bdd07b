import Mathlib.Data.Prod.Lex
import Mathlib.Data.String.Basic
import RwaControlPlane.Library.Paging
import RwaControlPlane.Prover.Client
import RwaControlPlane.Gate.Store

open checked paging
open rwa.storage (checkViolation)
open rwa.gate (uniqueViolation)

namespace rwa.prover

def maxAttempts : Nat := 8

inductive JobState
  | queued | submitting | remotePending | verifying | retryable | verified | failed | cancelled
deriving DecidableEq

/-- `lease_owner` with `lease_expires_at`, which are null together. -/
structure Lease where
  owner : String
  expiresAt : Int
deriving DecidableEq

/-- `prover_jobs`. The witness reference is what its ciphertext decrypts to. -/
structure ProverJob where
  id : String
  transactionId : String
  tenantId : String
  productId : String
  circuitId : String
  circuitVersion : String
  authorizationHash : String
  witnessReference : String
  state : JobState
  externalJobId : Option String
  attempts : Nat
  pollCount : Nat
  nextAttemptAt : Int
  lease : Option Lease
  proofReceiptId : Option String
  lastErrorCode : Option String
  requestedBy : String
  requestedAt : Int
  updatedAt : Int
deriving DecidableEq

/-- `publicJob` -/
structure PublicJob where
  jobId : String
  transactionId : String
  state : JobState
  attempts : Nat
  pollCount : Nat
  nextAttemptAt : Int
  proofReceiptId : Option String
  lastErrorCode : Option String
  requestedAt : Int
  updatedAt : Int
deriving DecidableEq

def publicJob (row : ProverJob) : PublicJob where
  jobId := row.id
  transactionId := row.transactionId
  state := row.state
  attempts := row.attempts
  pollCount := row.pollCount
  nextAttemptAt := row.nextAttemptAt
  proofReceiptId := row.proofReceiptId
  lastErrorCode := row.lastErrorCode
  requestedAt := row.requestedAt
  updatedAt := row.updatedAt

/-- The states that `guard_prover_job_lifecycle` lets a job move to. -/
def successors : JobState → List JobState
  | .queued => [.submitting, .cancelled]
  | .submitting => [.remotePending, .retryable, .failed]
  | .remotePending => [.verifying, .remotePending, .retryable, .failed, .cancelled]
  | .verifying => [.verified, .remotePending, .retryable, .failed]
  | .retryable => [.submitting, .verifying, .failed, .cancelled]
  | .verified | .failed | .cancelled => []

/-- `guard_prover_job_lifecycle` on an update. -/
def LifecycleAllows (old new : ProverJob) : Prop :=
  (new.id = old.id ∧ new.transactionId = old.transactionId ∧ new.tenantId = old.tenantId ∧
    new.productId = old.productId ∧ new.circuitId = old.circuitId ∧ new.circuitVersion = old.circuitVersion ∧
    new.authorizationHash = old.authorizationHash ∧ new.witnessReference = old.witnessReference ∧
    new.requestedBy = old.requestedBy ∧ new.requestedAt = old.requestedAt) ∧
  new.state ∈ successors old.state

instance (old new : ProverJob) : Decidable (LifecycleAllows old new) := inferInstanceAs (Decidable (_ ∧ _))

/-- Check constraints of the table. -/
def Valid (row : ProverJob) : Prop := row.attempts ≤ 32 ∧ (row.state = .verified ↔ row.proofReceiptId ≠ none)

instance (row : ProverJob) : Decidable (Valid row) := inferInstanceAs (Decidable (_ ∧ _))

def invalidLifecycle : Failure := ⟨"55000", "invalid prover job lifecycle mutation"⟩

/-- An UPDATE of the table: the rows it applies to and what it sets. -/
structure Update where
  applies : ProverJob → Bool
  set : ProverJob → ProverJob

/-- The table after an update. -/
def Update.table (update : Update) (jobs : List ProverJob) : List ProverJob :=
  jobs.map fun row => if update.applies row then update.set row else row

/-- Execute an update with the trigger and the constraints of the table. The rows
it has changed are returned. -/
def Update.execute (update : Update) (jobs : List ProverJob) :
    Except Failure (List ProverJob × List ProverJob) := do
  throwIf (∃ row ∈ jobs, update.applies row = true ∧ ¬LifecycleAllows row (update.set row)) invalidLifecycle
  throwIf (∃ row ∈ jobs, update.applies row = true ∧ ¬Valid (update.set row)) checkViolation
  let next := update.table jobs
  throwIf (¬(next.filterMap ProverJob.externalJobId).Nodup ∨ ¬(next.filterMap ProverJob.proofReceiptId).Nodup)
    uniqueViolation
  pure ((jobs.filter update.applies).map update.set, next)

namespace ProverJob

def Leased (row : ProverJob) : Prop := row.state = .submitting ∨ row.state = .verifying

instance (row : ProverJob) : Decidable row.Leased := inferInstanceAs (Decidable (_ ∨ _))

def expired (row : ProverJob) (now : Int) : Bool := row.lease.any (·.expiresAt ≤ now)

/-- The worker has leased the job and its state is the given one. -/
def heldBy (row : ProverJob) (jobId workerId : String) (states : List JobState) : Bool :=
  row.id = jobId && row.lease.any (·.owner = workerId) && states.contains row.state

/-- Without the columns of its lease. -/
def released (row : ProverJob) (state : JobState) (now : Int) : ProverJob :=
  { row with state, lease := none, updatedAt := now }

end ProverJob

/-- Give up the attempts whose lease has expired. Rows that the statement does not
see are left out. -/
def expireLeases (tenantId : String) (unseen : List String) (now : Int) : Update where
  applies row := row.tenantId = tenantId && decide row.Leased && row.expired now && !unseen.contains row.id
  set row :=
    { row.released (if maxAttempts ≤ row.attempts + 1 then .failed else .retryable) now with
      attempts := row.attempts + 1
      lastErrorCode := some "PROVER_LEASE_EXPIRED"
      nextAttemptAt := now }

/-- A job that a worker may claim. -/
def claimable (tenantId : String) (now : Int) (row : ProverJob) : Bool :=
  row.tenantId = tenantId && [JobState.queued, .remotePending, .retryable].contains row.state &&
    row.nextAttemptAt ≤ now && (row.lease.isNone || row.expired now)

/-- The first job to claim that no other transaction has locked. -/
def nextJob (tenantId : String) (locked : List String) (now : Int) (jobs : List ProverJob) : Option ProverJob :=
  (inOrder (fun row => toLex (row.nextAttemptAt, toLex (row.requestedAt, row.id)))
    (jobs.filter fun row => claimable tenantId now row && !locked.contains row.id)).head?

/-- The service has an identity for the job. -/
def ProverJob.submitted (row : ProverJob) : Bool := row.externalJobId.any (· ≠ "")

def claim (row : ProverJob) (workerId : String) (leaseMs now : Int) : Update where
  applies other := other.id = row.id
  set other :=
    { other with
      state := if row.submitted then .verifying else .submitting
      lease := some { owner := workerId, expiresAt := now + leaseMs }
      pollCount := other.pollCount + if other.externalJobId.isNone then 0 else 1
      updatedAt := now }

def recordSubmission (job : ProverJob) (workerId externalJobId : String) (now : Int) : Update where
  applies row := row.heldBy job.id workerId [.submitting]
  set row :=
    { row.released .remotePending now with
      externalJobId := some externalJobId
      nextAttemptAt := now + 1000
      lastErrorCode := none }

/-- Polls of a pending job back off from 2 to 30 seconds. -/
def recordPending (job : ProverJob) (workerId : String) (now : Int) : Update where
  applies row := row.heldBy job.id workerId [.verifying]
  set row :=
    { row.released .remotePending now with
      nextAttemptAt := now + 1000 * min 30 (2 * 2 ^ min (row.pollCount / 5) 4) }

def recordRemoteFailure (job : ProverJob) (workerId errorCode : String) (now : Int) : Update where
  applies row := row.heldBy job.id workerId [.verifying]
  set row := { row.released .failed now with lastErrorCode := some errorCode }

def recordVerified (job : ProverJob) (workerId receiptId : String) (now : Int) : Update where
  applies row := row.heldBy job.id workerId [.verifying]
  set row := { row.released .verified now with proofReceiptId := some receiptId, lastErrorCode := none }

/-- The update of `#retry`. It decides on the attempts that the worker has read
when it claimed the job. -/
def recordRetry (job : ProverJob) (workerId : String) (failure : Failure) (now : Int) : Update where
  applies row := row.heldBy job.id workerId [.submitting, .verifying]
  set row :=
    { row.released (if maxAttempts ≤ job.attempts + 1 then .failed else .retryable) now with
      attempts := row.attempts + 1
      lastErrorCode := some (if errorCodePattern failure.code then failure.code else "PROVER_SERVICE_FAILURE")
      nextAttemptAt := now + 1000 * min 60 (2 ^ min (job.attempts + 1) 6) }

end rwa.prover
