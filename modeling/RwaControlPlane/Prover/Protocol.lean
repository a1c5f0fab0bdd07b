import RwaControlPlane.Gate.Acceptance
import RwaControlPlane.Prover.Reachable

open checked leases js_value
open rwa.gate (ZkSettlementGate sampleInputs sampleDatabase sampleContext samplePoseidon3)
open rwa.security (toText)

namespace rwa.prover

variable {state : ProverState}

/-- The updates by which a worker commits the outcome of its attempt. -/
inductive Outcome (workerId : String) (job : ProverJob) : Update → Prop
  | submitted (externalJobId : String) (now : Int) :
      Outcome workerId job (recordSubmission job workerId externalJobId now)
  | pending (now : Int) : Outcome workerId job (recordPending job workerId now)
  | remoteFailed (errorCode : String) (now : Int) :
      Outcome workerId job (recordRemoteFailure job workerId errorCode now)
  | verified (receiptId : String) (now : Int) : Outcome workerId job (recordVerified job workerId receiptId now)
  | retried (failure : Failure) (now : Int) : Outcome workerId job (recordRetry job workerId failure now)

/-- What a step can do to the table of jobs. -/
inductive Writes (state : ProverState) : List ProverJob → Prop
  | nothing : Writes state state.jobs
  | requested (row : ProverJob) (hqueued : row.state = .queued) : Writes state (state.jobs ++ [row])
  | swept (tenantId : String) (unseen : List String) (now : Int) {rows swept : List ProverJob}
      (hswept : (expireLeases tenantId unseen now).execute state.jobs = .ok (rows, swept)) : Writes state swept
  | claimed (tenantId : String) (unseen locked : List String) (sweptAt now : Int) (row : ProverJob)
      (workerId : String) (leaseMs : Int) {rows swept claimed next : List ProverJob}
      (hswept : (expireLeases tenantId unseen sweptAt).execute state.jobs = .ok (rows, swept))
      (hnext : nextJob tenantId locked now swept = some row)
      (hclaimed : (claim row workerId leaseMs now).execute swept = .ok (claimed, next)) : Writes state next
  | outcome (workerId : String) (run : WorkerRun) (update : Update) {rows next : List ProverJob}
      (hrun : state.workers workerId = some run) (houtcome : Outcome workerId run.job update)
      (hexecute : update.execute state.jobs = .ok (rows, next)) : Writes state next

/-- An outcome applies to a row only while the worker holds its lease. -/
theorem Outcome.heldBy {workerId : String} {job row : ProverJob} {update : Update} (h : Outcome workerId job update)
    (happlies : update.applies row = true) : ∃ states, row.heldBy job.id workerId states = true := by
  cases h <;> exact ⟨_, happlies⟩

section Writes

variable {workerId : String} {run : WorkerRun}

end Writes

/-- The sample gate with proofs that are read from JSON. -/
def sampleGate : ZkSettlementGate JsValue where
  adapter :=
    { circuitId := "confidential_ledger"
      circuitVersion := "v3"
      verificationKeyHash := "key"
      manifestHash := "manifest"
      verify := fun publicSignals _ => .ok (decide (publicSignals = (sampleInputs 17).toList.map toText))
      sha256 := fun _ => String.ofList (List.replicate 64 'a')
      proofHash := fun _ => "proof" }
  governanceTenantId := "tenant"
  payloadHash := fun _ => "payload"
  poseidon3 := samplePoseidon3
  maxConcurrentVerifications := 2

def sampleService : ProverJobService where
  tenantId := "tenant"
  leaseMs := 30000
  expectedServiceId := "prover"
  numberText := fun _ => ""

def sampleStart : gate.Database :=
  sampleDatabase (sampleInputs 17) [sampleContext (sampleInputs 17)] [⟨1, 17, 4, none, .historical, none, "import"⟩]

/-- An answer of the prover service about its job. -/
def sampleAnswer (state : String) (result : List (String × JsValue)) : ServiceResponse where
  proverId := some "prover"
  byteLength := 0
  ok := true
  status := 200
  body := some (.object ([("schema", .string "rwa.prover-job-status.v1"), ("jobId", .string "remote"),
    ("state", .string state)] ++ result))

def sampleProof : ServiceResponse :=
  sampleAnswer "SUCCEEDED" [("result", .object [("proof", .object []),
    ("publicSignals", .array ((sampleInputs 17).toList.map fun signal => .string (toText signal)))])]

/-- A job of an authorized transfer, submitted to the prover service. -/
def sampleSubmission : List Action :=
  [.gate (.authorize ⟨"tx", "tenant", gate.submitted (sampleInputs 17), none⟩ 50),
    .request sampleService ⟨"tx", "tenant", "vault://witness", "broker", none⟩ "uuid" 0,
    .runOnce sampleService "first" [] [] 0 0 none,
    .submit "first" (sampleAnswer "QUEUED" []) 0 none]

/-- The rest of a run in which the worker accepts the proof. -/
def sampleVerification : List Action :=
  [.runOnce sampleService "first" [] [] 1000 1000 none,
    .poll "first" sampleProof false 1000 none,
    .record "first" "uuid" 50 none,
    .verify "first" 1000 none]

theorem sampleStart_keyed : Keyed sampleStart where
  transactions := List.nodup_singleton _
  receipts := List.nodup_nil

end rwa.prover
