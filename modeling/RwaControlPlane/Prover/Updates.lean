import RwaControlPlane.Prover.System

open checked keyed_rows leases paging
open rwa.gate (ProofReceipt)

namespace rwa.prover

variable {jobs rows next : List ProverJob} {row job : ProverJob} {update : Update}

/-- The trigger lets an update through. -/
def Update.Allowed (update : Update) (jobs : List ProverJob) : Prop :=
  ∀ row ∈ jobs, update.applies row = true → LifecycleAllows row (update.set row)

theorem Update.execute_ok (h : update.execute jobs = .ok (rows, next)) :
    rows = (jobs.filter update.applies).map update.set ∧ next = update.table jobs ∧ update.Allowed jobs := by
  simp only [Update.execute, bind_eq_ok_iff, throwIf_eq_ok_iff, exists_unit, pure_eq_ok_iff, Prod.mk.injEq] at h
  obtain ⟨hallowed, _, _, rfl, rfl⟩ := h
  refine ⟨rfl, rfl, fun row hrow happlies => ?_⟩
  by_contra hrefused
  exact hallowed ⟨row, hrow, happlies, hrefused⟩

theorem Update.mem_table (h : row ∈ update.table jobs) :
    (row ∈ jobs ∧ update.applies row = false) ∨ ∃ old ∈ jobs, update.applies old = true ∧ row = update.set old := by
  obtain ⟨old, hold, rfl⟩ := List.mem_map.mp h
  cases happlies : update.applies old with
  | false => exact Or.inl ⟨by simpa [happlies] using hold, by simp [happlies]⟩
  | true => exact Or.inr ⟨old, hold, happlies, by simp⟩

theorem Update.mem_table_of_not_applies (h : row ∈ jobs) (happlies : update.applies row = false) :
    row ∈ update.table jobs :=
  List.mem_map.mpr ⟨row, h, by simp [happlies]⟩

theorem Update.mem_table_of_applies (h : row ∈ jobs) (happlies : update.applies row = true) :
    update.set row ∈ update.table jobs :=
  List.mem_map.mpr ⟨row, h, by simp [happlies]⟩

/-- A key that an update keeps is the same column after it. -/
theorem Update.map_table {κ : Type} {key : ProverJob → κ}
    (h : ∀ row ∈ jobs, update.applies row = true → key (update.set row) = key row) :
    (update.table jobs).map key = jobs.map key := by
  rw [Update.table, List.map_map]
  refine List.map_congr_left fun row hrow => ?_
  simp only [Function.comp_apply]
  split
  · next happlies => exact h row hrow happlies
  · rfl

/-- Terminal states have no successor. -/
def JobState.Terminal (state : JobState) : Prop := state = .verified ∨ state = .failed ∨ state = .cancelled

theorem heldBy_iff {jobId workerId : String} {states : List JobState} :
    row.heldBy jobId workerId states = true ↔
      row.id = jobId ∧ (∃ lease, row.lease = some lease ∧ lease.owner = workerId) ∧ row.state ∈ states := by
  simp only [ProverJob.heldBy, Bool.and_eq_true, decide_eq_true_eq, List.contains_iff_mem, and_assoc]
  cases row.lease with
  | none => simp
  | some lease => simp

/-- The endings that count as an attempt. -/
def Ending.counts : Ending → Bool
  | .failed _ | .abandoned => true
  | .submitted _ | .pending _ | .remoteFailed _ | .verified _ => false

/-- The worker that has written an ending. -/
def Ending.worker : Ending → Option String
  | .submitted workerId | .pending workerId | .remoteFailed workerId | .verified workerId | .failed workerId =>
    some workerId
  | .abandoned => none

/-- An update ends the attempt at a row: the lease is returned, and the attempts, the
state and the columns that depend on it agree with the ending. -/
structure Releases (receipts : List ProofReceipt) (update : Update) (ending : Ending) (row : ProverJob) : Prop where
  id : (update.set row).id = row.id
  transactionId : (update.set row).transactionId = row.transactionId
  leased : row.Leased
  returned : (update.set row).lease = none
  state : ¬(update.set row).Leased ∧ (update.set row).state ≠ .queued ∧ (update.set row).state ≠ .cancelled
  identity : row.externalJobId ≠ some "" → (update.set row).externalJobId ≠ some ""
  pending : (row.state = .verifying → row.externalJobId ≠ none) → (update.set row).state = .remotePending →
    (update.set row).externalJobId ≠ none
  attempts : (update.set row).attempts = row.attempts + if ending.counts then 1 else 0
  failed : row.attempts < maxAttempts → ((update.set row).state = .failed ↔
    (update.set row).attempts = maxAttempts ∨ ∃ workerId, ending = .remoteFailed workerId)
  verified : row.proofReceiptId = none → ((update.set row).state = .verified ↔ (update.set row).proofReceiptId ≠ none)
  receipt : row.proofReceiptId = none → ∀ receiptId, (update.set row).proofReceiptId = some receiptId →
    ∃ receipt ∈ receipts, receipt.id = receiptId ∧ receipt.transactionId = row.transactionId
  holder : ∀ lease, row.lease = some lease → ∀ workerId, ending.worker = some workerId → workerId = lease.owner
  allowed : LifecycleAllows row (update.set row)

section Releases

variable {receipts : List ProofReceipt} {tenantId workerId : String} {now : Int}

theorem allows_of_mem {old new : ProverJob}
    (hsame : (new.id, new.transactionId, new.tenantId, new.productId, new.circuitId, new.circuitVersion,
      new.authorizationHash, new.witnessReference, new.requestedBy, new.requestedAt) =
        (old.id, old.transactionId, old.tenantId, old.productId, old.circuitId, old.circuitVersion,
          old.authorizationHash, old.witnessReference, old.requestedBy, old.requestedAt))
    (hstate : new.state ∈ successors old.state) : LifecycleAllows old new := by
  simp only [Prod.mk.injEq] at hsame
  exact ⟨hsame, hstate⟩

/-- An attempt that is given up is counted, and the last one fails the job. -/
theorem releases_of_givenUp {ending : Ending} (hleased : row.Leased)
    (hcounts : ending.counts = true)
    (hholder : ∀ lease, row.lease = some lease → ∀ workerId, ending.worker = some workerId → workerId = lease.owner)
    (hset : ∃ (code : Option String) (due : Int), update.set row =
      { row.released (if maxAttempts ≤ row.attempts + 1 then .failed else .retryable) now with
        attempts := row.attempts + 1
        lastErrorCode := code
        nextAttemptAt := due }) : Releases receipts update ending row := by
  obtain ⟨code, due, hset⟩ := hset
  have hremote : ¬∃ workerId, ending = .remoteFailed workerId := by
    rintro ⟨workerId, rfl⟩
    cases hcounts
  by_cases hlast : maxAttempts ≤ row.attempts + 1
  · rw [if_pos hlast] at hset
    constructor
    case leased => exact hleased
    case holder => exact hholder
    all_goals rw [hset]
    case state => simp [ProverJob.Leased, ProverJob.released]
    case pending => simp [ProverJob.released]
    case attempts => simp [hcounts]
    case failed =>
      intro hbound
      simp only [ProverJob.released, true_iff]
      exact Or.inl (by omega)
    case verified =>
      intro hnone
      simp [ProverJob.released, hnone]
    case receipt =>
      intro hnone receiptId hreceipt
      cases hnone.symm.trans hreceipt
    case allowed =>
      refine allows_of_mem rfl ?_
      obtain hstate | hstate := hleased <;> rw [hstate] <;> simp [successors, ProverJob.released]
    case identity => exact id
    all_goals rfl
  · rw [if_neg hlast] at hset
    constructor
    case leased => exact hleased
    case holder => exact hholder
    all_goals rw [hset]
    case state => simp [ProverJob.Leased, ProverJob.released]
    case pending => simp [ProverJob.released]
    case attempts => simp [hcounts]
    case failed =>
      intro _
      simp only [ProverJob.released, hremote, reduceCtorEq, or_false, false_iff]
      omega
    case verified =>
      intro hnone
      simp [ProverJob.released, hnone]
    case receipt =>
      intro hnone receiptId hreceipt
      cases hnone.symm.trans hreceipt
    case allowed =>
      refine allows_of_mem rfl ?_
      obtain hstate | hstate := hleased <;> rw [hstate] <;> simp [successors, ProverJob.released]
    case identity => exact id
    all_goals rfl

theorem expireLeases_releases {unseen : List String} (h : (expireLeases tenantId unseen now).applies row = true) :
    Releases receipts (expireLeases tenantId unseen now) .abandoned row := by
  simp only [expireLeases, Bool.and_eq_true, decide_eq_true_eq] at h
  exact releases_of_givenUp h.1.1.2 rfl nofun ⟨_, _, rfl⟩

/-- The holder of a lease is the one that writes the ending. -/
private theorem holder_of_heldBy {states : List JobState} {ending : Ending}
    (h : row.heldBy job.id workerId states = true) (hending : ending.worker = some workerId) :
    ∀ lease, row.lease = some lease → ∀ writer, ending.worker = some writer → writer = lease.owner := by
  obtain ⟨_, ⟨held, hheld, howner⟩, _⟩ := heldBy_iff.mp h
  intro lease hlease writer hwriter
  obtain rfl := Option.some.inj (hheld.symm.trans hlease)
  exact (Option.some.inj (hwriter.symm.trans hending)).trans howner.symm

theorem recordRetry_releases {failure : Failure}
    (h : (recordRetry job workerId failure now).applies row = true) (hattempts : job.attempts = row.attempts) :
    Releases receipts (recordRetry job workerId failure now) (.failed workerId) row := by
  have hleased : row.Leased := by simpa [ProverJob.Leased] using (heldBy_iff.mp h).2.2
  apply @releases_of_givenUp row _ receipts now _ hleased rfl (holder_of_heldBy h rfl)
  refine ⟨some (if errorCodePattern failure.code then failure.code else "PROVER_SERVICE_FAILURE"),
    now + 1000 * min 60 (2 ^ min (row.attempts + 1) 6), ?_⟩
  rw [recordRetry, hattempts]

theorem recordSubmission_releases {externalJobId : String} (hidentity : externalJobId ≠ "")
    (h : (recordSubmission job workerId externalJobId now).applies row = true) :
    Releases receipts (recordSubmission job workerId externalJobId now) (.submitted workerId) row := by
  have hstate : row.state = .submitting := by simpa using (heldBy_iff.mp h).2.2
  constructor
  case leased => exact Or.inl hstate
  case state => simp [recordSubmission, ProverJob.Leased, ProverJob.released]
  case identity => simp [recordSubmission, hidentity]
  case pending => simp [recordSubmission]
  case failed =>
    intro hbound
    simp [recordSubmission, ProverJob.released]
    omega
  case verified =>
    intro hnone
    simp [recordSubmission, ProverJob.released, hnone]
  case receipt =>
    intro hnone receiptId hreceipt
    cases hnone.symm.trans hreceipt
  case holder => exact holder_of_heldBy h rfl
  case allowed =>
    refine allows_of_mem rfl ?_
    rw [hstate]
    simp [recordSubmission, ProverJob.released, successors]
  all_goals rfl

theorem recordPending_releases (h : (recordPending job workerId now).applies row = true) :
    Releases receipts (recordPending job workerId now) (.pending workerId) row := by
  have hstate : row.state = .verifying := by simpa using (heldBy_iff.mp h).2.2
  constructor
  case leased => exact Or.inr hstate
  case state => simp [recordPending, ProverJob.Leased, ProverJob.released]
  case identity => exact id
  case pending => exact fun hsubmitted _ => hsubmitted hstate
  case failed =>
    intro hbound
    simp [recordPending, ProverJob.released]
    omega
  case verified =>
    intro hnone
    simp [recordPending, ProverJob.released, hnone]
  case receipt =>
    intro hnone receiptId hreceipt
    cases hnone.symm.trans hreceipt
  case holder => exact holder_of_heldBy h rfl
  case allowed =>
    refine allows_of_mem rfl ?_
    rw [hstate]
    simp [recordPending, ProverJob.released, successors]
  all_goals rfl

theorem recordRemoteFailure_releases {errorCode : String}
    (h : (recordRemoteFailure job workerId errorCode now).applies row = true) :
    Releases receipts (recordRemoteFailure job workerId errorCode now) (.remoteFailed workerId) row := by
  have hstate : row.state = .verifying := by simpa using (heldBy_iff.mp h).2.2
  constructor
  case leased => exact Or.inr hstate
  case state => simp [recordRemoteFailure, ProverJob.Leased, ProverJob.released]
  case identity => exact id
  case pending => simp [recordRemoteFailure, ProverJob.released]
  case failed => simp [recordRemoteFailure, ProverJob.released]
  case verified =>
    intro hnone
    simp [recordRemoteFailure, ProverJob.released, hnone]
  case receipt =>
    intro hnone receiptId hreceipt
    cases hnone.symm.trans hreceipt
  case holder => exact holder_of_heldBy h rfl
  case allowed =>
    refine allows_of_mem rfl ?_
    rw [hstate]
    simp [recordRemoteFailure, ProverJob.released, successors]
  all_goals rfl

theorem recordVerified_releases {receiptId : String}
    (hreceipt : ∃ receipt ∈ receipts, receipt.id = receiptId ∧ receipt.transactionId = row.transactionId)
    (h : (recordVerified job workerId receiptId now).applies row = true) :
    Releases receipts (recordVerified job workerId receiptId now) (.verified workerId) row := by
  have hstate : row.state = .verifying := by simpa using (heldBy_iff.mp h).2.2
  constructor
  case leased => exact Or.inr hstate
  case state => simp [recordVerified, ProverJob.Leased, ProverJob.released]
  case identity => exact id
  case pending => simp [recordVerified, ProverJob.released]
  case failed =>
    intro hbound
    simp [recordVerified, ProverJob.released]
    omega
  case verified => simp [recordVerified, ProverJob.released]
  case receipt =>
    intro _ written hwritten
    obtain rfl := Option.some.inj hwritten
    exact hreceipt
  case holder => exact holder_of_heldBy h rfl
  case allowed =>
    refine allows_of_mem rfl ?_
    rw [hstate]
    simp [recordVerified, ProverJob.released, successors]
  all_goals rfl

end Releases

end rwa.prover
