import RwaControlPlane.Prover.Updates
import RwaControlPlane.Library.Runs

open checked keyed_rows leases paging js_value
open rwa.gate (ProofReceipt ZkSettlementGate GateState)

namespace rwa.prover

def step (zkGate : ZkSettlementGate JsValue) (state : ProverState) (action : Action) : ProverState :=
  (respond zkGate state action).2

/-- The state before any job is requested. -/
def ProverState.start (db : gate.Database) : ProverState where
  gate := GateState.start db
  jobs := []
  workers := fun _ => none
  claims := []

/-- The state after a run of steps. -/
def run (zkGate : ZkSettlementGate JsValue) (db : gate.Database) (actions : List Action) : ProverState :=
  runs.run (step zkGate) (ProverState.start db) actions

/-- Primary keys of the transactions and the unique transactions of the receipts. -/
structure Keyed (db : gate.Database) : Prop where
  transactions : (db.transactions.map (·.id)).Nodup
  receipts : (db.receipts.map (·.transactionId)).Nodup

/-- A receipt is never lost. -/
def Kept (receipts later : List ProofReceipt) : Prop := ∀ receipt ∈ receipts, receipt ∈ later

section Gate

variable {db : gate.Database}

private theorem map_id_setState' {transactionId : String} {toState : gate.TransactionState} :
    (db.setState transactionId toState).transactions.map (·.id) = db.transactions.map (·.id) := by
  simp only [gate.Database.setState, List.map_map]
  refine List.map_congr_left fun row _ => ?_
  simp only [Function.comp_apply]
  split <;> rfl

theorem record_keyed {acceptance : gate.Acceptance} (h : Keyed db) (hadmits : db.Admits acceptance) :
    Keyed (db.record acceptance) ∧ Kept db.receipts (db.record acceptance).receipts := by
  refine ⟨⟨?_, nodup_concat h.receipts hadmits.receipt_transaction⟩, fun receipt => List.mem_append_left _⟩
  exact map_id_setState'.symm ▸ h.transactions

/-- No step of the gate touches a receipt, and keys stay unique. -/
theorem step_keyed (zkGate : ZkSettlementGate JsValue) (state : GateState JsValue) (action : gate.Action JsValue)
    (h : Keyed state.db) :
    Keyed (gate.step zkGate state action).db ∧ Kept state.db.receipts (gate.step zkGate state action).db.receipts := by
  obtain ⟨events, hcommit, -⟩ := gate.step_commits zkGate state action h.transactions
  generalize (gate.step zkGate state action).db = next at hcommit ⊢
  cases hcommit with
  | record acceptance call _ _ _ _ _ hadmits => exact record_keyed h hadmits
  | insertTransaction transaction instructions _ hfresh =>
    exact ⟨⟨nodup_concat h.transactions hfresh, h.receipts⟩, fun _ hreceipt => hreceipt⟩
  | transition => exact ⟨⟨map_id_setState'.symm ▸ h.transactions, h.receipts⟩, fun _ hreceipt => hreceipt⟩
  | publish publication _ => exact ⟨⟨map_id_setState'.symm ▸ h.transactions, h.receipts⟩, fun _ hreceipt => hreceipt⟩
  | _ => exact ⟨⟨h.transactions, h.receipts⟩, fun _ hreceipt => hreceipt⟩

end Gate

/-- A worker has recorded that the remote job of a job failed or was cancelled. -/
def RemoteFailed (claims : List Claim) (jobId : String) : Prop :=
  ∃ claim ∈ claims, claim.resource = jobId ∧ ∃ workerId, claim.ending = some (.remoteFailed workerId)

/-- What holds of a row of the jobs. -/
structure RowSound (receipts : List ProofReceipt) (claims : List Claim) (row : ProverJob) : Prop where
  leased : row.Leased ↔ row.lease ≠ none
  identity : row.externalJobId ≠ some ""
  submitted : row.state = .remotePending ∨ row.state = .verifying → row.externalJobId ≠ none
  unsubmitted : row.state = .queued ∨ row.state = .submitting → row.externalJobId = none
  attempts : row.attempts = endings Ending.counts row.id claims
  bound : row.attempts ≤ maxAttempts
  cancelled : row.state ≠ .cancelled
  failed : row.state = .failed ↔ row.attempts = maxAttempts ∨ RemoteFailed claims row.id
  verified : row.state = .verified ↔ row.proofReceiptId ≠ none
  receipt : ∀ receiptId, row.proofReceiptId = some receiptId →
    ∃ receipt ∈ receipts, receipt.id = receiptId ∧ receipt.transactionId = row.transactionId
  holder : ∀ lease, row.lease = some lease → ∃ position, OpenAt claims position row.id lease.owner

/-- What holds of a worker at a job. While its claim is open the row is the one
that it has read. -/
structure RunSound (receipts : List ProofReceipt) (jobs : List ProverJob) (claims : List Claim) (workerId : String)
    (run : WorkerRun) : Prop where
  claim : ∃ ending, claims[run.claim]? = some ⟨run.job.id, workerId, ending⟩
  latest : ∀ (position : Nat) (claim : Claim), claims[position]? = some claim → claim.holder = workerId →
    position ≤ run.claim
  job : OpenAt claims run.claim run.job.id workerId → run.job ∈ jobs
  transaction : ∃ row ∈ jobs, row.id = run.job.id ∧ row.transactionId = run.job.transactionId
  accepting : ∀ request expected, run.phase = .accepting request expected →
    request.transactionId = run.job.transactionId
  accepted : ∀ receiptId, run.phase = .accepted receiptId →
    ∃ receipt ∈ receipts, receipt.id = receiptId ∧ receipt.transactionId = run.job.transactionId

/-- The invariant of a state. -/
structure Sound (state : ProverState) : Prop where
  keyed : Keyed state.gate.db
  ids : (state.jobs.map ProverJob.id).Nodup
  transactionIds : (state.jobs.map ProverJob.transactionId).Nodup
  rows : ∀ row ∈ state.jobs, RowSound state.gate.db.receipts state.claims row
  lastOpen : LastOpen state.claims
  known : ∀ claim ∈ state.claims, claim.resource ∈ state.jobs.map ProverJob.id
  holders : ∀ position jobId workerId, OpenAt state.claims position jobId workerId →
    ∃ row ∈ state.jobs, row.id = jobId ∧ ∃ lease, row.lease = some lease ∧ lease.owner = workerId
  endings : ∀ claim ∈ state.claims, ∀ ending, claim.ending = some ending →
    ∀ workerId, ending.worker = some workerId → workerId = claim.holder
  runs : ∀ workerId run, state.workers workerId = some run →
    RunSound state.gate.db.receipts state.jobs state.claims workerId run

/-- Rows with one id are one row. -/
theorem eq_of_id {jobs : List ProverJob} (hids : (jobs.map ProverJob.id).Nodup) {first second : ProverJob}
    (hfirst : first ∈ jobs) (hsecond : second ∈ jobs) (h : first.id = second.id) : first = second :=
  List.inj_on_of_nodup_map hids hfirst hsecond h

section Kept

variable {receipts later : List ProofReceipt} {claims : List Claim} {jobs : List ProverJob} {row : ProverJob}

theorem RowSound.kept (h : RowSound receipts claims row) (hkept : Kept receipts later) : RowSound later claims row where
  leased := h.leased
  identity := h.identity
  submitted := h.submitted
  unsubmitted := h.unsubmitted
  attempts := h.attempts
  bound := h.bound
  cancelled := h.cancelled
  failed := h.failed
  verified := h.verified
  receipt := fun receiptId hreceipt => by
    obtain ⟨receipt, hmem, hid⟩ := h.receipt receiptId hreceipt
    exact ⟨receipt, hkept receipt hmem, hid⟩
  holder := h.holder

theorem RunSound.kept {workerId : String} {run : WorkerRun} (h : RunSound receipts jobs claims workerId run)
    (hkept : Kept receipts later) : RunSound later jobs claims workerId run where
  claim := h.claim
  latest := h.latest
  job := h.job
  transaction := h.transaction
  accepting := h.accepting
  accepted := fun receiptId hphase => by
    obtain ⟨receipt, hmem, hid⟩ := h.accepted receiptId hphase
    exact ⟨receipt, hkept receipt hmem, hid⟩

end Kept

section Rows

variable {receipts : List ProofReceipt} {claims : List Claim} {row : ProverJob} {resources : List String}
  {ending : Ending}

theorem remoteFailed_close {jobId : String} :
    RemoteFailed (close resources ending claims) jobId ↔
      RemoteFailed claims jobId ∨ (∃ workerId, ending = .remoteFailed workerId) ∧ jobId ∈ resources ∧
        ∃ position workerId, OpenAt claims position jobId workerId := by
  constructor
  · rintro ⟨claim, hclaim, rfl, workerId, hending⟩
    obtain hold | ⟨rfl, hmem, position, hopen⟩ := (mem_close_of_ended hending).mp hclaim
    · exact Or.inl ⟨claim, hold, rfl, workerId, hending⟩
    · exact Or.inr ⟨⟨workerId, rfl⟩, hmem, position, _, hopen⟩
  · rintro (⟨claim, hclaim, rfl, workerId, hending⟩ | ⟨⟨workerId, rfl⟩, hmem, position, holder, hopen⟩)
    · exact ⟨claim, (mem_close_of_ended hending).mpr (Or.inl hclaim), rfl, workerId, hending⟩
    · refine ⟨⟨jobId, holder, some (.remoteFailed workerId)⟩, ?_, rfl, workerId, rfl⟩
      exact (mem_close_of_ended rfl).mpr (Or.inr ⟨rfl, hmem, position, hopen⟩)

theorem remoteFailed_issue {jobId claimed workerId : String} :
    RemoteFailed (issue claimed workerId claims) jobId ↔ RemoteFailed claims jobId := by
  constructor
  · rintro ⟨claim, hclaim, rfl, writer, hending⟩
    obtain hold | hnew := List.mem_append.mp hclaim
    · exact ⟨claim, hold, rfl, writer, hending⟩
    · obtain rfl := List.mem_singleton.mp hnew
      cases hending
  · rintro ⟨claim, hclaim, hrest⟩
    exact ⟨claim, List.mem_append_left _ hclaim, hrest⟩

theorem RowSound.issue {jobId workerId : String} (h : RowSound receipts claims row) :
    RowSound receipts (issue jobId workerId claims) row where
  leased := h.leased
  identity := h.identity
  submitted := h.submitted
  unsubmitted := h.unsubmitted
  attempts := by
    rw [endings_issue]
    exact h.attempts
  bound := h.bound
  cancelled := h.cancelled
  failed := by
    rw [remoteFailed_issue]
    exact h.failed
  verified := h.verified
  receipt := h.receipt
  holder := fun lease hlease => by
    obtain ⟨position, hopen⟩ := h.holder lease hlease
    exact ⟨position, openAt_issue.mpr (Or.inl hopen)⟩

/-- A row of another job keeps its claims. -/
theorem RowSound.others (h : RowSound receipts claims row) (hother : row.id ∉ resources) :
    RowSound receipts (close resources ending claims) row where
  leased := h.leased
  identity := h.identity
  submitted := h.submitted
  unsubmitted := h.unsubmitted
  attempts := by
    rw [endings_close_of_closed fun _ _ _ _ => hother]
    exact h.attempts
  bound := h.bound
  cancelled := h.cancelled
  failed := by
    rw [remoteFailed_close]
    simp only [hother, false_and, and_false, or_false]
    exact h.failed
  verified := h.verified
  receipt := h.receipt
  holder := fun lease hlease => by
    obtain ⟨position, hopen⟩ := h.holder lease hlease
    exact ⟨position, openAt_close.mpr ⟨hopen, hother⟩⟩

/-- A job that is leased has attempts left, and its remote job was not reported as
failed. -/
theorem RowSound.budget (h : RowSound receipts claims row) (hstate : row.state ≠ .failed) :
    row.attempts < maxAttempts ∧ ¬RemoteFailed claims row.id := by
  have hfailed := mt h.failed.mpr hstate
  rw [not_or] at hfailed
  have hbound := h.bound
  exact ⟨by omega, hfailed.2⟩

/-- A row whose attempt has ended. -/
theorem RowSound.releases (h : RowSound receipts claims row) (hlast : LastOpen claims) {update : Update}
    (hreleases : Releases receipts update ending row) (hmem : row.id ∈ resources) :
    RowSound receipts (close resources ending claims) (update.set row) := by
  obtain ⟨lease, hlease⟩ := Option.ne_none_iff_exists'.mp (h.leased.mp hreleases.leased)
  obtain ⟨position, hopen⟩ := h.holder lease hlease
  have hstate : row.state ≠ .failed ∧ row.state ≠ .verified := by
    obtain hrow | hrow := hreleases.leased <;> simp [hrow]
  obtain ⟨hbudget, hremote⟩ := h.budget hstate.1
  have hreceipt : row.proofReceiptId = none := by
    by_contra hsome
    exact hstate.2 (h.verified.mpr hsome)
  obtain ⟨hunleased, hqueued, hcancelled⟩ := hreleases.state
  constructor
  case leased => simp [hunleased, hreleases.returned]
  case identity => exact hreleases.identity h.identity
  case submitted =>
    rintro (hpending | hverifying)
    · exact hreleases.pending (fun hverifying => h.submitted (Or.inr hverifying)) hpending
    · exact absurd (Or.inr hverifying) hunleased
  case unsubmitted =>
    rintro (hnew | hsubmitting)
    · exact absurd hnew hqueued
    · exact absurd (Or.inl hsubmitting) hunleased
  case attempts =>
    rw [hreleases.id, endings_close_of_open hopen hlast hmem, hreleases.attempts, h.attempts]
  case bound =>
    rw [hreleases.attempts]
    split <;> omega
  case cancelled => exact hcancelled
  case failed =>
    rw [hreleases.id, remoteFailed_close, hreleases.failed hbudget]
    have hopened : ∃ position workerId, OpenAt claims position row.id workerId := ⟨position, _, hopen⟩
    simp only [hremote, hmem, hopened, and_true, false_or]
  case verified => exact hreleases.verified hreceipt
  case receipt =>
    rw [hreleases.transactionId]
    exact hreleases.receipt hreceipt
  case holder =>
    intro held hheld
    cases hreleases.returned.symm.trans hheld

/-- The row of a claim, with the claim. -/
theorem RowSound.claim {workerId : String} {leaseMs now : Int} (h : RowSound receipts claims row)
    (hstate : row.state = .queued ∨ row.state = .remotePending ∨ row.state = .retryable) :
    RowSound receipts (leases.issue row.id workerId claims) ((claim row workerId leaseMs now).set row) := by
  have hsubmitted : row.submitted = true ↔ row.externalJobId ≠ none := by
    cases hidentity : row.externalJobId with
    | none => simp [ProverJob.submitted, hidentity]
    | some identity =>
      have hne : identity ≠ "" := fun heq => h.identity (hidentity.trans (congrArg some heq))
      simp [ProverJob.submitted, hidentity, hne]
  have hverified : row.state ≠ .failed ∧ row.state ≠ .verified := by
    obtain hrow | hrow | hrow := hstate <;> simp [hrow]
  have hbudget := h.budget hverified.1
  have hreceipt : row.proofReceiptId = none := by
    by_contra hsome
    exact hverified.2 (h.verified.mpr hsome)
  constructor
  case leased => cases hrow : row.submitted <;> simp [prover.claim, ProverJob.Leased, hrow]
  case identity => exact h.identity
  case submitted =>
    intro hnew
    cases hrow : row.submitted with
    | false => simp [prover.claim, hrow] at hnew
    | true => exact hsubmitted.mp hrow
  case unsubmitted =>
    intro hnew
    cases hrow : row.submitted with
    | false => exact not_not.mp (mt hsubmitted.mpr (by simp [hrow]))
    | true => simp [prover.claim, hrow] at hnew
  case attempts =>
    rw [endings_issue]
    exact h.attempts
  case bound => exact h.bound
  case cancelled => cases hrow : row.submitted <;> simp [prover.claim, hrow]
  case failed =>
    rw [remoteFailed_issue]
    refine iff_of_false ?_ (not_or.mpr ⟨Nat.ne_of_lt hbudget.1, hbudget.2⟩)
    cases hrow : row.submitted <;> simp [prover.claim, hrow]
  case verified => cases hrow : row.submitted <;> simp [prover.claim, hrow, hreceipt]
  case receipt => exact h.receipt
  case holder =>
    intro lease hlease
    obtain rfl := Option.some.inj hlease
    exact ⟨_, openAt_issue.mpr (Or.inr ⟨rfl, rfl, rfl⟩)⟩

end Rows

namespace Sound

variable {zkGate : ZkSettlementGate JsValue} {state : ProverState} {workerId : String} {run : WorkerRun}

theorem start {db : gate.Database} (h : Keyed db) : Sound (ProverState.start db) where
  keyed := h
  ids := List.nodup_nil
  transactionIds := List.nodup_nil
  rows := by simp [ProverState.start]
  lastOpen := lastOpen_nil
  known := by simp [ProverState.start]
  holders := nofun
  endings := by simp [ProverState.start]
  runs := by simp [ProverState.start]

/-- A worker acts on its job only while its claim is the lease of the job, and the
row is then the one it has read. -/
theorem held (h : Sound state) (hrun : state.workers workerId = some run) {row : ProverJob} (hrow : row ∈ state.jobs)
    {states : List JobState} (hheld : row.heldBy run.job.id workerId states = true) :
    row = run.job ∧ OpenAt state.claims run.claim run.job.id workerId := by
  obtain ⟨hid, ⟨lease, hlease, rfl⟩, -⟩ := heldBy_iff.mp hheld
  have hsound := h.runs _ _ hrun
  obtain ⟨ending, hclaim⟩ := hsound.claim
  obtain ⟨position, hopen⟩ := (h.rows row hrow).holder lease hlease
  have hle := hsound.latest position _ hopen rfl
  have hge := h.lastOpen position row.id lease.owner hopen run.claim _ hclaim hid.symm
  obtain rfl : position = run.claim := by omega
  rw [hid] at hopen
  exact ⟨eq_of_id h.ids hrow (hsound.job hopen) hid, hopen⟩

/-- Steps that leave the tables as they are. -/
theorem workers (h : Sound state) (workers : String → Option WorkerRun)
    (hruns : ∀ workerId run, workers workerId = some run →
      RunSound state.gate.db.receipts state.jobs state.claims workerId run) : Sound { state with workers } :=
  ⟨h.keyed, h.ids, h.transactionIds, h.rows, h.lastOpen, h.known, h.holders, h.endings, hruns⟩

theorem done (h : Sound state) (workerId : String) : Sound (state.done workerId) := by
  refine h.workers _ fun other run hrun => ?_
  by_cases hother : other = workerId
  · subst hother
    simp at hrun
  · rw [Function.update_of_ne hother] at hrun
    exact h.runs other run hrun

theorem atWork (h : Sound state) (hsound : RunSound state.gate.db.receipts state.jobs state.claims workerId run) :
    Sound (state.atWork workerId run) := by
  refine h.workers _ fun other found hfound => ?_
  by_cases hother : other = workerId
  · subst hother
    rw [Function.update_self] at hfound
    exact Option.some.inj hfound ▸ hsound
  · rw [Function.update_of_ne hother] at hfound
    exact h.runs other found hfound

/-- A worker goes on in another phase. -/
theorem move (h : Sound state) (hrun : RunSound state.gate.db.receipts state.jobs state.claims workerId run)
    {phase : Phase} (haccepting : ∀ request expected, phase = .accepting request expected →
      request.transactionId = run.job.transactionId)
    (haccepted : ∀ receiptId, phase = .accepted receiptId →
      ∃ receipt ∈ state.gate.db.receipts, receipt.id = receiptId ∧ receipt.transactionId = run.job.transactionId) :
    Sound (state.move workerId run phase) :=
  h.atWork ⟨hrun.claim, hrun.latest, hrun.job, hrun.transaction, haccepting, haccepted⟩

theorem caught (h : Sound state) (hrun : RunSound state.gate.db.receipts state.jobs state.claims workerId run)
    (failure : Failure) : Sound (state.caught workerId run failure).2 :=
  h.move hrun nofun nofun

/-- An update that ends the attempts of the rows it applies to. -/
theorem commit (h : Sound state) {update : Update} {ending : Ending} {rows jobs : List ProverJob}
    (hexecute : update.execute state.jobs = .ok (rows, jobs))
    (hreleases : ∀ row ∈ state.jobs, update.applies row = true →
      Releases state.gate.db.receipts update ending row) : Sound (state.commit rows jobs ending) := by
  obtain ⟨rfl, rfl, -⟩ := Update.execute_ok hexecute
  have hkeep {κ : Type} {key : ProverJob → κ}
      (hkey : ∀ row ∈ state.jobs, update.applies row = true → key (update.set row) = key row) :=
    Update.map_table hkey
  have hids := hkeep fun row hrow happlies => (hreleases row hrow happlies).id
  have hclosed : ∀ row ∈ state.jobs, row.id ∈ ((state.jobs.filter update.applies).map update.set).map ProverJob.id ↔
      update.applies row = true := by
    intro row hrow
    simp only [List.mem_map, List.mem_filter, exists_exists_and_eq_and]
    constructor
    · rintro ⟨other, ⟨hother, happlies⟩, hid⟩
      rw [(hreleases other hother happlies).id] at hid
      exact eq_of_id h.ids hother hrow hid ▸ happlies
    · exact fun happlies => ⟨row, ⟨hrow, happlies⟩, (hreleases row hrow happlies).id⟩
  unfold ProverState.commit
  generalize ((state.jobs.filter update.applies).map update.set).map ProverJob.id = resources at hclosed
  have hkept : ∀ row ∈ state.jobs, row.id ∉ resources → row ∈ update.table state.jobs := fun row hrow hother =>
    Update.mem_table_of_not_applies hrow (Bool.eq_false_iff.mpr fun happlies =>
      hother ((hclosed row hrow).mpr happlies))
  constructor
  case keyed => exact h.keyed
  case ids => exact hids ▸ h.ids
  case transactionIds =>
    rw [hkeep fun row hrow happlies => (hreleases row hrow happlies).transactionId]
    exact h.transactionIds
  case rows =>
    intro row hrow
    obtain ⟨hrow, happlies⟩ | ⟨old, hold, happlies, rfl⟩ := Update.mem_table hrow
    · exact (h.rows row hrow).others fun hmem => by simp [(hclosed row hrow).mp hmem] at happlies
    · exact (h.rows old hold).releases h.lastOpen (hreleases old hold happlies) ((hclosed old hold).mpr happlies)
  case lastOpen => exact h.lastOpen.close
  case known =>
    intro claim hclaim
    obtain ⟨old, hold, rfl⟩ := List.mem_map.mp hclaim
    rw [closed_resource, hids]
    exact h.known old hold
  case holders =>
    intro position jobId workerId hopen
    obtain ⟨hopen, hother⟩ := openAt_close.mp hopen
    obtain ⟨row, hrow, rfl, hlease⟩ := h.holders position jobId workerId hopen
    exact ⟨row, hkept row hrow hother, rfl, hlease⟩
  case endings =>
    intro claim hclaim reason hending writer hwriter
    obtain hold | ⟨rfl, hmem, position, hopen⟩ := (mem_close_of_ended hending).mp hclaim
    · exact h.endings claim hold reason hending writer hwriter
    · obtain ⟨row, hrow, hid, lease, hlease, howner⟩ := h.holders position _ _ hopen
      have happlies := (hclosed row hrow).mp (hid ▸ hmem)
      exact ((hreleases row hrow happlies).holder lease hlease writer hwriter).trans howner
  case runs =>
    intro workerId run hrun
    have hsound := h.runs workerId run hrun
    constructor
    case claim =>
      obtain ⟨itsEnding, hclaim⟩ := hsound.claim
      obtain ⟨ending', hclosed'⟩ : ∃ ending', closed resources ending ⟨run.job.id, workerId, itsEnding⟩ =
          ⟨run.job.id, workerId, ending'⟩ := by
        unfold closed
        split <;> exact ⟨_, rfl⟩
      exact ⟨ending', by rw [getElem?_close, hclaim, Option.map_some, hclosed']⟩
    case latest =>
      intro position claim hclaim hholder
      rw [getElem?_close, Option.map_eq_some_iff] at hclaim
      obtain ⟨old, hold, rfl⟩ := hclaim
      rw [closed_holder] at hholder
      exact hsound.latest position old hold hholder
    case job =>
      intro hopen
      obtain ⟨hopen, hother⟩ := openAt_close.mp hopen
      exact hkept run.job (hsound.job hopen) hother
    case transaction =>
      obtain ⟨row, hrow, hid, htransaction⟩ := hsound.transaction
      cases happlies : update.applies row with
      | false => exact ⟨row, Update.mem_table_of_not_applies hrow happlies, hid, htransaction⟩
      | true =>
        have hrelease := hreleases row hrow happlies
        exact ⟨_, Update.mem_table_of_applies hrow happlies, hrelease.id.trans hid,
          hrelease.transactionId.trans htransaction⟩
    case accepting => exact hsound.accepting
    case accepted => exact hsound.accepted

/-- The update of a worker ends its attempt or finds nothing. -/
theorem conclude (h : Sound state) (hrun : state.workers workerId = some run) {update : Update} {ending : Ending}
    (hreleases : ∀ row ∈ state.jobs, update.applies row = true → Releases state.gate.db.receipts update ending row)
    (leaseLost : String) (lost : Option Failure) :
    Sound (state.conclude workerId run update ending leaseLost lost).2 := by
  unfold ProverState.conclude
  split
  · exact h.caught (h.runs _ _ hrun) _
  · next rows jobs hexecute =>
    have hcommitted := h.commit hexecute hreleases
    have hstill := hcommitted.runs workerId run hrun
    split
    · exact hcommitted.caught hstill _
    · exact hcommitted.done workerId
    · exact hcommitted.caught hstill _

theorem refused (h : Sound state) (hrun : RunSound state.gate.db.receipts state.jobs state.claims workerId run)
    (failure : Failure) : Sound (state.refused workerId run failure).2 := by
  unfold ProverState.refused
  split
  · exact h.move hrun nofun nofun
  · exact h.caught hrun failure

theorem acceptedBy (h : Sound state) (hrun : RunSound state.gate.db.receipts state.jobs state.claims workerId run)
    {receiptId : String}
    (hreceipt : ∃ receipt ∈ state.gate.db.receipts, receipt.id = receiptId ∧
      receipt.transactionId = run.job.transactionId) : Sound (state.acceptedBy workerId run receiptId).2 := by
  unfold ProverState.acceptedBy
  split
  · exact h.caught hrun _
  · refine h.move hrun nofun fun written hwritten => ?_
    obtain rfl := Phase.accepted.inj hwritten
    exact hreceipt

/-- The gate moves on and keeps its receipts. -/
theorem gate (h : Sound state) (next : GateState JsValue) (hkeyed : Keyed next.db)
    (hkept : Kept state.gate.db.receipts next.db.receipts) : Sound { state with gate := next } :=
  ⟨hkeyed, h.ids, h.transactionIds, fun row hrow => (h.rows row hrow).kept hkept, h.lastOpen, h.known, h.holders,
    h.endings, fun workerId run hrun => (h.runs workerId run hrun).kept hkept⟩

theorem request (h : Sound state) {service : ProverJobService} {request : JobRequest} {uuid : String} {now : Int}
    {job : ProverJob} {created : Bool} {jobs : List ProverJob}
    (hrequest : requestJob service request uuid now state.gate.db state.jobs = .ok ((job, created), jobs)) :
    Sound { state with jobs } := by
  simp only [requestJob, bind_eq_ok_iff, exists_unit, Prod.exists] at hrequest
  obtain ⟨_, _, _, _, transaction, authorization, _, _, _, hrequest⟩ := hrequest
  split at hrequest
  · simp only [pure_eq_ok_iff, Prod.mk.injEq] at hrequest
    obtain ⟨_, rfl⟩ := hrequest
    exact h
  · simp only [bind_eq_ok_iff, throwIf_eq_ok_iff, exists_unit, pure_eq_ok_iff, Prod.mk.injEq, not_or] at hrequest
    obtain ⟨_, ⟨hid, htransaction⟩, -, rfl⟩ := hrequest
    generalize hqueued : queuedJob request transaction authorization uuid now = row at hid htransaction
    have hunclaimed : ∀ claim ∈ state.claims, claim.resource ≠ row.id := fun claim hclaim heq =>
      hid (heq ▸ h.known claim hclaim)
    refine
      { keyed := h.keyed, ids := nodup_concat h.ids hid, transactionIds := nodup_concat h.transactionIds htransaction
        rows := ?_, lastOpen := h.lastOpen, known := ?_, holders := ?_, endings := h.endings, runs := ?_ }
    · intro other hother
      obtain hold | hnew := List.mem_append.mp hother
      · exact h.rows other hold
      · obtain rfl := List.mem_singleton.mp hnew
        subst hqueued
        refine
          { leased := by simp [queuedJob, ProverJob.Leased], identity := by simp [queuedJob]
            submitted := by simp [queuedJob], unsubmitted := fun _ => rfl, attempts := ?_, bound := Nat.zero_le _
            cancelled := by simp [queuedJob], failed := ?_, verified := by simp [queuedJob]
            receipt := by simp [queuedJob], holder := nofun }
        · refine (List.countP_eq_zero.mpr fun claim hclaim => ?_).symm
          simp [hunclaimed claim hclaim]
        · have hremote : ¬RemoteFailed state.claims (queuedJob request transaction authorization uuid now).id := by
            rintro ⟨claim, hclaim, heq, -⟩
            exact hunclaimed claim hclaim heq
          exact iff_of_false (by simp [queuedJob]) (not_or.mpr ⟨by simp [queuedJob, maxAttempts], hremote⟩)
    · intro claim hclaim
      rw [List.map_append]
      exact List.mem_append_left _ (h.known claim hclaim)
    · intro position jobId workerId hopen
      exact exists_mem_append (h.holders position jobId workerId hopen)
    · intro workerId run hrun
      have hsound := h.runs workerId run hrun
      exact
        { claim := hsound.claim, latest := hsound.latest
          job := fun hopen => List.mem_append_left _ (hsound.job hopen)
          transaction := exists_mem_append hsound.transaction
          accepting := hsound.accepting, accepted := hsound.accepted }

end Sound

section Claim

variable {service : ProverJobService} {workerId tenantId : String} {unseen locked : List String}
  {sweptAt now leaseMs : Int}
  {jobs rows next : List ProverJob} {row : ProverJob}

theorem nextJob_mem (h : nextJob tenantId locked now jobs = some row) :
    row ∈ jobs ∧ claimable tenantId now row = true := by
  have hmem := List.mem_of_mem_head? h
  simp only [mem_inOrder, List.mem_filter, Bool.and_eq_true] at hmem
  exact ⟨hmem.1, hmem.2.1⟩

theorem claimable_state (h : claimable tenantId now row = true) :
    row.state = .queued ∨ row.state = .remotePending ∨ row.state = .retryable := by
  simp only [claimable, Bool.and_eq_true] at h
  simpa using h.1.1.2

/-- The job that a claim returns is the row with the new lease. -/
theorem claim_rows (hids : (jobs.map ProverJob.id).Nodup) (hrow : row ∈ jobs) :
    (jobs.filter (claim row workerId leaseMs now).applies).map (claim row workerId leaseMs now).set =
      [(claim row workerId leaseMs now).set row] := by
  have hfilter : jobs.filter (claim row workerId leaseMs now).applies = [row] := filter_key_of_mem hids hrow
  rw [hfilter, List.map_singleton]

end Claim

namespace Sound

variable {state : ProverState} {workerId : String}

/-- A job that no worker holds can be claimed: the claim is the last one of the job,
and its worker holds the lease. -/
theorem claimed (h : Sound state) (hidle : state.workers workerId = none) {row : ProverJob} (leaseMs now : Int)
    (hrow : row ∈ state.jobs) (hstate : row.state = .queued ∨ row.state = .remotePending ∨ row.state = .retryable) :
    Sound
      { state with
        jobs := (claim row workerId leaseMs now).table state.jobs
        claims := issue row.id workerId state.claims } := by
  have hsound := h.rows row hrow
  have happlies : ∀ other ∈ state.jobs, (claim row workerId leaseMs now).applies other = true ↔ other = row := by
    intro other hother
    simp only [claim, decide_eq_true_eq]
    exact ⟨eq_of_id h.ids hother hrow, fun heq => heq ▸ rfl⟩
  have hlease : row.lease = none := by
    by_contra hleased
    have := hsound.leased.mpr hleased
    unfold ProverJob.Leased at this
    obtain hrow | hrow | hrow := hstate <;> simp [hrow] at this
  have hfree : ∀ position holder, ¬OpenAt state.claims position row.id holder := by
    intro position holder hopen
    obtain ⟨other, hother, hid, lease, hsome, -⟩ := h.holders position row.id holder hopen
    obtain rfl := eq_of_id h.ids hother hrow hid
    cases hlease.symm.trans hsome
  have hkeep {κ : Type} {key : ProverJob → κ} (hkey : key ((claim row workerId leaseMs now).set row) = key row) :
      ((claim row workerId leaseMs now).table state.jobs).map key = state.jobs.map key :=
    Update.map_table fun other hother hsome => by rwa [(happlies other hother).mp hsome]
  have hids := @hkeep _ ProverJob.id rfl
  have hothers : ∀ other ∈ state.jobs, other ≠ row → other ∈ (claim row workerId leaseMs now).table state.jobs :=
    fun other hother hne => Update.mem_table_of_not_applies hother
      (Bool.eq_false_iff.mpr fun hsome => hne ((happlies other hother).mp hsome))
  have hnew : (claim row workerId leaseMs now).set row ∈ (claim row workerId leaseMs now).table state.jobs :=
    Update.mem_table_of_applies hrow ((happlies row hrow).mpr rfl)
  constructor
  case keyed => exact h.keyed
  case ids => exact hids ▸ h.ids
  case transactionIds => exact @hkeep _ ProverJob.transactionId rfl ▸ h.transactionIds
  case rows =>
    intro other hother
    obtain ⟨hother, -⟩ | ⟨old, hold, hsome, rfl⟩ := Update.mem_table hother
    · exact (h.rows other hother).issue
    · obtain rfl := (happlies old hold).mp hsome
      exact hsound.claim hstate
  case lastOpen => exact h.lastOpen.issue hfree
  case known =>
    intro granted hgranted
    rw [hids]
    obtain hold | hnew := List.mem_append.mp hgranted
    · exact h.known granted hold
    · obtain rfl := List.mem_singleton.mp hnew
      exact List.mem_map_of_mem hrow
  case holders =>
    intro position jobId holder hopen
    obtain hold | ⟨-, rfl, rfl⟩ := openAt_issue.mp hopen
    · obtain ⟨other, hother, rfl, hlease⟩ := h.holders position jobId holder hold
      refine ⟨other, hothers other hother fun heq => ?_, rfl, hlease⟩
      exact hfree position holder (heq ▸ hold)
    · exact ⟨_, hnew, rfl, _, rfl, rfl⟩
  case endings =>
    intro granted hgranted ending hending
    obtain hold | hnew := List.mem_append.mp hgranted
    · exact h.endings granted hold ending hending
    · obtain rfl := List.mem_singleton.mp hnew
      cases hending
  case runs =>
    intro other run hrun
    have hstill := h.runs other run hrun
    have hbusy : workerId ≠ other := by
      rintro rfl
      cases hidle.symm.trans hrun
    constructor
    case claim =>
      obtain ⟨ending, hgrant⟩ := hstill.claim
      exact ⟨ending, getElem?_issue.mpr (Or.inl hgrant)⟩
    case latest =>
      intro position granted hgranted hholder
      obtain hold | ⟨-, rfl⟩ := getElem?_issue.mp hgranted
      · exact hstill.latest position granted hold hholder
      · exact absurd hholder hbusy
    case job =>
      intro hopen
      obtain hopen | ⟨-, -, heq⟩ := openAt_issue.mp hopen
      · refine hothers run.job (hstill.job hopen) fun heq => ?_
        exact hfree _ _ (heq ▸ hopen)
      · exact absurd heq.symm hbusy
    case transaction =>
      obtain ⟨found, hfound, hid, htransaction⟩ := hstill.transaction
      by_cases heq : found = row
      · subst heq
        exact ⟨_, hnew, hid, htransaction⟩
      · exact ⟨found, hothers found hfound heq, hid, htransaction⟩
    case accepting => exact hstill.accepting
    case accepted => exact hstill.accepted

theorem runOnce (h : Sound state) (service : ProverJobService) (unseen locked : List String) (sweptAt now : Int)
    (lost : Option Failure) : Sound (state.runOnce service workerId unseen locked sweptAt now lost).2 := by
  unfold ProverState.runOnce
  split
  · exact h
  · exact h
  · next outcome hidle houtcome =>
    simp only [claimJob, bind_eq_ok_iff, exists_unit, Prod.exists] at houtcome
    obtain ⟨_, abandoned, swept, hswept, houtcome⟩ := houtcome
    have hsound : Sound (state.commit abandoned swept .abandoned) :=
      h.commit hswept fun row _ happlies => expireLeases_releases happlies
    split at houtcome
    · obtain rfl := pure_eq_ok_iff.mp houtcome
      exact hsound
    · next row hnext =>
      simp only [bind_eq_ok_iff, Prod.exists, pure_eq_ok_iff] at houtcome
      obtain ⟨claimed, jobs, hclaimed, rfl⟩ := houtcome
      obtain ⟨rfl, rfl, -⟩ := Update.execute_ok hclaimed
      obtain ⟨hrow, hclaimable⟩ := nextJob_mem hnext
      have hids : (swept.map ProverJob.id).Nodup := hsound.ids
      rw [claim_rows hids hrow]
      have hnew := hsound.claimed hidle service.leaseMs now hrow (claimable_state hclaimable)
      split
      · next hnone => cases hnone
      · next job hjob =>
        obtain rfl := Option.some.inj hjob
        split
        · exact hnew
        · refine hnew.atWork ?_
          constructor
          case claim => exact ⟨none, getElem?_issue.mpr (Or.inr ⟨rfl, rfl⟩)⟩
          case latest =>
            intro position granted hgranted _
            obtain hold | ⟨rfl, -⟩ := getElem?_issue.mp hgranted
            · exact Nat.le_of_lt (List.getElem?_eq_some_iff.mp hold).1
            · exact Nat.le_refl _
          case job => exact fun _ => Update.mem_table_of_applies hrow (by simp [prover.claim])
          case transaction => exact ⟨_, Update.mem_table_of_applies hrow (by simp [prover.claim]), rfl, rfl⟩
          case accepting =>
            intro request expected hphase
            dsimp only at hphase
            split at hphase <;> cases hphase
          case accepted =>
            intro receiptId hphase
            dsimp only at hphase
            split at hphase <;> cases hphase

variable {run : WorkerRun}

theorem submit (h : Sound state) (hrun : state.workers workerId = some run) (response : ServiceResponse) (now : Int)
    (lost : Option Failure) : Sound (state.submit workerId run response now lost).2 := by
  unfold ProverState.submit
  dsimp only
  split
  · exact h.caught (h.runs _ _ hrun) _
  · next externalJobId hsubmitted =>
    exact h.conclude hrun (fun row _ => recordSubmission_releases (submitJob_ne_empty hsubmitted)) _ _

theorem poll (h : Sound state) (hrun : state.workers workerId = some run) (zkGate : ZkSettlementGate JsValue)
    (response : ServiceResponse) (busy : Bool) (now : Int) (lost : Option Failure) :
    Sound (state.poll zkGate workerId run response busy now lost).2 := by
  have hsound := h.runs _ _ hrun
  unfold ProverState.poll
  split
  · exact h.caught hsound _
  · exact h.conclude hrun (fun row _ => recordPending_releases) _ _
  · exact h.conclude hrun (fun row _ => recordRemoteFailure_releases) _ _
  · exact h.conclude hrun (fun row _ => recordRemoteFailure_releases) _ _
  · dsimp only
    split
    · exact h.refused hsound _
    · split
      · exact h.caught hsound _
      · refine h.move hsound (fun request expected hphase => ?_) nofun
        obtain ⟨rfl, -⟩ := Phase.accepting.inj hphase
        rfl

theorem record (h : Sound state) (hrun : state.workers workerId = some run) (zkGate : ZkSettlementGate JsValue)
    {request : gate.AcceptRequest JsValue} {expected : security.JoinSplitPublicInputs security.FieldElement}
    (hrequest : request.transactionId = run.job.transactionId) (uuid : String) (now : Int) (lost : Option Failure) :
    Sound (state.record zkGate workerId run request expected uuid now lost).2 := by
  have hsound := h.runs _ _ hrun
  unfold ProverState.record
  split
  · exact h.refused hsound _
  · split
    · exact h.refused hsound _
    · next metadata db hrecorded =>
      obtain ⟨-, hadmits, rfl⟩ := gate.recordAcceptance_ok hrecorded
      obtain ⟨hkeyed, hkept⟩ := record_keyed h.keyed hadmits
      have hgate := h.gate
        { state.gate with
          db := state.gate.db.record (gate.Acceptance.of request expected metadata)
          history := state.gate.history ++ [.accepted (gate.Acceptance.of request expected metadata)] } hkeyed hkept
      dsimp only
      split
      · exact hgate.refused (hsound.kept hkept) _
      · refine hgate.acceptedBy (hsound.kept hkept) ⟨_, List.mem_append_right _ (List.mem_singleton_self _), rfl, ?_⟩
        exact hrequest

theorem lookUp (h : Sound state) (hrun : state.workers workerId = some run) (failure : Failure) :
    Sound (state.lookUp workerId run failure).2 := by
  have hsound := h.runs _ _ hrun
  unfold ProverState.lookUp
  split
  · exact h.caught hsound _
  · next receipt hreceipt =>
    obtain ⟨hmem, hmatches⟩ := mem_of_single_filter hreceipt
    simp only [Bool.and_eq_true, decide_eq_true_eq] at hmatches
    exact h.acceptedBy hsound ⟨receipt, hmem, rfl, hmatches.1⟩

theorem verify (h : Sound state) {receiptId : String} (hrun : state.workers workerId = some run)
    (hphase : run.phase = .accepted receiptId) (now : Int) (leaseLost : String) (lost : Option Failure) :
    Sound (state.conclude workerId run (recordVerified run.job workerId receiptId now) (.verified workerId) leaseLost
      lost).2 := by
  refine h.conclude hrun (fun row hrow happlies => recordVerified_releases ?_ happlies) _ _
  obtain ⟨rfl, -⟩ := h.held hrun hrow happlies
  exact (h.runs _ _ hrun).accepted receiptId hphase

theorem retry (h : Sound state) (hrun : state.workers workerId = some run) (failure : Failure) (now : Int)
    (lost : Option Failure) : Sound (state.retry workerId run failure now lost).2 := by
  unfold ProverState.retry
  split
  · exact h.done workerId
  · next rows jobs hexecute =>
    have hcommitted := h.commit hexecute fun row hrow happlies =>
      recordRetry_releases happlies (by rw [(h.held hrun hrow happlies).1])
    dsimp only
    split <;> exact hcommitted.done workerId

theorem fail (h : Sound state) (hrun : state.workers workerId = some run) (failure : Failure) :
    Sound (state.fail workerId run failure).2 := by
  have hsound := h.runs _ _ hrun
  unfold ProverState.fail
  split
  · exact h.refused hsound failure
  · exact h.done workerId
  · exact h.caught hsound failure

theorem step (h : Sound state) (zkGate : ZkSettlementGate JsValue) (action : Action) :
    Sound (step zkGate state action) := by
  unfold prover.step
  cases action with
  | request service request uuid now =>
    simp only [respond]
    split
    · exact h
    · next hrequest => exact h.request hrequest
  | runOnce service workerId unseen locked sweptAt now lost => exact h.runOnce service unseen locked sweptAt now lost
  | submit workerId response now lost =>
    simp only [respond]
    split
    · next hrun => exact h.submit hrun response now lost
    · exact h
  | poll workerId response busy now lost =>
    simp only [respond]
    split
    · next hrun => exact h.poll hrun zkGate response busy now lost
    · exact h
  | record workerId uuid now lost =>
    simp only [respond]
    split
    · next hrun => exact h.record hrun zkGate ((h.runs _ _ hrun).accepting _ _ rfl) uuid now lost
    · exact h
  | lookUp workerId =>
    simp only [respond]
    split
    · next hrun => exact h.lookUp hrun _
    · exact h
  | verify workerId now lost =>
    simp only [respond]
    split
    · next hrun => exact h.verify hrun rfl now _ lost
    · exact h
  | retry workerId now lost =>
    simp only [respond]
    split
    · next hrun => exact h.retry hrun _ now lost
    · exact h
  | fail workerId failure =>
    simp only [respond]
    split
    · next hrun => exact h.fail hrun failure
    · exact h
  | crash workerId => exact h.done workerId
  | gate action =>
    obtain ⟨hkeyed, hkept⟩ := step_keyed zkGate state.gate action h.keyed
    exact h.gate _ hkeyed hkept

end Sound

/-- Every reachable state is sound. -/
theorem run_sound (zkGate : ZkSettlementGate JsValue) {db : gate.Database} (h : Keyed db) (actions : List Action) :
    Sound (run zkGate db actions) :=
  runs.run_invariant (Sound.start h) (fun _ action hstate => hstate.step zkGate action) actions

end rwa.prover
