import RwaControlPlane.Prover.Protocol

open checked keyed_rows leases js_value
open rwa.gate (ZkSettlementGate recordAcceptance)

namespace rwa.prover

variable {zkGate : ZkSettlementGate JsValue} {state : ProverState}

/-- The transaction has a proof receipt. -/
def Receipted (state : ProverState) (transactionId : String) : Prop :=
  ∃ receipt ∈ state.gate.db.receipts, receipt.transactionId = transactionId

/-- The job of the transaction has failed. -/
def Failed (state : ProverState) (transactionId : String) : Prop :=
  ∃ row ∈ state.jobs, row.transactionId = transactionId ∧ row.state = .failed

/-- No accepted proof is stranded behind a failed job. -/
def NotStranded (state : ProverState) : Prop :=
  ∀ transactionId, ¬(Receipted state transactionId ∧ Failed state transactionId)

/-- A step that cannot strand a proof: it neither spends the last attempt of a job
whose transaction has a receipt, nor records a failed remote job for one, nor
accepts a proof of a transaction whose job has failed. -/
def Recoverable (state : ProverState) : Action → Prop
  | .runOnce service workerId unseen _ sweptAt _ _ => state.workers workerId = none → ∀ row ∈ state.jobs,
      (expireLeases service.tenantId unseen sweptAt).applies row = true → Receipted state row.transactionId →
        row.attempts + 1 < maxAttempts
  | .retry workerId now _ => ∀ run failure, state.workers workerId = some run → run.phase = .retrying failure →
      ∀ row ∈ state.jobs, (recordRetry run.job workerId failure now).applies row = true →
        Receipted state row.transactionId → row.attempts + 1 < maxAttempts
  | .poll workerId response _ _ _ => ∀ run, state.workers workerId = some run → run.phase = .polling →
      ∀ row ∈ state.jobs, row.heldBy run.job.id workerId [.verifying] = true → Receipted state row.transactionId →
        ∀ remote, getJob run.service.expectedServiceId (run.job.externalJobId.getD "") response = .ok remote →
          remote ≠ .cancelled ∧ ∀ errorCode, remote ≠ .failed errorCode
  | .record workerId uuid now _ => ∀ run request expected, state.workers workerId = some run →
      run.phase = .accepting request expected → ∀ verification metadata db,
        recordAcceptance request expected verification uuid now state.gate.db = .ok (metadata, db) →
          ¬Failed state request.transactionId
  | .gate (.acceptRecord index uuid now) => ∀ call verification metadata db, state.gate.calls[index]? = some call →
      recordAcceptance call.request call.expectedPublicInputs verification uuid now state.gate.db =
          .ok (metadata, db) → ¬Failed state call.request.transactionId
  | _ => True

section Steps

variable {next : ProverState} {workerId : String} {run : WorkerRun}

/-- A step that fails no job with a receipt. -/
theorem NotStranded.jobs (h : NotStranded state) (hreceipts : next.gate.db.receipts = state.gate.db.receipts)
    (hjobs : ∀ row ∈ next.jobs, row.state = .failed → Receipted state row.transactionId →
      Failed state row.transactionId) : NotStranded next := by
  rintro transactionId ⟨hreceipted, row, hrow, rfl, hfailed⟩
  unfold Receipted at hreceipted
  rw [hreceipts] at hreceipted
  exact h _ ⟨hreceipted, hjobs row hrow hfailed hreceipted⟩

/-- A step that accepts no proof of a transaction whose job has failed. -/
theorem NotStranded.receipts (h : NotStranded state) (hjobs : next.jobs = state.jobs)
    (hreceipts : ∀ receipt ∈ next.gate.db.receipts, receipt ∈ state.gate.db.receipts ∨
      ¬Failed state receipt.transactionId) : NotStranded next := by
  rintro transactionId ⟨⟨receipt, hreceipt, rfl⟩, hfailed⟩
  unfold Failed at hfailed
  rw [hjobs] at hfailed
  obtain hold | hfree := hreceipts receipt hreceipt
  · exact h _ ⟨⟨receipt, hold, rfl⟩, hfailed⟩
  · exact hfree hfailed

/-- The failed jobs of an updated table are old ones, or the update has failed
them. -/
theorem failed_of_table {update : Update} {jobs : List ProverJob} (hold : ∀ row ∈ jobs, row.state = .failed →
      Receipted state row.transactionId → Failed state row.transactionId)
    (hnew : ∀ row ∈ jobs, update.applies row = true → (update.set row).state = .failed →
      ¬Receipted state (update.set row).transactionId) :
    ∀ row ∈ update.table jobs, row.state = .failed → Receipted state row.transactionId →
      Failed state row.transactionId := by
  intro row hrow hfailed hreceipted
  obtain ⟨hrow, -⟩ | ⟨old, hmem, happlies, rfl⟩ := Update.mem_table hrow
  · exact hold row hrow hfailed hreceipted
  · exact absurd hreceipted (hnew old hmem happlies hfailed)

theorem failed_of_state : ∀ row ∈ state.jobs, row.state = .failed → Receipted state row.transactionId →
    Failed state row.transactionId :=
  fun row hrow hfailed _ => ⟨row, hrow, rfl, hfailed⟩

theorem conclude_notStranded (h : NotStranded state) {update : Update} {ending : Ending} {leaseLost : String}
    {lost : Option Failure}
    (hnew : ∀ row ∈ state.jobs, update.applies row = true → (update.set row).state = .failed →
      ¬Receipted state (update.set row).transactionId) :
    NotStranded (state.conclude workerId run update ending leaseLost lost).2 := by
  unfold ProverState.conclude
  split
  · exact h
  · next hexecute =>
    obtain ⟨-, rfl, -⟩ := Update.execute_ok hexecute
    have hjobs := failed_of_table failed_of_state hnew
    split <;> exact h.jobs rfl hjobs

theorem refused_notStranded (h : NotStranded state) {failure : Failure} :
    NotStranded (state.refused workerId run failure).2 := by
  unfold ProverState.refused
  split <;> exact h

theorem acceptedBy_notStranded (h : NotStranded state) {receiptId : String} :
    NotStranded (state.acceptedBy workerId run receiptId).2 := by
  unfold ProverState.acceptedBy
  split <;> exact h

/-- A recorded acceptance leaves one more receipt. -/
theorem record_receipts {request : gate.AcceptRequest JsValue}
    {expected : security.JoinSplitPublicInputs security.FieldElement} {verification : security.Verification}
    {uuid : String} {now : Int} {db next : gate.Database} {metadata : gate.AcceptanceMetadata}
    (h : recordAcceptance request expected verification uuid now db = .ok (metadata, next)) :
    ∀ receipt ∈ next.receipts, receipt ∈ db.receipts ∨ receipt.transactionId = request.transactionId := by
  obtain ⟨-, -, rfl⟩ := gate.recordAcceptance_ok h
  intro receipt hreceipt
  obtain hold | hnew := List.mem_append.mp hreceipt
  · exact Or.inl hold
  · obtain rfl := List.mem_singleton.mp hnew
    exact Or.inr rfl

/-- The gate writes a receipt only where it records an acceptance. -/
theorem gate_receipts {zkGate : ZkSettlementGate JsValue} {gateState : gate.GateState JsValue}
    {action : gate.Action JsValue} (hids : (gateState.db.transactions.map (·.id)).Nodup)
    (haction : ∀ index uuid now, action ≠ .acceptRecord index uuid now) :
    (gate.step zkGate gateState action).db.receipts = gateState.db.receipts := by
  obtain ⟨events, hcommit, hhistory⟩ := gate.step_commits zkGate gateState action hids
  have hevents : gate.acceptances events = [] := by
    have htransact {ρ : Type} {operation : gate.Database → Except Failure (ρ × gate.Database)}
        {answer : ρ → gate.Response} {committed : ρ → List gate.Event}
        (hnone : ∀ result, gate.acceptances (committed result) = []) :
        gate.acceptances (gateState.transact operation answer committed).2.history =
          gate.acceptances gateState.history := by
      unfold gate.GateState.transact
      split
      · simp [hnone]
      · rfl
    have hsame : gate.acceptances (gate.step zkGate gateState action).history =
        gate.acceptances gateState.history := by
      cases action with
      | acceptRecord index uuid now => exact absurd rfl (haction index uuid now)
      | acceptRead request =>
        simp only [gate.step, gate.respond, gate.GateState.acceptRead]
        split
        · rfl
        · split <;> rfl
      | acceptVerify index =>
        simp only [gate.step, gate.respond, gate.GateState.acceptVerify]
        split
        · rfl
        · split <;> rfl
      | acceptAbandon index => rfl
      | writeReference reference => rfl
      | finalize request clockTimestamp =>
        simp only [gate.step, gate.respond, gate.GateState.finalize]
        split
        · rfl
        · rfl
        · simp
      | decideParameters request =>
        refine htransact fun decided => ?_
        unfold gate.genesisEvents
        split <;> rfl
      | _ => exact htransact fun _ => rfl
    rw [hhistory, gate.acceptances_append] at hsame
    exact List.append_right_eq_self.mp hsame
  generalize (gate.step zkGate gateState action).db = next at hcommit ⊢
  cases hcommit with
  | record acceptance => cases hevents
  | _ => rfl

theorem runOnce_notStranded (h : NotStranded state) {service : ProverJobService} {unseen locked : List String}
    {sweptAt now : Int} {lost : Option Failure}
    (hrecoverable : Recoverable state (.runOnce service workerId unseen locked sweptAt now lost)) :
    NotStranded (state.runOnce service workerId unseen locked sweptAt now lost).2 := by
  unfold ProverState.runOnce
  split
  · exact h
  · exact h
  · next outcome hidle houtcome =>
    have hswept : ∀ row ∈ state.jobs, (expireLeases service.tenantId unseen sweptAt).applies row = true →
        ((expireLeases service.tenantId unseen sweptAt).set row).state = .failed →
        ¬Receipted state ((expireLeases service.tenantId unseen sweptAt).set row).transactionId := by
      intro row hrow happlies hfailed hreceipted
      have hbudget := hrecoverable hidle row hrow happlies hreceipted
      have hstate : ((expireLeases service.tenantId unseen sweptAt).set row).state = .retryable :=
        if_neg (by omega)
      cases hstate.symm.trans hfailed
    have hjobs : ∀ row ∈ outcome.jobs, row.state = .failed → Receipted state row.transactionId →
        Failed state row.transactionId := by
      simp only [claimJob, bind_eq_ok_iff, exists_unit, Prod.exists] at houtcome
      obtain ⟨_, abandoned, swept, hexecute, houtcome⟩ := houtcome
      obtain ⟨-, rfl, -⟩ := Update.execute_ok hexecute
      have hold := failed_of_table failed_of_state hswept
      split at houtcome
      · obtain rfl := pure_eq_ok_iff.mp houtcome
        exact hold
      · next row _ =>
        simp only [bind_eq_ok_iff, Prod.exists, pure_eq_ok_iff] at houtcome
        obtain ⟨claimed, jobs, hclaimed, rfl⟩ := houtcome
        obtain ⟨-, rfl, -⟩ := Update.execute_ok hclaimed
        refine failed_of_table hold fun other _ _ hfailed => ?_
        simp only [claim] at hfailed
        split at hfailed <;> cases hfailed
    dsimp only
    split
    · exact h.jobs rfl hjobs
    · split <;> exact h.jobs rfl hjobs

theorem submit_notStranded (h : NotStranded state) {response : ServiceResponse} {now : Int} {lost : Option Failure} :
    NotStranded (state.submit workerId run response now lost).2 := by
  unfold ProverState.submit
  dsimp only
  split
  · exact h
  · exact conclude_notStranded h fun row _ _ hfailed => by cases hfailed

theorem poll_notStranded (h : NotStranded state) {zkGate : ZkSettlementGate JsValue} {response : ServiceResponse}
    {busy : Bool} {now : Int} {lost : Option Failure}
    (hremote : ∀ row ∈ state.jobs, row.heldBy run.job.id workerId [.verifying] = true →
      Receipted state row.transactionId → ∀ remote,
        getJob run.service.expectedServiceId (run.job.externalJobId.getD "") response = .ok remote →
          remote ≠ .cancelled ∧ ∀ errorCode, remote ≠ .failed errorCode) :
    NotStranded (state.poll zkGate workerId run response busy now lost).2 := by
  unfold ProverState.poll
  split
  · exact h
  · exact conclude_notStranded h fun row _ _ hfailed => by cases hfailed
  · next errorCode hanswer =>
    refine conclude_notStranded h fun row hrow happlies _ hreceipted => ?_
    exact (hremote row hrow happlies hreceipted _ hanswer).2 errorCode rfl
  · next hanswer =>
    refine conclude_notStranded h fun row hrow happlies _ hreceipted => ?_
    exact (hremote row hrow happlies hreceipted _ hanswer).1 rfl
  · dsimp only
    split
    · exact refused_notStranded h
    · split <;> exact h

theorem record_notStranded (h : NotStranded state) {zkGate : ZkSettlementGate JsValue}
    {request : gate.AcceptRequest JsValue} {expected : security.JoinSplitPublicInputs security.FieldElement}
    {uuid : String} {now : Int} {lost : Option Failure}
    (haccept : ∀ verification metadata db,
      recordAcceptance request expected verification uuid now state.gate.db = .ok (metadata, db) →
        ¬Failed state request.transactionId) :
    NotStranded (state.record zkGate workerId run request expected uuid now lost).2 := by
  unfold ProverState.record
  split
  · exact refused_notStranded h
  · next verification _ =>
    split
    · exact refused_notStranded h
    · next metadata db hrecorded =>
      have hfree := haccept verification metadata db hrecorded
      have hnext : NotStranded
          { state with
            gate :=
              { state.gate with
                db
                history := state.gate.history ++ [.accepted (gate.Acceptance.of request expected metadata)] } } :=
        h.receipts rfl fun receipt hreceipt =>
          (record_receipts hrecorded receipt hreceipt).imp id fun heq => by rwa [heq]
      dsimp only
      split
      · exact refused_notStranded hnext
      · exact acceptedBy_notStranded hnext

theorem retry_notStranded (h : NotStranded state) (hsound : Sound state) (hrun : state.workers workerId = some run)
    {failure : Failure} {now : Int} {lost : Option Failure}
    (hbudget : ∀ row ∈ state.jobs, (recordRetry run.job workerId failure now).applies row = true →
      Receipted state row.transactionId → row.attempts + 1 < maxAttempts) :
    NotStranded (state.retry workerId run failure now lost).2 := by
  unfold ProverState.retry
  split
  · exact h
  · next hexecute =>
    obtain ⟨-, rfl, -⟩ := Update.execute_ok hexecute
    have hjobs := failed_of_table failed_of_state fun row hrow happlies hfailed hreceipted => by
      have hattempts := hbudget row hrow happlies hreceipted
      obtain ⟨rfl, -⟩ := hsound.held hrun hrow happlies
      have hstate : ((recordRetry run.job workerId failure now).set run.job).state = .retryable :=
        if_neg (by omega)
      cases hstate.symm.trans hfailed
    dsimp only
    split <;> exact h.jobs rfl hjobs

theorem gate_notStranded (h : NotStranded state) (hsound : Sound state) (zkGate : ZkSettlementGate JsValue)
    {action : gate.Action JsValue} (hrecoverable : Recoverable state (.gate action)) :
    NotStranded { state with gate := gate.step zkGate state.gate action } := by
  by_cases haction : ∀ index uuid now, action ≠ .acceptRecord index uuid now
  · exact h.jobs (gate_receipts hsound.keyed.transactions haction) (@failed_of_state state)
  · simp only [not_forall, ne_eq, not_not] at haction
    obtain ⟨index, uuid, now, rfl⟩ := haction
    refine h.receipts rfl fun receipt hreceipt => ?_
    simp only [gate.step, gate.respond, gate.GateState.acceptRecord] at hreceipt
    split at hreceipt
    · exact Or.inl hreceipt
    · next call hcall =>
      split at hreceipt
      · exact Or.inl hreceipt
      · next verification _ =>
        unfold gate.GateState.transact at hreceipt
        split at hreceipt
        · next metadata db hrecorded =>
          refine (record_receipts hrecorded receipt hreceipt).imp id fun heq => ?_
          exact heq ▸ hrecoverable call verification metadata db hcall hrecorded
        · exact Or.inl hreceipt

end Steps

/-- A recoverable step strands no proof. -/
theorem step_notStranded (zkGate : ZkSettlementGate JsValue) (hsound : Sound state) (h : NotStranded state)
    {action : Action} (hrecoverable : Recoverable state action) : NotStranded (step zkGate state action) := by
  unfold step
  cases action with
  | request service request uuid now =>
    simp only [respond]
    split
    · exact h
    · next hrequest =>
      simp only [requestJob, bind_eq_ok_iff, exists_unit, Prod.exists] at hrequest
      obtain ⟨_, _, _, _, transaction, authorization, _, _, _, hrequest⟩ := hrequest
      split at hrequest
      · simp only [pure_eq_ok_iff, Prod.mk.injEq] at hrequest
        obtain ⟨_, rfl⟩ := hrequest
        exact h
      · simp only [bind_eq_ok_iff, throwIf_eq_ok_iff, exists_unit, pure_eq_ok_iff, Prod.mk.injEq] at hrequest
        obtain ⟨_, _, -, rfl⟩ := hrequest
        refine h.jobs rfl fun row hrow hfailed hreceipted => ?_
        obtain hold | hnew := List.mem_append.mp hrow
        · exact failed_of_state row hold hfailed hreceipted
        · obtain rfl := List.mem_singleton.mp hnew
          cases hfailed
  | runOnce service workerId unseen locked sweptAt now lost => exact runOnce_notStranded h hrecoverable
  | submit workerId response now lost =>
    simp only [respond]
    split
    · exact submit_notStranded h
    · exact h
  | poll workerId response busy now lost =>
    simp only [respond]
    split
    · next hrun => exact poll_notStranded h (hrecoverable _ hrun rfl)
    · exact h
  | record workerId uuid now lost =>
    simp only [respond]
    split
    · next hrun => exact record_notStranded h (hrecoverable _ _ _ hrun rfl)
    · exact h
  | lookUp workerId =>
    simp only [respond]
    split
    · unfold ProverState.lookUp
      split
      · exact h
      · exact acceptedBy_notStranded h
    · exact h
  | verify workerId now lost =>
    simp only [respond]
    split
    · exact conclude_notStranded h fun row _ _ hfailed => by cases hfailed
    · exact h
  | retry workerId now lost =>
    simp only [respond]
    split
    · next hrun => exact retry_notStranded h hsound hrun (hrecoverable _ _ hrun rfl)
    · exact h
  | fail workerId failure =>
    simp only [respond]
    split
    · unfold ProverState.fail
      split
      · exact refused_notStranded h
      · exact h
      · exact h
    · exact h
  | crash workerId => exact h
  | gate action => exact gate_notStranded h hsound zkGate hrecoverable

/-- An accepted proof is never stranded, in every run whose steps are recoverable:
no job is FAILED while its transaction has a receipt, and a job that has ended is
VERIFIED with that receipt. -/
theorem accepted_proof_not_stranded (zkGate : ZkSettlementGate JsValue) (db : gate.Database) (hkeyed : Keyed db)
    (actions : List Action)
    (hrecoverable : ∀ before action after, actions = before ++ action :: after →
      Recoverable (run zkGate db before) action) :
    ∀ before, before <+: actions → ∀ row ∈ (run zkGate db before).jobs,
      ∀ receipt ∈ (run zkGate db before).gate.db.receipts, receipt.transactionId = row.transactionId →
        row.state ≠ .failed ∧
          (row.state.Terminal → row.state = .verified ∧ row.proofReceiptId = some receipt.id) := by
  rintro before ⟨rest, rfl⟩ row hrow receipt hreceipt htransaction
  have hsound := run_sound zkGate hkeyed before
  have hnone : Sound (run zkGate db before) ∧ NotStranded (run zkGate db before) := by
    have hstep : ∀ state action, Sound state ∧ NotStranded state → Recoverable state action →
        Sound (step zkGate state action) ∧ NotStranded (step zkGate state action) :=
      fun state action h hadmissible => ⟨h.1.step zkGate action, step_notStranded zkGate h.1 h.2 hadmissible⟩
    refine runs.run_invariant_of_admissible hstep ⟨Sound.start hkeyed, ?_⟩ ?_
    · rintro transactionId ⟨-, row, hrow, -⟩
      cases hrow
    · exact fun earlier action after heq => hrecoverable earlier action (after ++ rest) (by simp [heq])
  have hfailed : row.state ≠ .failed := fun hfailed =>
    hnone.2 row.transactionId ⟨⟨receipt, hreceipt, htransaction⟩, row, hrow, rfl, hfailed⟩
  refine ⟨hfailed, fun hterminal => ?_⟩
  have hrowSound := hsound.rows row hrow
  have hverified : row.state = .verified := by
    obtain hverified | hfailing | hcancelled := hterminal
    · exact hverified
    · exact absurd hfailing hfailed
    · exact absurd hcancelled hrowSound.cancelled
  obtain ⟨receiptId, hnamed⟩ := Option.ne_none_iff_exists'.mp (hrowSound.verified.mp hverified)
  obtain ⟨found, hfound, rfl, hits⟩ := hrowSound.receipt receiptId hnamed
  obtain rfl := List.inj_on_of_nodup_map hsound.keyed.receipts hfound hreceipt (hits.trans htransaction.symm)
  exact ⟨hverified, hnamed⟩

/-- Nothing can be stranded before a proof is accepted. -/
theorem recoverable_of_unreceipted (hreceipts : state.gate.db.receipts = [])
    (hfailed : ∀ row ∈ state.jobs, row.state ≠ .failed) (action : Action) : Recoverable state action := by
  have hnone : ∀ transactionId, ¬Receipted state transactionId := by
    rintro transactionId ⟨receipt, hreceipt, -⟩
    rw [hreceipts] at hreceipt
    cases hreceipt
  have hfree : ∀ transactionId, ¬Failed state transactionId := by
    rintro transactionId ⟨row, hrow, -, hstate⟩
    exact hfailed row hrow hstate
  cases action with
  | runOnce => exact fun _ row _ _ hreceipted => absurd hreceipted (hnone _)
  | retry => exact fun _ _ _ _ row _ _ hreceipted => absurd hreceipted (hnone _)
  | poll => exact fun _ _ _ row _ _ hreceipted => absurd hreceipted (hnone _)
  | record => exact fun _ _ _ _ _ _ _ _ _ => hfree _
  | gate action =>
    cases action with
    | acceptRecord => exact fun _ _ _ _ _ _ => hfree _
    | _ => trivial
  | _ => trivial

/-- The run of the sample job is recoverable: its proof is accepted by the last
step but one. -/
theorem accepted_proof_not_stranded_sample :
    (run sampleGate sampleStart (sampleSubmission ++ sampleVerification)).gate.db.receipts.length = 1 ∧
      ∀ row ∈ (run sampleGate sampleStart (sampleSubmission ++ sampleVerification)).jobs,
        ∀ receipt ∈ (run sampleGate sampleStart (sampleSubmission ++ sampleVerification)).gate.db.receipts,
          receipt.transactionId = row.transactionId → row.state ≠ .failed ∧
            (row.state.Terminal → row.state = .verified ∧ row.proofReceiptId = some receipt.id) := by
  have hearlier : (run sampleGate sampleStart (sampleSubmission ++ sampleVerification)).gate.db.receipts.length = 1 ∧
      ∀ count < 7, (run sampleGate sampleStart ((sampleSubmission ++ sampleVerification).take count)).gate.db.receipts =
          [] ∧
        ∀ row ∈ (run sampleGate sampleStart ((sampleSubmission ++ sampleVerification).take count)).jobs,
          row.state ≠ .failed := by
    decide +kernel
  refine ⟨hearlier.1, accepted_proof_not_stranded sampleGate sampleStart sampleStart_keyed _ ?_ _ List.prefix_rfl⟩
  intro before action after heq
  by_cases hlength : before.length < 7
  · have hbefore : (sampleSubmission ++ sampleVerification).take before.length = before := by
      rw [heq, List.take_left]
    obtain ⟨hreceipts, hfailed⟩ := hearlier.2 before.length hlength
    rw [hbefore] at hreceipts hfailed
    exact recoverable_of_unreceipted hreceipts hfailed action
  · have hlast : before.length = 7 := by
      have htotal := congrArg List.length heq
      simp only [List.length_append, List.length_cons] at htotal
      change 8 = _ at htotal
      omega
    have haction : (sampleSubmission ++ sampleVerification)[before.length]? = some action := by
      rw [heq, List.getElem?_append_right (Nat.le_refl _), Nat.sub_self]
      rfl
    rw [hlast] at haction
    obtain rfl := Option.some.inj haction
    trivial

/-- An attempt of a worker that fails at its first call. -/
def failedAttempt (now : Int) : List Action :=
  [.runOnce sampleService "first" [] [] now now none,
    .fail "first" ⟨"ECONNRESET", "socket hang up"⟩,
    .retry "first" now none]

/-- Seven attempts fail. In the eighth the proof is accepted, but the worker
crashes before it has updated the job. -/
def strandedRun : List Action :=
  sampleSubmission ++ [100000, 200000, 300000, 400000, 500000, 600000, 700000].flatMap failedAttempt ++
    [.runOnce sampleService "first" [] [] 800000 800000 none,
      .poll "first" sampleProof false 800000 none,
      .record "first" "uuid" 50 none,
      .crash "first",
      .runOnce sampleService "second" [] [] 900000 900000 none]

/-- The job is FAILED behind the receipt of its transaction. -/
theorem accepted_proof_stranded :
    ∃ row ∈ (run sampleGate sampleStart strandedRun).jobs,
      ∃ receipt ∈ (run sampleGate sampleStart strandedRun).gate.db.receipts,
        receipt.transactionId = row.transactionId ∧ row.state = .failed ∧ row.proofReceiptId = none := by
  decide +kernel

end rwa.prover
