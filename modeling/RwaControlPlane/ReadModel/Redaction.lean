import RwaControlPlane.ReadModel.EvidenceRuns

open checked js_value related runs
open rwa.gate (TransactionState)
open rwa.storage (Platform)
open rwa.durable (ApprovalDecision ApprovalRecord ExceptionCase)
open rwa.control_plane (CaseStatus Decision)
open rwa.read_model (Role)

namespace rwa.transaction_evidence

section Writes

variable (platform : Platform)

/-- What a row of the audit table discloses: a transaction and an identity. -/
def AuditRow.disclosure (row : AuditRow) : Option (String × String) :=
  if row.aggregateType = "transaction" then row.event.disclosed.map (row.aggregateId, ·) else none

/-- A call adds rows of its tenant to the audit table, and they disclose what is
given. -/
def Writes (state next : State) (tenantId : String) (disclosure : Option (String × String)) : Prop :=
  ∃ rows, next.audit = state.audit ++ rows ∧
    (∀ row ∈ rows, row.tenantId = tenantId ∧ hasBigInt row.event.metadata = false) ∧
    rows.filterMap AuditRow.disclosure = disclosure.toList

variable {state next middle : State} {tenantId : String}

theorem writes_nothing (h : next.audit = state.audit) : Writes state next tenantId none :=
  ⟨[], by rw [h, List.append_nil], nofun, rfl⟩

theorem writes_event (h : middle.audit = state.audit) (transactionId : String) {event : Event}
    (hevent : hasBigInt event.metadata = false) :
    Writes state (middle.recordTransactionEvent platform tenantId transactionId event) tenantId
      (event.disclosed.map (transactionId, ·)) := by
  refine ⟨[middle.auditRow platform tenantId "transaction" transactionId event], ?_, ?_, ?_⟩
  · rw [← h]
    rfl
  · intro row hrow
    obtain rfl := List.mem_singleton.mp hrow
    exact ⟨rfl, hevent⟩
  · cases hdisclosed : event.disclosed <;> simp [AuditRow.disclosure, State.auditRow, hdisclosed]

theorem transitionTransaction_audit {transactionId : String} {toState : TransactionState} {reasonCode : Option String}
    {actorRef : String} (h : state.transitionTransaction transactionId toState reasonCode actorRef = .ok next) :
    next.audit = state.audit := by
  obtain ⟨db, -, hnext⟩ := bind_eq_ok_iff.mp h
  obtain rfl := pure_eq_ok_iff.mp hnext
  rfl

theorem storeReceipt_audit {transactionId : String} {receipt : JsValue} {receiptHash : String}
    (h : state.storeReceipt platform transactionId receipt = .ok (receiptHash, next)) : next.audit = state.audit := by
  obtain ⟨-, -, hnext⟩ := bind_eq_ok_iff.mp h
  obtain rfl := (Prod.mk.inj (pure_eq_ok_iff.mp hnext)).2
  rfl

theorem Writes.after (h : Writes state middle tenantId none) {disclosure : Option (String × String)}
    (hnext : Writes middle next tenantId disclosure) : Writes state next tenantId disclosure := by
  obtain ⟨rows, haudit, hrows, hdisclosed⟩ := h
  obtain ⟨added, hadded, hmore, hdisclosure⟩ := hnext
  refine ⟨rows ++ added, by rw [hadded, haudit, List.append_assoc], ?_, ?_⟩
  · intro row hrow
    exact (List.mem_append.mp hrow).elim (hrows row) (hmore row)
  · rw [List.filterMap_append, hdisclosed, hdisclosure]
    rfl

theorem recordExceptionDecision_writes {row : ExceptionCase} (h : middle.audit = state.audit) (checkerId : String)
    (status : CaseStatus) (reasonCode : Option String) :
    Writes state (recordExceptionDecision platform tenantId row checkerId status reasonCode middle) tenantId
      (some (row.transactionId, checkerId)) := by
  refine writes_event platform h row.transactionId ?_
  cases reasonCode <;> rfl

theorem settleInTransaction_writes {settlement : Settlement} {settledAt : String} {registerFailure : Bool}
    (h : settleInTransaction platform tenantId settlement settledAt registerFailure state = .ok next) :
    Writes state next tenantId none := by
  unfold settleInTransaction at h
  split at h
  · obtain ⟨-, -, h⟩ := bind_eq_ok_iff.mp h
    obtain ⟨-, -, h⟩ := bind_eq_ok_iff.mp h
    obtain rfl := pure_eq_ok_iff.mp h
    exact writes_nothing rfl
  · obtain ⟨found, -, h⟩ := bind_eq_ok_iff.mp h
    obtain ⟨created, -, h⟩ := bind_eq_ok_iff.mp h
    obtain ⟨db, -, h⟩ := bind_eq_ok_iff.mp h
    obtain ⟨⟨receiptHash, stored⟩, hstored, h⟩ := bind_eq_ok_iff.mp h
    obtain rfl := pure_eq_ok_iff.mp h
    have haudit : stored.audit = state.audit := by simpa using storeReceipt_audit platform hstored
    cases registerFailure with
    | true => exact writes_event platform haudit settlement.transactionId rfl
    | false => exact writes_event platform haudit settlement.transactionId rfl

/-- The case of a proposal is the one that is found, in its next round. -/
private theorem proposed_case {db later : durable.Database} {caseId makerId : String} {decision : Decision}
    {replacementTransactionId : Option String} {row : ExceptionCase}
    (h : db.proposeExceptionResolution caseId makerId decision replacementTransactionId = .ok (row, later)) :
    ∃ found, db.findCase caseId = some found ∧ found.transactionId = row.transactionId := by
  simp only [durable.Database.proposeExceptionResolution, bind_eq_ok_iff, pure_eq_ok_iff, require_eq_ok_iff,
    Prod.mk.injEq] at h
  obtain ⟨-, -, -, -, found, hfound, -, -, rfl, -⟩ := h
  exact ⟨found, (Option.filter_eq_some_iff.mp hfound).1, rfl⟩

private theorem approved_case {db later : durable.Database} {caseId checkerId : String} {decision : ApprovalDecision}
    {row : ExceptionCase} {maker : ApprovalRecord}
    (h : db.approveExceptionResolution caseId checkerId decision = .ok (row, maker, later)) :
    db.findCase caseId = some row := by
  simp only [durable.Database.approveExceptionResolution, bind_eq_ok_iff, pure_eq_ok_iff, require_eq_ok_iff,
    Prod.mk.injEq] at h
  obtain ⟨-, -, found, hfound, -, -, -, -, -, -, rfl, -⟩ := h
  exact (Option.filter_eq_some_iff.mp hfound).1

theorem proposeExceptionResolution_writes {caseId makerId : String} {decision : Decision}
    {replacementTransactionId : Option String}
    (h : proposeExceptionResolution platform tenantId caseId makerId decision replacementTransactionId state =
      .ok next) :
    Writes state next tenantId ((state.db.findCase caseId).map fun row => (row.transactionId, makerId)) := by
  obtain ⟨⟨row, db⟩, hproposed, h⟩ := bind_eq_ok_iff.mp h
  obtain ⟨moved, hmoved, h⟩ := bind_eq_ok_iff.mp h
  obtain rfl := pure_eq_ok_iff.mp h
  obtain ⟨found, hfound, htransaction⟩ := proposed_case hproposed
  have haudit : moved.audit = state.audit := by simpa using transitionTransaction_audit hmoved
  rw [hfound, Option.map_some, htransaction]
  exact writes_event platform haudit row.transactionId rfl

/-- A retry settles first, or is blocked: either way its checker is recorded. -/
private theorem retryException_writes {row : ExceptionCase} {maker : ApprovalRecord} {checkerId : String}
    {retry : Retry} {settledAt : String}
    (h : retryException platform tenantId row maker checkerId retry settledAt state = .ok next) :
    Writes state next tenantId (some (row.transactionId, checkerId)) := by
  obtain ⟨original, -, h⟩ := bind_eq_ok_iff.mp h
  dsimp only at h
  split at h
  · obtain ⟨db, -, h⟩ := bind_eq_ok_iff.mp h
    obtain rfl := pure_eq_ok_iff.mp h
    exact recordExceptionDecision_writes platform rfl checkerId .opened _
  · rename_i settled hsettled
    obtain ⟨replaced, hreplaced, h⟩ := bind_eq_ok_iff.mp h
    obtain ⟨db, -, h⟩ := bind_eq_ok_iff.mp h
    obtain rfl := pure_eq_ok_iff.mp h
    have haudit : replaced.audit = settled.audit := transitionTransaction_audit hreplaced
    exact (settleInTransaction_writes platform hsettled).after
      (recordExceptionDecision_writes platform haudit checkerId .resolvedRetried none)

theorem approveExceptionResolution_writes {caseId checkerId : String} {decision : ApprovalDecision} {retry : Retry}
    {settledAt : String}
    (h : approveExceptionResolution platform tenantId caseId checkerId decision retry settledAt state = .ok next) :
    Writes state next tenantId ((state.db.findCase caseId).map fun row => (row.transactionId, checkerId)) := by
  obtain ⟨⟨row, maker, db⟩, happroved, h⟩ := bind_eq_ok_iff.mp h
  rw [approved_case happroved, Option.map_some]
  dsimp only at h
  split at h
  · obtain ⟨reopened, -, h⟩ := bind_eq_ok_iff.mp h
    obtain rfl := pure_eq_ok_iff.mp h
    exact recordExceptionDecision_writes platform rfl checkerId .opened _
  · split at h
    · obtain ⟨cancelled, -, h⟩ := bind_eq_ok_iff.mp h
      obtain ⟨resolved, -, h⟩ := bind_eq_ok_iff.mp h
      obtain rfl := pure_eq_ok_iff.mp h
      exact recordExceptionDecision_writes platform rfl checkerId .resolvedCancelled none
    · have hretry := retryException_writes platform h
      exact hretry

theorem prepare_writes {transfer : ConfidentialTransfer} (h : prepare platform tenantId transfer state = .ok next) :
    Writes state next tenantId none := by
  obtain ⟨⟨created, row, transactions⟩, -, h⟩ := bind_eq_ok_iff.mp h
  dsimp only at h
  split at h
  · obtain ⟨db, -, h⟩ := bind_eq_ok_iff.mp h
    obtain rfl := pure_eq_ok_iff.mp h
    exact writes_event platform rfl transfer.transactionId rfl
  · obtain rfl := pure_eq_ok_iff.mp h
    exact writes_nothing rfl

theorem enqueueProverJob_writes {transactionId jobId : String}
    (h : enqueueProverJob platform tenantId transactionId jobId state = .ok next) :
    Writes state next tenantId none := by
  obtain ⟨row, -, h⟩ := bind_eq_ok_iff.mp h
  split at h
  · obtain rfl := pure_eq_ok_iff.mp h
    exact writes_nothing rfl
  · obtain rfl := pure_eq_ok_iff.mp h
    exact writes_event platform rfl transactionId rfl

theorem acceptProof_writes {transactionId receiptId contextId merkleRoot : String} {verification : Verification}
    {settledAt : String}
    (h : acceptProof platform tenantId transactionId receiptId contextId merkleRoot verification settledAt state =
      .ok next) : Writes state next tenantId none := by
  obtain ⟨row, -, h⟩ := bind_eq_ok_iff.mp h
  obtain ⟨-, -, h⟩ := bind_eq_ok_iff.mp h
  obtain ⟨-, -, h⟩ := bind_eq_ok_iff.mp h
  obtain ⟨moved, hmoved, h⟩ := bind_eq_ok_iff.mp h
  obtain ⟨transactions, -, h⟩ := bind_eq_ok_iff.mp h
  obtain rfl := pure_eq_ok_iff.mp h
  exact writes_event platform (transitionTransaction_audit hmoved) transactionId rfl

theorem proposeFinalization_writes {proposal : Proposal}
    (h : proposeFinalization platform tenantId proposal state = .ok next) : Writes state next tenantId none := by
  obtain ⟨-, -, h⟩ := bind_eq_ok_iff.mp h
  obtain ⟨-, -, h⟩ := bind_eq_ok_iff.mp h
  obtain ⟨-, -, h⟩ := bind_eq_ok_iff.mp h
  obtain rfl := pure_eq_ok_iff.mp h
  exact writes_event platform rfl proposal.transactionId rfl

theorem cancelFinalization_writes {transactionId cancelledBy reason : String}
    (h : cancelFinalization platform tenantId transactionId cancelledBy reason state = .ok next) :
    Writes state next tenantId (some (transactionId, cancelledBy)) := by
  obtain ⟨proposal, hproposal, h⟩ := bind_eq_ok_iff.mp h
  obtain rfl := pure_eq_ok_iff.mp h
  have hfound := List.find?_some (require_eq_ok_iff.mp hproposal)
  simp only [Bool.and_eq_true, decide_eq_true_eq] at hfound
  rw [← hfound.1.1]
  exact writes_event platform rfl proposal.transactionId rfl

theorem finalize_writes {transactionId finalizedBy : String} {stale : Bool} {settledAt : String}
    (h : finalize platform tenantId transactionId finalizedBy stale settledAt state = .ok next) :
    Writes state next tenantId none := by
  obtain ⟨row, -, h⟩ := bind_eq_ok_iff.mp h
  obtain ⟨settlement, -, h⟩ := bind_eq_ok_iff.mp h
  obtain ⟨proposal, -, h⟩ := bind_eq_ok_iff.mp h
  obtain ⟨-, -, h⟩ := bind_eq_ok_iff.mp h
  split at h
  · obtain rfl := pure_eq_ok_iff.mp h
    exact writes_event platform rfl proposal.transactionId rfl
  · obtain ⟨transactions, -, h⟩ := bind_eq_ok_iff.mp h
    obtain ⟨moved, hmoved, h⟩ := bind_eq_ok_iff.mp h
    obtain ⟨⟨receiptHash, stored⟩, hstored, h⟩ := bind_eq_ok_iff.mp h
    obtain rfl := pure_eq_ok_iff.mp h
    have haudit : stored.audit = state.audit := by
      rw [storeReceipt_audit platform hstored, transitionTransaction_audit hmoved]
      rfl
    exact writes_event platform haudit transactionId rfl

/-- The transaction of which a call discloses an identity, and the identity. -/
def disclosed (state : State) : Call → Option (String × String)
  | .proposeExceptionResolution caseId makerId _ _ =>
    (state.db.findCase caseId).map fun row => (row.transactionId, makerId)
  | .approveExceptionResolution caseId checkerId _ _ =>
    (state.db.findCase caseId).map fun row => (row.transactionId, checkerId)
  | .cancelFinalization transactionId cancelledBy _ => some (transactionId, cancelledBy)
  | _ => none

/-- What a call that succeeds adds to the audit table. -/
theorem execute_writes {action : Action} (h : execute platform action state = .ok next) :
    Writes state next action.tenantId (disclosed state action.call) := by
  obtain ⟨tenantId, now, call⟩ := action
  cases call with
  | settle => exact settleInTransaction_writes platform h
  | proposeExceptionResolution => exact proposeExceptionResolution_writes platform h
  | approveExceptionResolution => exact approveExceptionResolution_writes platform h
  | prepare => exact prepare_writes platform h
  | enqueueProverJob => exact enqueueProverJob_writes platform h
  | acceptProof => exact acceptProof_writes platform h
  | proposeFinalization => exact proposeFinalization_writes platform h
  | cancelFinalization => exact cancelFinalization_writes platform h
  | finalize => exact finalize_writes platform h
  | recordOther aggregateType aggregateId eventType metadata =>
    obtain ⟨-, -, h⟩ := bind_eq_ok_iff.mp h
    obtain ⟨_, hmetadata, h⟩ := bind_eq_ok_iff.mp h
    obtain rfl := pure_eq_ok_iff.mp h
    have hplain : hasBigInt metadata = false := by simpa using throwIf_eq_ok_iff.mp hmetadata
    refine ⟨[_], rfl, fun row hrow => ?_, ?_⟩
    · obtain rfl := List.mem_singleton.mp hrow
      exact ⟨rfl, hplain⟩
    · simp [AuditRow.disclosure, State.auditRow, Event.disclosed, disclosed]
  | reconcile =>
    obtain rfl := pure_eq_ok_iff.mp h
    exact writes_nothing rfl

/-- What is disclosed of a transaction after a call was disclosed before, or is
disclosed by the call. -/
theorem Writes.disclosed_iff {disclosure : Option (String × String)} (h : Writes state next tenantId disclosure)
    {tenant transactionId identity : String} :
    (∃ row ∈ next.auditOf tenant transactionId, row.event.disclosed = some identity) ↔
      (∃ row ∈ state.auditOf tenant transactionId, row.event.disclosed = some identity) ∨
        tenantId = tenant ∧ disclosure = some (transactionId, identity) := by
  obtain ⟨rows, haudit, hrows, hdisclosure⟩ := h
  have hadded : (∃ row ∈ rows.filter fun row => row.tenantId = tenant && row.aggregateType = "transaction" &&
      row.aggregateId = transactionId, row.event.disclosed = some identity) ↔
        tenantId = tenant ∧ disclosure = some (transactionId, identity) := by
    rw [← Option.mem_toList, ← hdisclosure, List.mem_filterMap]
    constructor
    · rintro ⟨row, hrow, hidentity⟩
      obtain ⟨hmem, hselected⟩ := List.mem_filter.mp hrow
      simp only [Bool.and_eq_true, decide_eq_true_eq] at hselected
      obtain ⟨⟨htenant, htype⟩, hid⟩ := hselected
      refine ⟨(hrows row hmem).1.symm.trans htenant, row, hmem, ?_⟩
      rw [AuditRow.disclosure, if_pos htype, hidentity, hid]
      rfl
    · rintro ⟨htenant, row, hmem, hrow⟩
      unfold AuditRow.disclosure at hrow
      split at hrow
      · rename_i htype
        obtain ⟨found, hfound, heq⟩ := Option.map_eq_some_iff.mp hrow
        obtain ⟨hid, rfl⟩ := Prod.mk.inj heq
        refine ⟨row, List.mem_filter.mpr ⟨hmem, ?_⟩, hfound⟩
        simp [(hrows row hmem).1, htenant, htype, hid]
      · cases hrow
  rw [← hadded, State.auditOf, haudit, List.filter_append]
  simp only [List.mem_append, or_and_right, exists_or]
  rfl

/-- A call that commits discloses an identity in the package of a transaction. -/
def Discloses (state : State) (action : Action) (tenantId transactionId identity : String) : Prop :=
  action.tenantId = tenantId ∧ (execute platform action state).isOk = true ∧
    disclosed state action.call = some (transactionId, identity)

theorem step_disclosed_iff {action : Action} {tenant transactionId identity : String} :
    (∃ row ∈ (step platform state action).auditOf tenant transactionId, row.event.disclosed = some identity) ↔
      (∃ row ∈ state.auditOf tenant transactionId, row.event.disclosed = some identity) ∨
        Discloses platform state action tenant transactionId identity := by
  unfold step Discloses
  cases h : execute platform action state with
  | error failure => simp [Except.isOk, Except.toBool]
  | ok next => simpa [Except.isOk, Except.toBool] using (execute_writes platform h).disclosed_iff

/-- What the audit events of a transaction disclose is what the calls of the run
have disclosed. -/
theorem run_disclosed_iff {actions : List Action} {tenant transactionId identity : String} :
    (∃ row ∈ (run (step platform) State.empty actions).auditOf tenant transactionId,
        row.event.disclosed = some identity) ↔
      ∃ before action after, actions = before ++ action :: after ∧
        Discloses platform (run (step platform) State.empty before) action tenant transactionId identity := by
  induction actions using List.reverseRecOn with
  | nil => simp [State.auditOf, State.empty]
  | append_singleton actions last ih =>
    rw [run_concat, step_disclosed_iff, ih]
    constructor
    · rintro (⟨before, action, after, rfl, hdiscloses⟩ | hdiscloses)
      · exact ⟨before, action, after ++ [last], by simp, hdiscloses⟩
      · exact ⟨actions, last, [], rfl, hdiscloses⟩
    · rintro ⟨before, action, after, heq, hdiscloses⟩
      obtain ⟨rfl, rfl⟩ | ⟨rest, rfl⟩ := split_concat heq
      · exact Or.inr hdiscloses
      · exact Or.inl ⟨before, action, rest, rfl, hdiscloses⟩

/-- No metadata hold a BigInt. -/
theorem run_noBigInt (actions : List Action) :
    ∀ row ∈ (run (step platform) State.empty actions).audit, hasBigInt row.event.metadata = false := by
  refine @run_invariant _ _ (step platform) State.empty
    (fun state => ∀ row ∈ state.audit, hasBigInt row.event.metadata = false) nofun
      (fun state action hstate => ?_) actions
  unfold step
  cases h : execute platform action state with
  | error failure => exact hstate
  | ok next =>
    obtain ⟨rows, haudit, hrows, -⟩ := execute_writes platform h
    intro row hrow
    rw [haudit] at hrow
    exact (List.mem_append.mp hrow).elim (hstate row) fun hadded => (hrows row hadded).2

end Writes

section Redaction

/-- Two runs that differ in the identities, the hashes and the times only give the
issuer and the supervisor the same package of a transaction, up to hashes and
times, exactly if every identity that a call of the run discloses in that package
is the same in both runs. -/
theorem evidence_package_redacted (platform : Platform) {rename requests : String → String}
    (hrename : rename.Injective) (hrequests : requests.Injective) {actions counterparts : List Action}
    (hactions : actions.map (Action.mask rename requests) = counterparts.map (Action.mask id id))
    (tenantId transactionId : String) :
    (∀ role institutionId, role = .issuer ∨ role = .supervisor →
      (transactionEvidencePackage platform (run (step platform) State.empty actions) tenantId transactionId role
          institutionId).map blankHashes =
        (transactionEvidencePackage platform (run (step platform) State.empty counterparts) tenantId transactionId role
          institutionId).map blankHashes) ↔
      (((run (step platform) State.empty actions).intentOf tenantId transactionId).isSome →
        ∀ before action after identity, actions = before ++ action :: after →
          Discloses platform (run (step platform) State.empty before) action tenantId transactionId identity →
          rename identity = identity) := by
  have halike := alike_run platform hrename hrequests hactions
  have hplain := run_noBigInt platform actions
  have hdisclosed : (∀ row ∈ (run (step platform) State.empty actions).auditOf tenantId transactionId,
      ∀ identity ∈ row.event.disclosed, rename identity = identity) ↔
        ∀ before action after identity, actions = before ++ action :: after →
          Discloses platform (run (step platform) State.empty before) action tenantId transactionId identity →
          rename identity = identity := by
    constructor
    · intro h before action after identity hsplit hdiscloses
      obtain ⟨row, hrow, hidentity⟩ := (run_disclosed_iff platform).mpr ⟨before, action, after, hsplit, hdiscloses⟩
      exact h row hrow identity hidentity
    · intro h row hrow identity hidentity
      obtain ⟨before, action, after, hsplit, hdiscloses⟩ := (run_disclosed_iff platform).mp ⟨row, hrow, hidentity⟩
      exact h before action after identity hsplit hdiscloses
  rw [← hdisclosed]
  constructor
  · intro h
    exact (package_eq_iff platform halike hplain (Or.inl rfl) none).mp (h .issuer none (Or.inl rfl))
  · intro h role institutionId hrole
    exact (package_eq_iff platform halike hplain hrole institutionId).mpr h

end Redaction

section Samples

private def samplePlatform : Platform := ⟨fun text => text, fun _ => "1", fun _ => "now"⟩

private def sampleDigest : String := String.ofList (List.replicate 64 'a')

/-- A transfer whose registration fails. -/
private def sampleTransfer (policySnapshotHash now : String) : Action :=
  ⟨"hk", now, .settle
    { transactionId := "t1", idempotencyKey := "k1", requestHash := "r1", type := .transfer
      checked := .ok
        { productId := "p1", ruleVersion := 1, policySnapshotHash, navEvidenceId := "n1"
          privatePayloadCiphertext := "c1", originatingInstitutionId := none, settlementMode := .standard
          commitment :=
            ⟨"t1", "HMAC-SHA256-v1", "key-1", "UNIT:p1", "HKD", sampleDigest, sampleDigest, sampleDigest⟩ } } true⟩

/-- The transfer, and a maker who proposes to cancel it. -/
private def sampleRun (maker : String) : List Action :=
  [sampleTransfer "h1" "now",
    ⟨"hk", "now", .proposeExceptionResolution (durable.exceptionCaseId "t1") maker .cancel none⟩]

/-- A confidential transfer that `maker` authorizes and whose finality he proposes; carol
approves it. -/
private def sampleConfidentialRun (maker now : String) : List Action :=
  [⟨"hk", now, .prepare
      { transactionId := "t1", idempotencyKey := "k1", requestHash := "r1", productId := "p1", ruleVersion := 1
        policySnapshotHash := "h1", privatePayloadCiphertext := "c1", originatingInstitutionId := "broker"
        authorizedBy := maker, contextId := "context-1", assetType := "7", circuitId := "join-split"
        circuitVersion := "v2", expiresAt := now }⟩,
    ⟨"hk", now, .acceptProof "t1" "receipt-1" "context-1" now ⟨"join-split", "v2", now, now, now⟩⟩,
    ⟨"hk", now, .proposeFinalization
      { id := "proposal-1", transactionId := "t1", tenantId := "hk", outputMerkleRoot := now, outputTreeSize := 4
        baseMerkleRoot := now, baseTreeSize := 2, rootSourceReference := "root-1", executionReference := "execution-1"
        status := .pending, proposedBy := maker }⟩,
    ⟨"hk", now, .finalize "t1" "carol" false⟩]

private theorem sampleConfidentialRun_mask :
    (sampleConfidentialRun "alice" "now").map (Action.mask (Equiv.swap "alice" "bob") id) =
      (sampleConfidentialRun "bob" "later").map (Action.mask id id) := by
  simp [sampleConfidentialRun, Action.mask, Call.mask, ConfidentialTransfer.mask, Verification.mask, Proposal.mask,
    Equiv.swap_apply_of_ne_of_ne]

/-- The two runs record who proposed and approved, and show the issuer the same. -/
theorem evidence_package_redacted_sample :
    ((run (step samplePlatform) State.empty (sampleConfidentialRun "alice" "now")).intentOf "hk" "t1").map
        (·.currentState) = some .settled ∧
      (transactionEvidencePackage samplePlatform
          (run (step samplePlatform) State.empty (sampleConfidentialRun "alice" "now")) "hk" "t1" .issuer none).map
          blankHashes =
        (transactionEvidencePackage samplePlatform
          (run (step samplePlatform) State.empty (sampleConfidentialRun "bob" "later")) "hk" "t1" .issuer none).map
          blankHashes := by
  refine ⟨by decide +kernel, (evidence_package_redacted samplePlatform (Equiv.swap "alice" "bob").injective
    Function.injective_id sampleConfidentialRun_mask "hk" "t1").mpr ?_ .issuer none (Or.inl rfl)⟩
  intro _ before action after identity hsplit hdiscloses
  have hmem : action ∈ sampleConfidentialRun "alice" "now" := by simp [hsplit]
  obtain ⟨-, -, hdisclosed⟩ := hdiscloses
  simp only [sampleConfidentialRun, List.mem_cons, List.not_mem_nil, or_false] at hmem
  rcases hmem with rfl | rfl | rfl | rfl <;> cases hdisclosed

private theorem sampleRun_mask : (sampleRun "alice").map (Action.mask (Equiv.swap "alice" "bob") id) =
    (sampleRun "bob").map (Action.mask id id) := by
  simp [sampleRun, sampleTransfer, Action.mask, Call.mask, Settlement.mask]

private theorem sampleRun_discloses :
    ((run (step samplePlatform) State.empty (sampleRun "alice")).intentOf "hk" "t1").isSome = true ∧
      ((run (step samplePlatform) State.empty (sampleRun "alice")).auditOf "hk" "t1").map (·.event.disclosed) =
        [none, some "alice"] := by
  decide +kernel

/-- The package of the issuer names the maker of a proposal. -/
theorem evidence_package_names_maker :
    (transactionEvidencePackage samplePlatform (run (step samplePlatform) State.empty (sampleRun "alice")) "hk" "t1"
        .issuer none).map blankHashes ≠
      (transactionEvidencePackage samplePlatform (run (step samplePlatform) State.empty (sampleRun "bob")) "hk" "t1"
        .issuer none).map blankHashes := by
  intro h
  obtain ⟨hsome, hdisclosed⟩ := sampleRun_discloses
  have halike := alike_run samplePlatform (Equiv.swap "alice" "bob").injective Function.injective_id sampleRun_mask
  have hrows := (package_eq_iff samplePlatform halike (run_noBigInt samplePlatform _) (Or.inl rfl) none).mp h hsome
  obtain ⟨row, hrow, hidentity⟩ : ∃ row ∈ (run (step samplePlatform) State.empty (sampleRun "alice")).auditOf "hk" "t1",
      row.event.disclosed = some "alice" := by
    rw [← List.mem_map (f := fun row : AuditRow => row.event.disclosed), hdisclosed]
    simp
  have hname := hrows row hrow "alice" hidentity
  simp at hname

end Samples

end rwa.transaction_evidence
