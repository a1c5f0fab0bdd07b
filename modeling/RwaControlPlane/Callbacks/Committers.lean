import RwaControlPlane.Callbacks.StreamLog

open checked
open rwa.durable (DurableWorkflowService sandboxWorkflow checkSettlement newIntent settleInTransaction accountBalance)
open rwa.callbacks
open rwa.security (EconomicCommitter heldKeys kmsKeys)
open rwa.storage (IsHash)

namespace rwa.reconciliation

variable {mac : String → String → String} (services : Services)

section Statement

/-- What an action is answered when it is accepted. -/
inductive Answer
  | workflow (reply : durable.Reply)
  | callback (reply : Reply)

/-- The answer to an action. What other services write is not answered. -/
def answer (state : State mac) : Action mac → Option Answer
  | .workflow tenantId action =>
    ((durable.respond (workflowService services state.committer tenantId) state.db action).1.toOption).map .workflow
  | .receive tenantId now clock posted =>
    (received services state tenantId now clock posted).toOption.map fun result => .callback result.reply
  | .deploy _ | .changeRegistry _ _ _ _ | .recordConfidential _ => none

/-- Two deployments have the same balances, states of transactions and verdicts. -/
structure SameOutcomes (first second : State mac) : Prop where
  ledger : ∀ accountId,
    accountBalance first.db.ledgerBatches accountId = accountBalance second.db.ledgerBatches accountId
  register : ∀ accountId,
    accountBalance first.db.registerBatches accountId = accountBalance second.db.registerBatches accountId
  transactions : first.db.transactions.intents.map (fun row => (row.id, row.currentState)) =
    second.db.transactions.intents.map fun row => (row.id, row.currentState)
  verdicts : first.tables.confirmations.map (fun row => (row.callbackId, row.reconciliation)) =
    second.tables.confirmations.map fun row => (row.callbackId, row.reconciliation)

/-- The committer stays the one of the deployment. -/
def Action.KeepsCommitter : Action mac → Prop
  | .deploy _ => False
  | _ => True

/-- Two committers are interchangeable in a run: before each action the outcomes are the
same, the action has the same answer, and after it the outcomes are still the same. -/
def Interchangeable (first second : EconomicCommitter mac) (actions : List (Action mac)) : Prop :=
  ∀ before action after, actions = before ++ action :: after →
    SameOutcomes (run services first before) (run services second before) ∧
      answer services (run services first before) action = answer services (run services second before) action ∧
      SameOutcomes (run services first (before ++ [action])) (run services second (before ++ [action]))

/-- A settlement passes every check, and its transaction is a new one. -/
def recordsTransaction (service : DurableWorkflowService) (db : durable.Database) (operation : durable.Operation)
    (request : durable.Request) (now : Int) : Except Failure Bool := do
  let (product, nav, _) ← checkSettlement service db operation.type request now
  let intent ← newIntent service db operation.type request product nav
  let (created, _, _) ← db.transactions.createTransactionIntent intent (some sandboxWorkflow)
  pure created

/-- A settlement gets as far as its commitments: its key is unused, and its transaction is
recorded. -/
def ReachesCommitments (service : DurableWorkflowService) (db : durable.Database) (action : durable.Action) : Prop :=
  match action.call with
  | .settle operation request =>
    db.replay service request = none ∧
      (recordsTransaction service db operation request action.now).toOption = some true
  | _ => False

instance (service : DurableWorkflowService) (db : durable.Database) (action : durable.Action) :
    Decidable (ReachesCommitments service db action) :=
  match action with
  | ⟨_, .settle _ _⟩ => inferInstanceAs (Decidable (_ ∧ _))
  | ⟨_, .bootstrapFromControlPlane _ _⟩ | ⟨_, .setProductStatus _ _ _⟩ | ⟨_, .restrictCredential _ _ _⟩
  | ⟨_, .proposeExceptionResolution _ _ _ _⟩ | ⟨_, .approveExceptionResolution _ _ _⟩ =>
    inferInstanceAs (Decidable False)

/-- No call of a run settles under a new key, as far as its commitments. -/
def NothingCommitted (committer : EconomicCommitter mac) (actions : List (Action mac)) : Prop :=
  ∀ before tenantId action after, actions = before ++ .workflow tenantId action :: after →
    ¬ReachesCommitments (workflowService services committer tenantId) (run services committer before).db action

end Statement

section Settlements

private theorem ok_bind {α β : Type} {value : α} {rest : α → Except Failure β} :
    (Except.ok value >>= rest) = rest value := rfl

private theorem error_bind {α β : Type} {failure : Failure} {rest : α → Except Failure β} :
    (Except.error failure >>= rest) = .error failure := rfl

variable {service : DurableWorkflowService} {other : Option durable.EconomicCommitter} {db next : durable.Database}

/-- Short of its commitments, a settlement goes alike with every committer, and leaves
commitments and cases as they are. -/
private theorem settle_of_unreached {operation : durable.Operation} {request : durable.Request} {now : Int}
    (h : ¬ReachesCommitments service db ⟨now, .settle operation request⟩) :
    durable.settle { service with economicCommitter := other } operation request now db =
        durable.settle service operation request now db ∧
      ∀ receipt next, durable.settle service operation request now db = .ok (receipt, next) →
        next.commitments = db.commitments ∧ next.exceptionCases = db.exceptionCases := by
  have hreplay : db.replay { service with economicCommitter := other } request = db.replay service request := rfl
  unfold durable.settle settleInTransaction
  rw [hreplay]
  cases hused : db.replay service request with
  | some existing =>
    refine ⟨rfl, fun receipt next hsettled => ?_⟩
    simp only [bind_eq_ok_iff, pure_eq_ok_iff, Prod.mk.injEq] at hsettled
    obtain ⟨_, -, _, -, -, rfl⟩ := hsettled
    exact ⟨rfl, rfl⟩
  | none =>
    have hchecks : checkSettlement { service with economicCommitter := other } db operation.type request now =
      checkSettlement service db operation.type request now := rfl
    dsimp only
    rw [hchecks]
    cases hchecked : checkSettlement service db operation.type request now with
    | error failure => simp only [error_bind, reduceCtorEq, false_implies, implies_true, and_self]
    | ok found =>
      obtain ⟨product, nav, plan⟩ := found
      have hintents : newIntent { service with economicCommitter := other } db operation.type request product nav =
        newIntent service db operation.type request product nav := rfl
      simp only [ok_bind]
      rw [hintents]
      cases hintent : newIntent service db operation.type request product nav with
      | error failure => simp only [error_bind, reduceCtorEq, false_implies, implies_true, and_self]
      | ok intent =>
        simp only [ok_bind]
        cases hcreated : db.transactions.createTransactionIntent intent (some sandboxWorkflow) with
        | error failure => simp only [error_bind, reduceCtorEq, false_implies, implies_true, and_self]
        | ok stored =>
          obtain ⟨created, row, transactions⟩ := stored
          cases created with
          | true =>
            refine absurd ⟨hused, ?_⟩ h
            simp only [recordsTransaction, hchecked, hintent, hcreated, ok_bind]
            rfl
          | false =>
            refine ⟨rfl, fun receipt next hsettled => ?_⟩
            simp only [ok_bind, if_true, bind_eq_ok_iff, pure_eq_ok_iff, Prod.mk.injEq] at hsettled
            obtain ⟨_, -, -, rfl⟩ := hsettled
            exact ⟨rfl, rfl⟩

/-- Without a case, a proposal and an approval fail with every committer. -/
private theorem propose_of_no_case (hcases : db.exceptionCases = []) {caseId makerId : String}
    {decision : control_plane.Decision} {replacementTransactionId : Option String} :
    ∃ failure, durable.proposeExceptionResolution caseId makerId decision replacementTransactionId db =
      .error failure := by
  cases hproposed : durable.proposeExceptionResolution caseId makerId decision replacementTransactionId db with
  | error failure => exact ⟨failure, rfl⟩
  | ok result =>
    obtain ⟨row, record, original, hproposable, -⟩ :=
      @durable.proposeExceptionResolution_ok _ result.2 _ _ _ _ _ hproposed
    have hfound := hproposable.found
    rw [durable.Database.findCase, hcases] at hfound
    cases hfound

private theorem approve_of_no_case (hcases : db.exceptionCases = []) {caseId checkerId : String}
    {decision : durable.ApprovalDecision} {now : Int} :
    durable.approveExceptionResolution { service with economicCommitter := other } caseId checkerId decision now db =
        durable.approveExceptionResolution service caseId checkerId decision now db ∧
      ∃ failure, durable.approveExceptionResolution service caseId checkerId decision now db = .error failure := by
  have hfails : ∃ failure, db.approveExceptionResolution caseId checkerId decision = .error failure := by
    unfold durable.Database.approveExceptionResolution
    cases durable.Database.checkerDecision decision with
    | error failure => exact ⟨failure, rfl⟩
    | ok verdict =>
      rw [durable.Database.findCase, hcases]
      exact ⟨_, rfl⟩
  obtain ⟨failure, hfailure⟩ := hfails
  unfold durable.approveExceptionResolution
  rw [hfailure]
  exact ⟨rfl, failure, rfl⟩

/-- No case and no commitment, as long as nothing was settled. -/
def Uncommitted (db : durable.Database) : Prop := db.commitments = [] ∧ db.exceptionCases = []

/-- A call commits to nothing where its transaction does not. -/
private theorem commit_uncommitted {α : Type}
    {outcome : durable.Database → Except Failure (α × durable.Database)}
    {reply : α × durable.Database → durable.Reply × durable.Database} (hdb : Uncommitted db)
    (hreply : ∀ result, (reply result).2 = result.2)
    (houtcome : ∀ result next, outcome db = .ok (result, next) → Uncommitted next) :
    Uncommitted (commit db fun db => (outcome db).map reply).2 := by
  refine commit_preserves hdb fun result next hnext => ?_
  cases hsuccess : outcome db with
  | error failure =>
    rw [hsuccess] at hnext
    cases hnext
  | ok value =>
    rw [hsuccess] at hnext
    have hsame : value.2 = next := (hreply value).symm.trans (congrArg Prod.snd (Except.ok.inj hnext))
    rw [← hsame]
    exact houtcome value.1 value.2 hsuccess

/-- A call that does not reach its commitments is answered alike with every committer, and
still nothing is committed. -/
private theorem respond_of_unreached {action : durable.Action} (hdb : Uncommitted db)
    (h : ¬ReachesCommitments service db action) :
    durable.respond { service with economicCommitter := other } db action = durable.respond service db action ∧
      Uncommitted (durable.step service db action) := by
  obtain ⟨hcommitments, hcases⟩ := hdb
  obtain ⟨now, call⟩ := action
  unfold durable.step
  cases call with
  | bootstrapFromControlPlane platform calls =>
    refine ⟨rfl, commit_uncommitted ⟨hcommitments, hcases⟩ (fun _ => rfl) fun done next hloaded => ?_⟩
    have hkept := durable.bootstrap_loaded hloaded
    exact ⟨hkept.commitments.trans hcommitments, hkept.exceptionCases.trans hcases⟩
  | setProductStatus productId status actorRef =>
    refine ⟨rfl, commit_uncommitted ⟨hcommitments, hcases⟩ (fun _ => rfl) fun result next hset => ?_⟩
    simp only [durable.setProductStatus, bind_eq_ok_iff, exists_unit, pure_eq_ok_iff, Prod.mk.injEq] at hset
    obtain ⟨-, -, _, -, -, -, rfl⟩ := hset
    exact ⟨hcommitments, hcases⟩
  | restrictCredential credentialId actorRef reason =>
    refine ⟨rfl, commit_uncommitted ⟨hcommitments, hcases⟩ (fun _ => rfl) fun result next hrestricted => ?_⟩
    simp only [durable.restrictCredential, bind_eq_ok_iff, exists_unit, pure_eq_ok_iff, Prod.mk.injEq] at hrestricted
    obtain ⟨-, -, -, -, rfl⟩ := hrestricted
    exact ⟨hcommitments, hcases⟩
  | settle operation request =>
    obtain ⟨hsame, hkept⟩ := @settle_of_unreached service other db operation request now h
    constructor
    · simp only [durable.respond, commit, hsame]
    · refine commit_uncommitted ⟨hcommitments, hcases⟩ (fun _ => rfl) fun receipt next hsettled => ?_
      obtain ⟨hnext, hsameCases⟩ := hkept receipt next hsettled
      exact ⟨hnext.trans hcommitments, hsameCases.trans hcases⟩
  | proposeExceptionResolution caseId makerId decision replacementTransactionId =>
    refine ⟨rfl, commit_uncommitted ⟨hcommitments, hcases⟩ (fun _ => rfl) fun proposed next hproposed => ?_⟩
    obtain ⟨failure, hfailure⟩ := propose_of_no_case hcases
    rw [hfailure] at hproposed
    cases hproposed
  | approveExceptionResolution caseId checkerId decision =>
    obtain ⟨hsame, failure, hfailure⟩ := @approve_of_no_case service other db hcases caseId checkerId decision now
    constructor
    · simp only [durable.respond, commit, hsame]
    · refine commit_uncommitted ⟨hcommitments, hcases⟩ (fun _ => rfl) fun decided next happroved => ?_
      rw [hfailure] at happroved
      cases happroved

end Settlements

section Callbacks

variable {service : CallbackService} {other : CommitmentContext → String → String → Except Failure Bool}
  {registry : Registry} {now : Int} {clock : Nat → Int}

private theorem reconcile_of_uncommitted (hregistry : registry.commitments = []) {callback : Callback} :
    reconcile { service with matchesCommitment := some other } registry callback =
      reconcile service registry callback := by
  have hmatch (transactionId : String) (service : CallbackService) :
      commitmentsMatch service registry callback transactionId = .ok (.mismatch "MISSING_ECONOMIC_COMMITMENT") := by
    unfold commitmentsMatch
    rw [hregistry, List.find?_nil]
    cases service.matchesCommitment <;> rfl
  unfold reconcile
  simp only [hmatch]

private theorem apply_of_uncommitted (hregistry : registry.commitments = []) {createdAt : Int} {tables : Tables}
    {callback : Callback} :
    apply { service with matchesCommitment := some other } registry createdAt tables callback =
      apply service registry createdAt tables callback := by
  unfold apply recordEvidenceAndReconciliation
  rw [reconcile_of_uncommitted hregistry]

private theorem drain_of_uncommitted (hregistry : registry.commitments = []) {stream : Stream} {fuel sequence : Nat}
    {tables : Tables} :
    drain { service with matchesCommitment := some other } registry now clock stream fuel sequence tables =
      drain service registry now clock stream fuel sequence tables := by
  induction fuel generalizing sequence tables with
  | zero => rfl
  | succ fuel ih =>
    unfold drain
    simp only [apply_of_uncommitted hregistry, ih]
    rfl

/-- Where nothing is committed to, a callback is received alike with every committer. -/
private theorem receive_of_uncommitted (hregistry : registry.commitments = []) {tables : Tables}
    {posted : PostedCallback} :
    receive { service with matchesCommitment := some other } registry now clock tables posted =
      receive service registry now clock tables posted := by
  unfold receive receiveNew receiveExpected
  simp only [apply_of_uncommitted hregistry, drain_of_uncommitted hregistry]
  rfl

end Callbacks

section Runs

variable {state : State mac} {second : EconomicCommitter mac}

/-- As long as nothing is committed to, a step goes alike with another committer. -/
private theorem step_of_unreached {action : Action mac} (hstate : Uncommitted state.db)
    (hkeeps : action.KeepsCommitter)
    (hunreached : ∀ tenantId call, action = .workflow tenantId call →
      ¬ReachesCommitments (workflowService services state.committer tenantId) state.db call) :
    answer services { state with committer := second } action = answer services state action ∧
      step services { state with committer := second } action =
        { step services state action with committer := second } ∧
      (step services state action).committer = state.committer ∧ Uncommitted (step services state action).db := by
  cases action with
  | workflow tenantId call =>
    obtain ⟨hsame, hnext⟩ := @respond_of_unreached (workflowService services state.committer tenantId)
      (workflowService services second tenantId).economicCommitter state.db call hstate (hunreached tenantId call rfl)
    have hrespond : durable.respond (workflowService services second tenantId) state.db call =
      durable.respond (workflowService services state.committer tenantId) state.db call := hsame
    refine ⟨?_, ?_, rfl, hnext⟩
    · simp only [answer, hrespond]
    · simp only [step, durable.step, hrespond]
  | receive tenantId now clock posted =>
    have hregistry : state.registry.commitments = [] := hstate.1
    have hsame : received services { state with committer := second } tenantId now clock posted =
        received services state tenantId now clock posted :=
      @receive_of_uncommitted (callbackService services state.committer tenantId)
        (second.matches services.callbacks.platform.numberText) state.registry now clock hregistry state.tables posted
    refine ⟨?_, ?_, ?_⟩
    · simp only [answer, hsame]
    · simp only [step, hsame]
      split <;> rfl
    · unfold step
      dsimp only
      split
      · exact ⟨rfl, hstate⟩
      · exact ⟨rfl, hstate⟩
  | deploy committer => exact hkeeps.elim
  | changeRegistry => exact ⟨rfl, rfl, rfl, hstate⟩
  | recordConfidential row =>
    refine ⟨rfl, rfl, rfl, ?_⟩
    simp only [step]
    unfold recordConfidential
    split
    · exact hstate
    · exact hstate

/-- In a run that commits to nothing, another committer makes no difference. -/
private theorem run_of_nothing_committed {first : EconomicCommitter mac} {actions : List (Action mac)}
    (hkeeps : ∀ action ∈ actions, action.KeepsCommitter) (hnothing : NothingCommitted services first actions)
    {before : List (Action mac)} (hbefore : before <+: actions) :
    run services second before = { run services first before with committer := second } ∧
      (run services first before).committer = first ∧ Uncommitted (run services first before).db := by
  induction before using List.reverseRecOn with
  | nil => exact ⟨rfl, rfl, rfl, rfl⟩
  | append_singleton before action ih =>
    obtain ⟨after, rfl⟩ := hbefore
    obtain ⟨hsame, hcommitter, huncommitted⟩ := ih ⟨action :: after, by simp⟩
    have hunreached : ∀ tenantId call, action = .workflow tenantId call →
        ¬ReachesCommitments (workflowService services (run services first before).committer tenantId)
          (run services first before).db call := by
      rintro tenantId call rfl
      rw [hcommitter]
      exact hnothing before tenantId call after (by simp)
    obtain ⟨-, hstep, hkept, hnext⟩ :=
      @step_of_unreached mac services _ second action huncommitted (hkeeps action (by simp)) hunreached
    have hfirst : run services first (before ++ [action]) = step services (run services first before) action :=
      runs.run_concat
    have hsecond : run services second (before ++ [action]) = step services (run services second before) action :=
      runs.run_concat
    rw [hfirst, hsecond, hsame, hstep]
    exact ⟨rfl, hkept.trans hcommitter, hnext⟩

private theorem economicCommitment_version {committer : durable.EconomicCommitter} {type : gate.TransactionType}
    {transactionId : String} {product : durable.Product} {request : durable.Request} {plan : durable.SettlementPlan}
    {commitment : durable.EconomicCommitment}
    (h : durable.economicCommitment committer type transactionId product request plan = .ok commitment) :
    commitment.commitmentVersion = committer.version := by
  unfold durable.economicCommitment at h
  split at h
  · obtain ⟨fee, -, h⟩ := bind_eq_ok_iff.mp h
    simp only [bind_eq_ok_iff, pure_eq_ok_iff] at h
    obtain ⟨_, -, _, -, _, -, rfl⟩ := h
    rfl
  · simp only [bind_eq_ok_iff, pure_eq_ok_iff] at h
    obtain ⟨_, -, _, -, _, -, _, -, rfl⟩ := h
    rfl

/-- A committer of another version commits to nothing: a settlement that gets so far is
refused, and nothing has changed. -/
theorem settlement_refused {committer : EconomicCommitter mac} (hversion : committer.version ≠ "HMAC-SHA256-v1")
    {tenantId : String} {db : durable.Database} {action : durable.Action}
    (h : ReachesCommitments (workflowService services committer tenantId) db action) :
    ∃ failure, durable.respond (workflowService services committer tenantId) db action = (.error failure, db) := by
  obtain ⟨now, call⟩ := action
  cases call with
  | settle operation request =>
    obtain ⟨hunused, hrecords⟩ := h
    suffices hfails : ∃ failure,
        durable.settle (workflowService services committer tenantId) operation request now db = .error failure by
      obtain ⟨failure, hfailure⟩ := hfails
      exact ⟨failure, by simp only [durable.respond, commit, hfailure, Except.map]⟩
    cases hsettled : durable.settle (workflowService services committer tenantId) operation request now db with
    | error failure => exact ⟨failure, rfl⟩
    | ok result =>
      exfalso
      unfold durable.settle settleInTransaction at hsettled
      rw [hunused] at hsettled
      obtain ⟨⟨product, nav, plan⟩, hchecked, hsettled⟩ := bind_eq_ok_iff.mp hsettled
      obtain ⟨intent, hintent, hsettled⟩ := bind_eq_ok_iff.mp hsettled
      obtain ⟨⟨created, row, transactions⟩, hcreated, hsettled⟩ := bind_eq_ok_iff.mp hsettled
      simp only [recordsTransaction, hchecked, hintent, hcreated, ok_bind] at hrecords
      obtain rfl : created = true := Option.some.inj hrecords
      obtain ⟨stored, hstored, hsettled⟩ := bind_eq_ok_iff.mp hsettled
      obtain ⟨commitment, hcommitment, hsettled⟩ := bind_eq_ok_iff.mp hsettled
      obtain ⟨committed, hinserted, -⟩ := bind_eq_ok_iff.mp hsettled
      obtain rfl := Option.some.inj (require_eq_ok_iff.mp hstored)
      simp only [durable.Database.insertCommitment, bind_eq_ok_iff, throwIf_eq_ok_iff, exists_unit,
        not_not] at hinserted
      exact hversion ((economicCommitment_version hcommitment).symm.trans hinserted.1.1)
  | bootstrapFromControlPlane | setProductStatus | restrictCredential | proposeExceptionResolution
  | approveExceptionResolution => exact h.elim

end Runs

/-- The committer with a key management service stands in for the one that holds its key
as long as no settlement gets to its commitments: in every such run of workflow calls and
callbacks, whatever is answered, the accepted actions, the balances, the states of the
transactions and the verdicts are the same. A settlement that does get there is refused
with the key management service, since the table takes no commitment of its version. -/
theorem committers_interchangeable {keyIds : List String} {keyId : String} (hkey : keyId ∈ keyIds)
    {generateMac : String → String → Except Failure String}
    (computes : ∀ keyId message result, generateMac keyId message = .ok result → result = mac keyId message)
    {actions : List (Action mac)} (hkeeps : ∀ action ∈ actions, action.KeepsCommitter)
    (hnothing : NothingCommitted services (heldKeys mac keyIds keyId hkey) actions) :
    let held := heldKeys mac keyIds keyId hkey
    let managed := kmsKeys mac generateMac computes keyId
    Interchangeable services held managed actions ∧
      ∀ (state : State mac) tenantId action,
        ReachesCommitments (workflowService services managed tenantId) state.db action →
          ∃ failure, durable.respond (workflowService services managed tenantId) state.db action =
            (.error failure, state.db) := by
  intro held managed
  have hversion : managed.version ≠ "HMAC-SHA256-v1" := by simp [managed, kmsKeys]
  refine ⟨?_, fun state tenantId action hreaches => settlement_refused services hversion hreaches⟩
  have hrun {before : List (Action mac)} (hbefore : before <+: actions) :=
    @run_of_nothing_committed mac services managed held _ hkeeps hnothing before hbefore
  have houtcomes {before : List (Action mac)} (hbefore : before <+: actions) :
      SameOutcomes (run services held before) (run services managed before) := by
    rw [(hrun hbefore).1]
    exact ⟨fun _ => rfl, fun _ => rfl, rfl, rfl⟩
  rintro before action after rfl
  refine ⟨houtcomes ⟨action :: after, rfl⟩, ?_, houtcomes ⟨after, by simp⟩⟩
  obtain ⟨hsame, hcommitter, huncommitted⟩ := @hrun before ⟨action :: after, rfl⟩
  rw [hsame]
  refine (step_of_unreached services huncommitted (hkeeps action (by simp)) ?_).1.symm
  rintro tenantId call rfl
  rw [hcommitter]
  exact hnothing before tenantId call after rfl

section Sample

private def managedCommitter : EconomicCommitter sampleMac :=
  kmsKeys sampleMac (fun keyId message => .ok (sampleMac keyId message))
    (fun _ _ _ h => (Except.ok.inj h).symm) "key-1"

private theorem managed_digest (message : String) :
    managedCommitter.generateMac "key-1" message = .ok (sampleMac "key-1" message) := by
  refine bind_eq_ok_iff.mpr ⟨_, rfl, bind_eq_ok_iff.mpr ⟨(), ?_, rfl⟩⟩
  exact throwIf_eq_ok_iff.mpr (not_not.mpr (sampleMac_isHash _ _))

/-- A plane is loaded, a subscription comes at a price that is not the NAV, and the
custodian posts a statement. -/
private def refusedActions : List (Action sampleMac) :=
  [.workflow "sandbox-hk" ⟨1, .bootstrapFromControlPlane control_plane.samplePlatform control_plane.sampleSetup⟩,
    .workflow "sandbox-hk" ⟨2, .settle .subscribe (durable.sampleSubscription "subscribe-1" "key-1" "5" "51")⟩,
    custodian ["key-1"], .receive "sandbox-hk" 5 (fun _ => 5) (custodyStatement "statement-1" "key-1" 1)]

theorem committers_interchangeable_sample :
    (run deployment firstCommitter refusedActions).tables.effects.map (·.callbackId) = ["statement-1"] ∧
      Interchangeable deployment firstCommitter managedCommitter refusedActions := by
  refine ⟨by decide +kernel,
    (committers_interchangeable deployment (by decide) (fun _ _ _ h => (Except.ok.inj h).symm) ?_ ?_).1⟩
  · simp [refusedActions, custodian, Action.KeepsCommitter]
  · intro before tenantId action after hsplit
    rw [← firstCommitter]
    match before with
    | [] =>
      obtain ⟨hfirst, -⟩ := List.cons.inj hsplit
      cases hfirst
      exact nofun
    | [_] =>
      simp only [refusedActions, List.cons_append, List.nil_append, List.cons.injEq] at hsplit
      obtain ⟨rfl, hsecond, -⟩ := hsplit
      cases hsecond
      decide +kernel
    | [_, _] => simp [refusedActions, custodian] at hsplit
    | [_, _, _] => simp [refusedActions] at hsplit
    | _ :: _ :: _ :: _ :: _ => simp [refusedActions] at hsplit

private def subscription : Action sampleMac :=
  .workflow "sandbox-hk" ⟨2, .settle .subscribe (durable.sampleSubscription "subscribe-1" "key-1" "5" "50")⟩

/-- Whether a subscription is answered with the key and with the key management
service. -/
private def SubscriptionAnswers (mac : String → String → String) : Prop :=
  let loaded : Action mac :=
    .workflow "sandbox-hk" ⟨1, .bootstrapFromControlPlane control_plane.samplePlatform control_plane.sampleSetup⟩
  let subscribes : Action mac :=
    .workflow "sandbox-hk" ⟨2, .settle .subscribe (durable.sampleSubscription "subscribe-1" "key-1" "5" "50")⟩
  (answer deployment
    (run deployment (security.heldKeys mac ["key-1"] "key-1" (List.mem_singleton_self "key-1")) [loaded])
      subscribes).isSome =
      true ∧
    (answer deployment (run deployment (kmsKeys mac (fun keyId message => .ok (mac keyId message))
      (fun _ _ _ h => (Except.ok.inj h).symm) "key-1") [loaded]) subscribes).isSome = false

private instance (mac : String → String → String) : Decidable (SubscriptionAnswers mac) :=
  inferInstanceAs (Decidable (_ ∧ _))

private theorem subscription_answers :
    (answer deployment (run deployment firstCommitter (refusedActions.take 1)) subscription).isSome = true ∧
      (answer deployment (run deployment managedCommitter (refusedActions.take 1)) subscription).isSome = false := by
  change SubscriptionAnswers sampleMac
  rw [sampleMac_eq_quick]
  decide +kernel

/-- A subscription that the service settles with the key is refused with the key
management service, which computes the same digests under it. -/
theorem managed_committer_refuses :
    (∀ message, IsHash (sampleMac "key-1" message) ∧
      managedCommitter.generateMac "key-1" message = firstCommitter.generateMac "key-1" message) ∧
      ¬Interchangeable deployment firstCommitter managedCommitter (refusedActions.take 1 ++ [subscription]) := by
  constructor
  · intro message
    refine ⟨sampleMac_isHash _ _, ?_⟩
    have hheld : firstCommitter.generateMac "key-1" message = .ok (sampleMac "key-1" message) := rfl
    rw [hheld]
    exact managed_digest message
  · intro h
    obtain ⟨haccepted, hrefused⟩ := subscription_answers
    obtain ⟨-, hsame, -⟩ := h (refusedActions.take 1) subscription [] rfl
    rw [hsame, hrefused] at haccepted
    cases haccepted

end Sample

end rwa.reconciliation
