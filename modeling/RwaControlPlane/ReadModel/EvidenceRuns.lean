import RwaControlPlane.ReadModel.EvidenceMask

open checked js_value related
open rwa.gate (TransactionState)
open rwa.storage (Platform TransactionIntent TransactionTables StateChange)
open rwa.durable (ApprovalDecision ApprovalRecord ExceptionCase)
open rwa.control_plane (Decision CaseStatus)

namespace rwa.transaction_evidence

section Actions

variable (rename requests : String → String)

def Found.mask (found : Found) : Found := { found with policySnapshotHash := "", privatePayloadCiphertext := "" }

def Settlement.mask (settlement : Settlement) : Settlement :=
  { settlement with requestHash := requests settlement.requestHash, checked := settlement.checked.map Found.mask }

def Retry.mask (retry : Retry) : Retry :=
  { requestHash := requests retry.requestHash, checked := retry.checked.map Found.mask }

def ConfidentialTransfer.mask (transfer : ConfidentialTransfer) : ConfidentialTransfer :=
  { transfer with
    requestHash := requests transfer.requestHash, policySnapshotHash := "", privatePayloadCiphertext := ""
    authorizedBy := rename transfer.authorizedBy, expiresAt := "" }

/-- A call with its identities and request hashes replaced, and without its other
hashes and times. -/
def Call.mask : Call → Call
  | settle settlement registerFailure => settle (settlement.mask requests) registerFailure
  | proposeExceptionResolution caseId makerId decision replacementTransactionId =>
    proposeExceptionResolution caseId (rename makerId) decision replacementTransactionId
  | approveExceptionResolution caseId checkerId decision retry =>
    approveExceptionResolution caseId (rename checkerId) decision (retry.mask requests)
  | prepare transfer => prepare (transfer.mask rename requests)
  | enqueueProverJob transactionId jobId => enqueueProverJob transactionId jobId
  | acceptProof transactionId receiptId contextId _ verification =>
    acceptProof transactionId receiptId contextId "" verification.mask
  | proposeFinalization proposal => proposeFinalization (proposal.mask rename)
  | cancelFinalization transactionId cancelledBy reason => cancelFinalization transactionId (rename cancelledBy) reason
  | finalize transactionId finalizedBy stale => finalize transactionId (rename finalizedBy) stale
  | recordOther aggregateType _ _ metadata =>
    recordOther aggregateType "" "" (if hasBigInt metadata then .bigint 0 else .null)
  | reconcile row => reconcile row

def Action.mask (action : Action) : Action :=
  { action with now := "", call := action.call.mask rename requests }

end Actions

section Tables

variable {requests : String → String} {tables others : TransactionTables}

theorem TablesAlike.ids (h : TablesAlike requests tables others) :
    tables.intents.map (·.id) = others.intents.map (·.id) := by
  have hkey (requests : String → String) (row : TransactionIntent) : row.id = (maskIntent requests row).id := rfl
  exact map_key_eq h.intents (hkey requests) (hkey id)

theorem TablesAlike.findKey (h : TablesAlike requests tables others) (tenantId idempotencyKey : String) :
    Both (fun row counterpart => maskIntent requests row = maskIntent id counterpart)
      (tables.findKey tenantId idempotencyKey) (others.findKey tenantId idempotencyKey) := by
  let selects (row : TransactionIntent) : Bool := row.tenantId = tenantId && row.idempotencyKey = idempotencyKey
  have hselects (requests : String → String) (row : TransactionIntent) :
      selects row = selects (maskIntent requests row) := rfl
  exact both_find h.intents (hselects requests) (hselects id)

/-- What two intents that are masked alike have in common. -/
private theorem maskIntent_eq {row counterpart : TransactionIntent}
    (h : maskIntent requests row = maskIntent id counterpart) :
    row.id = counterpart.id ∧ row.tenantId = counterpart.tenantId ∧ row.productId = counterpart.productId ∧
      row.idempotencyKey = counterpart.idempotencyKey ∧ requests row.requestHash = counterpart.requestHash ∧
      row.transactionType = counterpart.transactionType ∧ row.currentState = counterpart.currentState ∧
      row.settlementRail = counterpart.settlementRail ∧
      row.originatingInstitutionId = counterpart.originatingInstitutionId := by
  simp only [maskIntent, TransactionIntent.mk.injEq, id] at h
  obtain ⟨hid, htenant, hproduct, hkey, hrequest, htype, hcurrent, -, -, -, -, hrail, horigin⟩ := h
  exact ⟨hid, htenant, hproduct, hkey, hrequest, htype, hcurrent, hrail, horigin⟩

theorem related_createTransactionIntent (hrequests : requests.Injective) (h : TablesAlike requests tables others)
    {intent counterpart : TransactionIntent} (hintent : maskIntent requests intent = maskIntent id counterpart)
    (actorRef otherRef : Option String) :
    Related (fun result later => result.1 = later.1 ∧ TablesAlike requests result.2.2 later.2.2)
      (tables.createTransactionIntent intent actorRef) (others.createTransactionIntent counterpart otherRef) := by
  obtain ⟨hid, htenant, -, hkey, hrequest, -, -, -, horigin⟩ := maskIntent_eq hintent
  have hfound := h.findKey intent.tenantId intent.idempotencyKey
  unfold TransactionTables.createTransactionIntent
  rw [← htenant, ← hkey]
  cases hstate : tables.findKey intent.tenantId intent.idempotencyKey <;>
    cases hother : others.findKey intent.tenantId intent.idempotencyKey <;> rw [hstate, hother] at hfound
  · refine Related.bind (related_throwIf (by rw [h.ids, hid])) fun _ _ _ => Related.pure ⟨rfl, ?_, ?_, h.finality⟩
    · refine map_concat_eq h.intents ?_
      simp only [maskIntent, TransactionIntent.mk.injEq] at hintent ⊢
      simp [hintent]
    · exact map_concat_eq h.stateHistory (by simp [maskChange, hid])
  · exact hfound.elim
  · exact hfound.elim
  · rename_i existing earlier
    obtain ⟨-, -, -, -, hexisting, -, -, -, horigins⟩ := maskIntent_eq hfound
    refine Related.bind (related_throwIf ?_) fun _ _ _ => Related.pure ⟨rfl, h⟩
    rw [← hexisting, ← hrequest, horigins, horigin, hrequests.ne_iff]

theorem related_transitionTransaction (h : TablesAlike requests tables others) (transactionId : String)
    (toState : TransactionState) (reasonCode actorRef otherRef : Option String) :
    Related (TablesAlike requests) (tables.transitionTransaction transactionId toState reasonCode actorRef)
      (others.transitionTransaction transactionId toState reasonCode otherRef) := by
  unfold TransactionTables.transitionTransaction
  refine Related.bind (related_require h.find) fun intent counterpart hintent => ?_
  obtain ⟨-, -, -, -, -, -, hcurrent, hrail, -⟩ := maskIntent_eq hintent
  rw [hcurrent, hrail]
  refine Related.bind (related_throwIf Iff.rfl) fun _ _ _ => ?_
  refine Related.bind (related_throwIf Iff.rfl) fun _ _ _ => Related.pure ⟨?_, ?_, h.finality⟩
  · let move (row : TransactionIntent) : TransactionIntent :=
      if row.id = transactionId then { row with currentState := toState } else row
    have hmove (requests : String → String) (row : TransactionIntent) :
        maskIntent requests (move row) = move (maskIntent requests row) := by
      by_cases hrow : row.id = transactionId <;> simp [move, maskIntent, hrow]
    exact map_update_eq h.intents (hmove requests) (hmove id)
  · exact map_concat_eq h.stateHistory rfl

theorem related_insertSettlement (h : TablesAlike requests tables others) (transactionId : String) :
    Related (TablesAlike requests) (tables.insertSettlement transactionId)
      (others.insertSettlement transactionId) := by
  unfold TransactionTables.insertSettlement
  let waits (row : TransactionIntent) : Prop := row.id = transactionId ∧ row.transactionType = .transfer ∧
    row.settlementRail = .confidentialNote ∧ row.currentState = .rootPending
  have hwaits (requests : String → String) (row : TransactionIntent) : waits row ↔ waits (maskIntent requests row) :=
    Iff.rfl
  refine Related.bind (related_throwIf (not_congr (exists_mem_iff h.intents (hwaits requests) (hwaits id))))
    fun _ _ _ => ?_
  rw [h.finality]
  exact Related.bind (related_throwIf Iff.rfl) fun _ _ _ => Related.pure ⟨h.intents, h.stateHistory, rfl⟩

theorem related_finalizeSettlement (h : TablesAlike requests tables others) (transactionId : String) :
    Related (TablesAlike requests) (tables.finalizeSettlement transactionId)
      (others.finalizeSettlement transactionId) := by
  unfold TransactionTables.finalizeSettlement
  rw [h.finality]
  refine Related.bind (related_throwIf Iff.rfl) fun _ _ _ => Related.pure ⟨h.intents, h.stateHistory, rfl⟩

end Tables

section Databases

variable {rename requests : String → String} {db other : durable.Database}

theorem DatabaseAlike.withTransactions (h : DatabaseAlike rename requests db other)
    {transactions later : TransactionTables} (htransactions : TablesAlike requests transactions later) :
    DatabaseAlike rename requests { db with transactions } { other with transactions := later } :=
  { h with transactions := htransactions }

theorem related_transition (h : DatabaseAlike rename requests db other) (transactionId : String)
    (toState : TransactionState) (reasonCode : Option String) (actorRef otherRef : String) :
    Related (DatabaseAlike rename requests) (db.transitionTransaction transactionId toState reasonCode actorRef)
      (other.transitionTransaction transactionId toState reasonCode otherRef) :=
  Related.bind (related_transitionTransaction h.transactions transactionId toState reasonCode (some actorRef)
    (some otherRef)) fun _ _ htransactions => Related.pure (h.withTransactions htransactions)

theorem related_transitionThrough (h : DatabaseAlike rename requests db other) (transactionId : String)
    (actorRef otherRef : String) (states : List TransactionState) :
    Related (DatabaseAlike rename requests) (db.transitionThrough transactionId actorRef states)
      (other.transitionThrough transactionId otherRef states) := by
  induction states generalizing db other with
  | nil => exact Related.pure h
  | cons toState rest ih =>
    exact Related.bind (related_transitionTransaction h.transactions transactionId toState none (some actorRef)
      (some otherRef)) fun _ _ htransactions => ih (h.withTransactions htransactions)

theorem related_insertCommitment (h : DatabaseAlike rename requests db other) (row : durable.EconomicCommitment) :
    Related (DatabaseAlike rename requests) (db.insertCommitment row) (other.insertCommitment row) := by
  unfold durable.Database.insertCommitment
  rw [h.commitments]
  refine Related.bind (related_throwIf Iff.rfl) fun _ _ _ => ?_
  exact Related.bind (related_throwIf Iff.rfl) fun _ _ _ => Related.pure { h with commitments := rfl }

theorem related_insertExceptionCase (h : DatabaseAlike rename requests db other) (row : ExceptionCase) :
    Related (DatabaseAlike rename requests) (db.insertExceptionCase row) (other.insertExceptionCase row) := by
  unfold durable.Database.insertExceptionCase
  rw [h.exceptionCases]
  refine Related.bind (related_throwIf Iff.rfl) fun _ _ _ => ?_
  exact Related.bind (related_throwIf Iff.rfl) fun _ _ _ => Related.pure { h with exceptionCases := rfl }

theorem DatabaseAlike.findCase (h : DatabaseAlike rename requests db other) (exceptionId : String) :
    db.findCase exceptionId = other.findCase exceptionId := by
  rw [durable.Database.findCase, durable.Database.findCase, h.exceptionCases]

theorem DatabaseAlike.updateCase (h : DatabaseAlike rename requests db other) (exceptionId : String)
    (change : ExceptionCase → ExceptionCase) :
    DatabaseAlike rename requests (db.updateCase exceptionId change) (other.updateCase exceptionId change) :=
  { h with exceptionCases := by rw [durable.Database.updateCase, durable.Database.updateCase, h.exceptionCases] }

/-- The proposal of a round is that of the same maker under his other name. -/
theorem DatabaseAlike.makerOf (h : DatabaseAlike rename requests db other) (exceptionId : String)
    (approvalRound : Nat) :
    Both (fun row counterpart => maskApproval rename row = maskApproval id counterpart)
      (db.makerOf exceptionId approvalRound) (other.makerOf exceptionId approvalRound) := by
  let selects (row : ApprovalRecord) : Bool :=
    row.exceptionId = exceptionId && row.approvalRound = approvalRound && row.role = .maker
  have hselects (rename : String → String) (row : ApprovalRecord) :
      selects row = selects (maskApproval rename row) := rfl
  exact both_single (map_filter_eq h.approvals (hselects rename) (hselects id))

private theorem maskApproval_eq {row counterpart : ApprovalRecord}
    (h : maskApproval rename row = maskApproval id counterpart) :
    rename row.actorRef = counterpart.actorRef ∧ row.decision = counterpart.decision ∧
      row.proposedReplacementTransactionId = counterpart.proposedReplacementTransactionId := by
  simp only [maskApproval, ApprovalRecord.mk.injEq, id] at h
  exact ⟨h.2.2.2.1, h.2.2.2.2⟩

theorem related_insertApproval (hrename : rename.Injective) (h : DatabaseAlike rename requests db other)
    (row : ApprovalRecord) :
    Related (DatabaseAlike rename requests) (db.insertApproval row)
      (other.insertApproval (maskApproval rename row)) := by
  have hvalid : Related (fun _ _ => True) (db.validateApprovalRecord row)
      (other.validateApprovalRecord (maskApproval rename row)) := by
    obtain ⟨exceptionId, approvalRound, role, actorRef, decision, replacement⟩ := row
    cases role with
    | maker => exact related_throwIf Iff.rfl
    | checker =>
      refine Related.bind (related_throwIf Iff.rfl) fun _ _ _ => ?_
      refine Related.bind (related_require (h.makerOf _ _)) fun maker counterpart hmaker => related_throwIf ?_
      rw [← (maskApproval_eq hmaker).1]
      exact hrename.eq_iff.symm
  let key (row : ApprovalRecord) := (row.exceptionId, row.approvalRound, row.role)
  have hkey (rename : String → String) (row : ApprovalRecord) : key row = key (maskApproval rename row) := rfl
  refine Related.bind hvalid fun _ _ _ => ?_
  refine Related.bind (related_throwIf ?_) fun _ _ _ => Related.pure { h with approvals := ?_ }
  · exact iff_of_eq (congrArg _ (map_key_eq h.approvals (hkey rename) (hkey id)))
  · exact map_concat_eq h.approvals rfl

/-- A proposal of a maker, and that of the same maker under his other name. -/
theorem related_proposeResolution (hrename : rename.Injective) (h : DatabaseAlike rename requests db other)
    (exceptionId makerRef : String) (decision : Decision) (replacementTransactionId : Option String) :
    Related (fun result later => result.1 = later.1 ∧ DatabaseAlike rename requests result.2 later.2)
      (db.proposeExceptionResolution exceptionId makerRef decision replacementTransactionId)
      (other.proposeExceptionResolution exceptionId (rename makerRef) decision replacementTransactionId) := by
  unfold durable.Database.proposeExceptionResolution
  rw [h.findCase]
  refine Related.bind (Related.refl _) fun decision counterpart hdecision => ?_
  subst hdecision
  refine Related.bind (related_throwIf Iff.rfl) fun _ _ _ => ?_
  refine Related.bind (Related.refl _) fun row found hrow => ?_
  subst hrow
  refine Related.bind (related_insertApproval hrename h _) fun next later hnext => ?_
  exact Related.pure ⟨rfl, hnext.updateCase exceptionId _⟩

/-- A decision of a checker, and that of the same checker under his other name. -/
theorem related_approveResolution (hrename : rename.Injective) (h : DatabaseAlike rename requests db other)
    (exceptionId checkerRef : String) (decision : ApprovalDecision) :
    Related (fun result later => result.1 = later.1 ∧
        maskApproval rename result.2.1 = maskApproval id later.2.1 ∧ DatabaseAlike rename requests result.2.2 later.2.2)
      (db.approveExceptionResolution exceptionId checkerRef decision)
      (other.approveExceptionResolution exceptionId (rename checkerRef) decision) := by
  unfold durable.Database.approveExceptionResolution
  rw [h.findCase]
  refine Related.bind (Related.refl _) fun decision counterpart hdecision => ?_
  subst hdecision
  refine Related.bind (Related.refl _) fun row found hrow => ?_
  subst hrow
  refine Related.bind (related_require (h.makerOf _ _)) fun maker counterpart hmaker => ?_
  refine Related.bind (related_throwIf ?_) fun _ _ _ => ?_
  · rw [← (maskApproval_eq hmaker).1]
    exact hrename.eq_iff.symm
  · refine Related.bind (related_insertApproval hrename h _) fun next later hnext => ?_
    exact Related.pure ⟨rfl, hmaker, hnext⟩

theorem related_resolveExceptionCase (h : DatabaseAlike rename requests db other) (exceptionId : String)
    (status : CaseStatus) (replacementTransactionId : Option String) :
    Related (DatabaseAlike rename requests) (db.resolveExceptionCase exceptionId status replacementTransactionId)
      (other.resolveExceptionCase exceptionId status replacementTransactionId) := by
  unfold durable.Database.resolveExceptionCase durable.Database.pendingCase
  rw [h.findCase, h.transactions.ids]
  refine Related.bind (Related.refl _) fun _ _ _ => ?_
  exact Related.bind (related_throwIf Iff.rfl) fun _ _ _ => Related.pure (h.updateCase exceptionId _)

theorem related_reopen (h : DatabaseAlike rename requests db other) (row : ExceptionCase)
    (reasonCode : Option String) (checkerId otherId : String) :
    Related (DatabaseAlike rename requests) (db.reopen row reasonCode checkerId)
      (other.reopen row reasonCode otherId) := by
  refine Related.bind (related_transition h row.transactionId .requiresReview reasonCode checkerId otherId)
    fun next later hnext => ?_
  unfold durable.Database.returnExceptionForReview durable.Database.pendingCase
  rw [hnext.findCase]
  exact Related.bind (Related.refl _) fun _ _ _ => Related.pure (hnext.updateCase row.id _)

end Databases

section States

variable {rename requests : String → String} {state other : State} (platform : Platform)

theorem Alike.withDb (h : Alike rename requests state other) {db later : durable.Database}
    (hdb : DatabaseAlike rename requests db later) :
    Alike rename requests { state with db } { other with db := later } :=
  { h with db := hdb }

/-- The hash of the last event of a transaction shows only whether there is one. -/
private theorem previousHash_alike (h : Alike rename requests state other) (tenantId transactionId : String) :
    (state.previousHash tenantId "transaction" transactionId).map (fun _ => "") =
      (other.previousHash tenantId "transaction" transactionId).map fun _ => "" := by
  have hlast := congrArg List.getLast? (@auditOf_alike _ _ _ _ tenantId transactionId h)
  rw [List.getLast?_map, List.getLast?_map] at hlast
  have hsome := congrArg (Option.map fun _ => "") hlast
  rw [Option.map_map, Option.map_map] at hsome
  show (((state.auditOf tenantId transactionId).getLast?.map _).map _) =
    ((other.auditOf tenantId transactionId).getLast?.map _).map _
  rw [Option.map_map, Option.map_map]
  exact hsome

/-- Events that are masked alike are recorded alike. -/
theorem Alike.recordTransactionEvent (h : Alike rename requests state other) (tenantId transactionId : String)
    {event counterpart : Event} (hevent : event.mask rename = counterpart.mask id) :
    Alike rename requests (state.recordTransactionEvent platform tenantId transactionId event)
      (other.recordTransactionEvent platform tenantId transactionId counterpart) := by
  have hlength : state.audit.length = other.audit.length := by simpa using congrArg List.length h.audit
  refine { h with audit := map_concat_eq h.audit ?_ }
  simp [State.auditRow, AuditRow.mask, hlength, hevent, previousHash_alike h]

theorem Alike.recordOther (h : Alike rename requests state other) (tenantId : String) {aggregateType : String}
    (htype : aggregateType ≠ "transaction") (aggregateId otherId : String) (event counterpart : Event) :
    Alike rename requests (state.recordAuditEvent platform tenantId aggregateType aggregateId event)
      (other.recordAuditEvent platform tenantId aggregateType otherId counterpart) := by
  have hlength : state.audit.length = other.audit.length := by simpa using congrArg List.length h.audit
  refine { h with audit := map_concat_eq h.audit ?_ }
  simp [State.auditRow, AuditRow.mask, hlength, htype]

theorem related_storeReceipt (h : Alike rename requests state other) (transactionId : String)
    (receipt counterpart : JsValue) :
    Related (fun result later => Alike rename requests result.2 later.2)
      (state.storeReceipt platform transactionId receipt) (other.storeReceipt platform transactionId counterpart) := by
  unfold State.storeReceipt
  rw [h.receiptHashes]
  exact Related.bind (related_throwIf Iff.rfl) fun _ _ _ =>
    Related.pure { h with receiptHashes := map_concat_eq h.receiptHashes rfl }

theorem related_stateTransition (h : Alike rename requests state other) (transactionId : String)
    (toState : TransactionState) (reasonCode : Option String) (actorRef otherRef : String) :
    Related (Alike rename requests) (state.transitionTransaction transactionId toState reasonCode actorRef)
      (other.transitionTransaction transactionId toState reasonCode otherRef) :=
  Related.bind (related_transition h.db transactionId toState reasonCode actorRef otherRef)
    fun _ _ hdb => Related.pure (h.withDb hdb)

theorem related_confidentialTransaction (h : Alike rename requests state other) (tenantId transactionId : String)
    (current : TransactionState) :
    Related (fun row counterpart => maskIntent requests row = maskIntent id counterpart)
      (state.confidentialTransaction tenantId transactionId current)
      (other.confidentialTransaction tenantId transactionId current) := by
  refine Related.bind (related_require (both_intentOf h)) fun row counterpart hrow => ?_
  obtain ⟨-, -, -, -, -, -, hcurrent, hrail, -⟩ := maskIntent_eq hrow
  rw [hcurrent, hrail]
  exact Related.bind (related_throwIf Iff.rfl) fun _ _ _ => Related.pure hrow

theorem Alike.pendingProposal (h : Alike rename requests state other) (tenantId transactionId : String) :
    Both (fun row counterpart => row.mask rename = counterpart.mask id)
      (state.pendingProposal tenantId transactionId) (other.pendingProposal tenantId transactionId) := by
  let selects (row : Proposal) : Bool :=
    row.transactionId = transactionId && row.tenantId = tenantId && row.status = .pending
  have hselects (rename : String → String) (row : Proposal) : selects row = selects (row.mask rename) := rfl
  exact both_find h.proposals (hselects rename) (hselects id)

theorem Alike.setProposalStatus (h : Alike rename requests state other) (proposalId : String)
    (status : rwa.gate.ProposalStatus) :
    Alike rename requests (state.setProposalStatus proposalId status) (other.setProposalStatus proposalId status) := by
  let change (row : Proposal) : Proposal :=
    if row.id = proposalId ∧ row.status = .pending then { row with status } else row
  have hchange (rename : String → String) (row : Proposal) :
      (change row).mask rename = change (row.mask rename) := by
    by_cases hrow : row.id = proposalId ∧ row.status = .pending <;> simp [change, Proposal.mask, hrow]
  exact { h with proposals := map_update_eq h.proposals (hchange rename) (hchange id) }

end States

section Settlements

variable {rename requests : String → String} {state other : State} (platform : Platform)

theorem related_settleTables {db later : durable.Database} (h : DatabaseAlike rename requests db later)
    {settlement counterpart : Settlement} (hsettlement : settlement.transactionId = counterpart.transactionId)
    {found : Found} {seen : Found} (hfound : found.mask = seen.mask) (registerFailure : Bool)
    {transactions others : TransactionTables} (htransactions : TablesAlike requests transactions others) :
    Related (DatabaseAlike rename requests) (settleTables settlement found registerFailure transactions db)
      (settleTables counterpart seen registerFailure others later) := by
  simp only [Found.mask, Found.mk.injEq] at hfound
  obtain ⟨hproduct, -, -, -, -, -, -, hcommitment⟩ := hfound
  unfold settleTables
  rw [hsettlement, hcommitment, hproduct]
  refine Related.bind (related_insertCommitment (h.withTransactions htransactions) _) fun db later h => ?_
  cases registerFailure with
  | true =>
    refine Related.bind (related_transitionThrough h _ _ _ _) fun db later h => ?_
    refine Related.bind (related_transition h _ _ _ _ _) fun db later h => ?_
    exact related_insertExceptionCase h _
  | false =>
    refine Related.bind (related_transitionThrough h _ _ _ _) fun db later h => ?_
    exact related_transition h _ _ _ _ _

private theorem settlement_mask_eq {settlement counterpart : Settlement}
    (h : settlement.mask requests = counterpart.mask id) :
    settlement.transactionId = counterpart.transactionId ∧ settlement.idempotencyKey = counterpart.idempotencyKey ∧
      requests settlement.requestHash = counterpart.requestHash ∧ settlement.type = counterpart.type ∧
      Related (fun found seen => Found.mask found = Found.mask seen) settlement.checked counterpart.checked := by
  simp only [Settlement.mask, Settlement.mk.injEq, id] at h
  refine ⟨h.1, h.2.1, h.2.2.1, h.2.2.2.1, ?_⟩
  exact related_of_map_eq h.2.2.2.2

/-- Settlements that are masked alike. -/
theorem related_settleInTransaction (hrequests : requests.Injective) (h : Alike rename requests state other)
    (tenantId : String) {settlement counterpart : Settlement}
    (hsettlement : settlement.mask requests = counterpart.mask id) (settledAt otherTime : String)
    (registerFailure : Bool) :
    Related (Alike rename requests) (settleInTransaction platform tenantId settlement settledAt registerFailure state)
      (settleInTransaction platform tenantId counterpart otherTime registerFailure other) := by
  obtain ⟨hid, hkey, hrequest, htype, hchecked⟩ := settlement_mask_eq hsettlement
  have hfound := h.db.transactions.findKey tenantId settlement.idempotencyKey
  unfold settleInTransaction
  rw [← hkey]
  cases hstate : state.db.transactions.findKey tenantId settlement.idempotencyKey <;>
    cases hother : other.db.transactions.findKey tenantId settlement.idempotencyKey <;> rw [hstate, hother] at hfound
  · refine Related.bind hchecked fun found seen hseen => ?_
    have hintent : maskIntent requests (settlementIntent tenantId settlement found) =
        maskIntent id (settlementIntent tenantId counterpart seen) := by
      simp only [Found.mask, Found.mk.injEq] at hseen
      simp [maskIntent, settlementIntent, hid, hkey, hrequest, htype, hseen]
    refine Related.bind (related_createTransactionIntent hrequests h.db.transactions hintent _ _)
      fun created later hcreated => ?_
    refine Related.bind (related_settleTables h.db hid hseen registerFailure hcreated.2) fun db next hdb => ?_
    rw [← hid, ← htype]
    refine Related.bind (related_storeReceipt platform (h.withDb hdb) _ _ _) fun stored receipt hstored => ?_
    refine Related.pure (hstored.recordTransactionEvent platform tenantId _ ?_)
    simp only [Found.mask, Found.mk.injEq] at hseen
    cases registerFailure <;> simp [Event.mask, hseen]
  · exact hfound.elim
  · exact hfound.elim
  · rename_i existing earlier
    obtain ⟨hexisting, -, -, -, hhash, -, -, -, -⟩ := maskIntent_eq hfound
    refine Related.bind (related_throwIf ?_) fun _ _ _ => ?_
    · rw [← hhash, ← hrequest, hrequests.ne_iff]
    · rw [hexisting, h.receiptHashes]
      exact Related.bind (related_throwIf Iff.rfl) fun _ _ _ => Related.pure h

theorem related_proposeExceptionResolution (hrename : rename.Injective) (h : Alike rename requests state other)
    (tenantId caseId makerId : String) (decision : Decision) (replacementTransactionId : Option String) :
    Related (Alike rename requests)
      (proposeExceptionResolution platform tenantId caseId makerId decision replacementTransactionId state)
      (proposeExceptionResolution platform tenantId caseId
        (rename makerId) decision replacementTransactionId other) := by
  refine Related.bind (related_proposeResolution hrename h.db caseId makerId decision replacementTransactionId) ?_
  rintro ⟨row, db⟩ ⟨counterpart, later⟩ ⟨hrow, hdb⟩
  obtain rfl : row = counterpart := hrow
  refine Related.bind (related_stateTransition (h.withDb hdb) row.transactionId .pendingApproval none makerId
    (rename makerId)) fun next following hnext => ?_
  exact Related.pure (hnext.recordTransactionEvent platform tenantId row.transactionId rfl)

theorem Alike.recordExceptionDecision (h : Alike rename requests state other) (tenantId : String)
    (row : ExceptionCase) (checkerId : String) (status : CaseStatus) (reasonCode : Option String) :
    Alike rename requests (recordExceptionDecision platform tenantId row checkerId status reasonCode state)
      (recordExceptionDecision platform tenantId row (rename checkerId) status reasonCode other) :=
  h.recordTransactionEvent platform tenantId row.transactionId rfl

/-- A retry is settled alike, or blocked alike. -/
theorem related_retryException (hrequests : requests.Injective)
    (h : Alike rename requests state other) (tenantId : String) (row : ExceptionCase)
    {maker counterpart : ApprovalRecord} (hmaker : maskApproval rename maker = maskApproval id counterpart)
    (checkerId : String) {retry again : Retry} (hretry : retry.mask requests = again.mask id)
    (settledAt otherTime : String) :
    Related (Alike rename requests) (retryException platform tenantId row maker checkerId retry settledAt state)
      (retryException platform tenantId row counterpart (rename checkerId) again otherTime other) := by
  obtain ⟨-, -, hreplacement⟩ := maskApproval_eq hmaker
  unfold retryException
  rw [← hreplacement]
  refine Related.bind (related_require h.db.transactions.find) fun original found horiginal => ?_
  obtain ⟨-, -, -, -, -, htype, -, -, -⟩ := maskIntent_eq horiginal
  rw [← htype]
  let settlementOf (retry : Retry) : Settlement :=
    { transactionId := maker.proposedReplacementTransactionId.getD "null"
      idempotencyKey := durable.retryKey row.id maker.proposedReplacementTransactionId
      requestHash := retry.requestHash, type := original.transactionType, checked := retry.checked }
  have hsettlement : (settlementOf retry).mask requests = (settlementOf again).mask id := by
    simp only [Retry.mask, Retry.mk.injEq, id] at hretry
    simp [settlementOf, Settlement.mask, hretry]
  have hsettle := related_settleInTransaction platform hrequests h tenantId hsettlement settledAt otherTime false
  dsimp only
  cases hfirst : settleInTransaction platform tenantId (settlementOf retry) settledAt false state <;>
    cases hsecond : settleInTransaction platform tenantId (settlementOf again) otherTime false other <;>
    rw [hfirst, hsecond] at hsettle
  · obtain rfl := hsettle
    refine Related.bind (related_reopen h.db row _ checkerId (rename checkerId)) fun db later hdb => ?_
    exact Related.pure ((h.withDb hdb).recordExceptionDecision platform tenantId row checkerId .opened _)
  · exact hsettle.elim
  · exact hsettle.elim
  · refine Related.bind (related_stateTransition hsettle row.transactionId .replaced none checkerId (rename checkerId))
      fun next following hnext => ?_
    refine Related.bind (related_resolveExceptionCase hnext.db row.id .resolvedRetried _) fun db later hdb => ?_
    exact Related.pure
      ((hnext.withDb hdb).recordExceptionDecision platform tenantId row checkerId .resolvedRetried none)

theorem related_approveExceptionResolution (hrename : rename.Injective) (hrequests : requests.Injective)
    (h : Alike rename requests state other) (tenantId caseId checkerId : String) (decision : ApprovalDecision)
    {retry again : Retry} (hretry : retry.mask requests = again.mask id) (settledAt otherTime : String) :
    Related (Alike rename requests)
      (approveExceptionResolution platform tenantId caseId checkerId decision retry settledAt state)
      (approveExceptionResolution platform tenantId caseId (rename checkerId) decision again otherTime other) := by
  refine Related.bind (related_approveResolution hrename h.db caseId checkerId decision) ?_
  rintro ⟨row, maker, db⟩ ⟨counterpart, proposed, later⟩ ⟨hrow, hmaker, hdb⟩
  obtain rfl : row = counterpart := hrow
  have hdecision : maker.decision = proposed.decision := (maskApproval_eq hmaker).2.1
  dsimp only
  by_cases hreject : decision = .reject
  · rw [if_pos hreject, if_pos hreject]
    refine Related.bind (related_reopen hdb row none checkerId (rename checkerId)) fun db later hdb => ?_
    exact Related.pure ((h.withDb hdb).recordExceptionDecision platform tenantId row checkerId .opened _)
  · rw [if_neg hreject, if_neg hreject, ← hdecision]
    by_cases hcancel : maker.decision = .cancel
    · rw [if_pos hcancel, if_pos hcancel]
      refine Related.bind (related_transition hdb row.transactionId .cancelled none checkerId (rename checkerId))
        fun db later hdb => ?_
      refine Related.bind (related_resolveExceptionCase hdb caseId .resolvedCancelled none) fun db later hdb => ?_
      exact Related.pure
        ((h.withDb hdb).recordExceptionDecision platform tenantId row checkerId .resolvedCancelled none)
    · rw [if_neg hcancel, if_neg hcancel]
      exact related_retryException platform hrequests (h.withDb hdb) tenantId row hmaker checkerId hretry
        settledAt otherTime

end Settlements

section Confidential

variable {rename requests : String → String} {state other : State} (platform : Platform)

theorem related_prepare (hrequests : requests.Injective) (h : Alike rename requests state other) (tenantId : String)
    {transfer counterpart : ConfidentialTransfer} (htransfer : transfer.mask rename requests = counterpart.mask id id) :
    Related (Alike rename requests) (prepare platform tenantId transfer state)
      (prepare platform tenantId counterpart other) := by
  simp only [ConfidentialTransfer.mask, ConfidentialTransfer.mk.injEq, id] at htransfer
  obtain ⟨hid, hkey, hrequest, hproduct, hrule, -, -, horigin, -, hcontext, hasset, hcircuit, hversion, -⟩ := htransfer
  refine Related.bind (related_createTransactionIntent hrequests h.db.transactions ?_ _ _) ?_
  · simp [maskIntent, hid, hkey, hrequest, hproduct, hrule, horigin]
  · rintro ⟨created, row, transactions⟩ ⟨made, counterpartRow, others⟩ ⟨hcreated, htransactions⟩
    obtain rfl : created = made := hcreated
    dsimp only
    cases created with
    | true =>
      rw [if_pos rfl, if_pos rfl, hid]
      refine Related.bind (related_transitionThrough (h.db.withTransactions htransactions) _ _ _ _)
        fun db later hdb => ?_
      refine Related.pure ((h.withDb hdb).recordTransactionEvent platform tenantId _ ?_)
      simp [Event.mask, hproduct, hcontext, hasset, hcircuit, hversion]
    | false => exact Related.pure h

theorem related_enqueueProverJob (h : Alike rename requests state other) (tenantId transactionId jobId : String) :
    Related (Alike rename requests) (enqueueProverJob platform tenantId transactionId jobId state)
      (enqueueProverJob platform tenantId transactionId jobId other) := by
  refine Related.bind (related_confidentialTransaction h tenantId transactionId .proofPending)
    fun row counterpart hrow => ?_
  obtain ⟨-, -, hproduct, -, -, -, -, -, -⟩ := maskIntent_eq hrow
  rw [← h.proverJobs, hproduct]
  by_cases hjob : transactionId ∈ state.proverJobs
  · rw [if_pos hjob, if_pos hjob]
    exact Related.pure h
  · rw [if_neg hjob, if_neg hjob]
    have hnext : Alike rename requests { state with proverJobs := state.proverJobs ++ [transactionId] }
        { other with proverJobs := state.proverJobs ++ [transactionId] } := { h with proverJobs := rfl }
    exact Related.pure (hnext.recordTransactionEvent platform tenantId transactionId rfl)

theorem related_acceptProof (h : Alike rename requests state other)
    (tenantId transactionId receiptId contextId : String)
    (merkleRoot otherRoot : String) {verification counterpart : Verification}
    (hverification : verification.mask = counterpart.mask) (settledAt otherTime : String) :
    Related (Alike rename requests)
      (acceptProof platform tenantId transactionId receiptId contextId merkleRoot verification settledAt state)
      (acceptProof platform tenantId transactionId receiptId contextId otherRoot counterpart otherTime other) := by
  have hkey (row : ProofReceipt) : row.id = row.mask.id := rfl
  have howner (row : ProofReceipt) : row.transactionId = row.mask.transactionId := rfl
  refine Related.bind (related_confidentialTransaction h tenantId transactionId .proofPending)
    fun row found hrow => ?_
  obtain ⟨-, -, hproduct, -, -, -, -, -, -⟩ := maskIntent_eq hrow
  rw [map_key_eq h.proofReceipts hkey hkey, map_key_eq h.proofReceipts howner howner, hproduct]
  refine Related.bind (related_throwIf Iff.rfl) fun _ _ _ => ?_
  refine Related.bind (related_throwIf Iff.rfl) fun _ _ _ => ?_
  refine Related.bind (related_stateTransition h transactionId .rootPending _ _ _) fun next later hnext => ?_
  refine Related.bind (related_insertSettlement hnext.db.transactions transactionId) fun tables others htables => ?_
  have hrecorded : Alike rename requests
      { next with
        db := { next.db with transactions := tables }
        proofReceipts := next.proofReceipts ++ [⟨receiptId, transactionId, contextId, merkleRoot, verification⟩]
        nullifiers := next.nullifiers ++ [receiptId, receiptId]
        outputs := next.outputs ++ [receiptId, receiptId]
        settlements := next.settlements ++
          [⟨transactionId, receiptId, found.productId, contextId, merkleRoot, "CONFIDENTIAL_PROOF_REGISTRY"⟩] }
      { later with
        db := { later.db with transactions := others }
        proofReceipts := later.proofReceipts ++ [⟨receiptId, transactionId, contextId, otherRoot, counterpart⟩]
        nullifiers := later.nullifiers ++ [receiptId, receiptId]
        outputs := later.outputs ++ [receiptId, receiptId]
        settlements := later.settlements ++
          [⟨transactionId, receiptId, found.productId, contextId, otherRoot, "CONFIDENTIAL_PROOF_REGISTRY"⟩] } :=
    { hnext with
      db := hnext.db.withTransactions htables
      proofReceipts := map_concat_eq hnext.proofReceipts (by simp [ProofReceipt.mask, hverification])
      nullifiers := by rw [hnext.nullifiers]
      outputs := by rw [hnext.outputs]
      settlements := map_concat_eq hnext.settlements rfl }
  refine Related.pure (hrecorded.recordTransactionEvent platform tenantId transactionId ?_)
  simp [Event.mask, hverification]

private theorem proposal_mask_eq {proposal counterpart : Proposal} (h : proposal.mask rename = counterpart.mask id) :
    proposal.id = counterpart.id ∧ proposal.transactionId = counterpart.transactionId ∧
      rename proposal.proposedBy = counterpart.proposedBy := by
  simp only [Proposal.mask, Proposal.mk.injEq, id] at h
  obtain ⟨hid, htransaction, -, -, -, -, -, -, -, -, hproposer⟩ := h
  exact ⟨hid, htransaction, hproposer⟩

theorem related_proposeFinalization (h : Alike rename requests state other) (tenantId : String)
    {proposal counterpart : Proposal} (hproposal : proposal.mask rename = counterpart.mask id) :
    Related (Alike rename requests) (proposeFinalization platform tenantId proposal state)
      (proposeFinalization platform tenantId counterpart other) := by
  obtain ⟨hid, htransaction, -⟩ := proposal_mask_eq hproposal
  have hpending : Proposal.mask rename { proposal with tenantId, status := .pending } =
      Proposal.mask id { counterpart with tenantId, status := .pending } := by
    simp only [Proposal.mask, Proposal.mk.injEq] at hproposal ⊢
    simp [hproposal]
  let waits (row : Proposal) : Prop := row.transactionId = proposal.transactionId ∧ row.status = .pending
  have hwaits (rename : String → String) (row : Proposal) : waits row ↔ waits (row.mask rename) := Iff.rfl
  have hkey (rename : String → String) (row : Proposal) : row.id = (row.mask rename).id := rfl
  unfold proposeFinalization
  dsimp only
  rw [← htransaction, ← hid]
  refine Related.bind (related_confidentialTransaction h tenantId proposal.transactionId .rootPending) fun _ _ _ => ?_
  refine Related.bind (related_throwIf (exists_mem_iff h.proposals (hwaits rename) (hwaits id))) fun _ _ _ => ?_
  rw [map_key_eq h.proposals (hkey rename) (hkey id)]
  refine Related.bind (related_throwIf Iff.rfl) fun _ _ _ => ?_
  have hnext : Alike rename requests
      { state with proposals := state.proposals ++ [{ proposal with tenantId, status := .pending }] }
      { other with proposals := other.proposals ++ [{ counterpart with tenantId, status := .pending }] } :=
    { h with proposals := map_concat_eq h.proposals hpending }
  rw [htransaction, hid] at *
  refine Related.pure (hnext.recordTransactionEvent platform tenantId _ ?_)
  simpa [Event.mask] using hpending

theorem Alike.cancelProposal (h : Alike rename requests state other) (tenantId : String)
    {proposal counterpart : Proposal} (hproposal : proposal.mask rename = counterpart.mask id)
    (cancelledBy : Canceller) (reason : String) :
    Alike rename requests (cancelProposal platform tenantId proposal cancelledBy reason state)
      (cancelProposal platform tenantId counterpart (cancelledBy.mask rename) reason other) := by
  obtain ⟨hid, htransaction, -⟩ := proposal_mask_eq hproposal
  unfold transaction_evidence.cancelProposal
  rw [← hid, ← htransaction]
  refine (h.setProposalStatus proposal.id .cancelled).recordTransactionEvent platform tenantId _ ?_
  cases cancelledBy <;> rfl

theorem related_cancelFinalization (h : Alike rename requests state other)
    (tenantId transactionId cancelledBy reason : String) :
    Related (Alike rename requests) (cancelFinalization platform tenantId transactionId cancelledBy reason state)
      (cancelFinalization platform tenantId transactionId (rename cancelledBy) reason other) :=
  Related.bind (related_require (h.pendingProposal tenantId transactionId))
    fun _ _ hproposal => Related.pure (h.cancelProposal platform tenantId hproposal (.actor cancelledBy) reason)

theorem related_finalize (hrename : rename.Injective) (h : Alike rename requests state other)
    (tenantId transactionId finalizedBy : String) (stale : Bool) (settledAt otherTime : String) :
    Related (Alike rename requests) (finalize platform tenantId transactionId finalizedBy stale settledAt state)
      (finalize platform tenantId transactionId (rename finalizedBy) stale otherTime other) := by
  have hsettlement : Both (fun row counterpart => ZkSettlement.mask row = ZkSettlement.mask counterpart)
      (state.settlements.find? (·.transactionId = transactionId))
      (other.settlements.find? (·.transactionId = transactionId)) := by
    let selects (row : ZkSettlement) : Bool := row.transactionId = transactionId
    have hselects (row : ZkSettlement) : selects row = selects row.mask := rfl
    exact both_find h.settlements hselects hselects
  refine Related.bind (related_confidentialTransaction h tenantId transactionId .rootPending)
    fun row found hrow => ?_
  refine Related.bind (related_require hsettlement) fun settlement registered hregistered => ?_
  refine Related.bind (related_require (h.pendingProposal tenantId transactionId)) fun proposal pending hproposal => ?_
  obtain ⟨hid, -, hproposer⟩ := proposal_mask_eq hproposal
  obtain ⟨-, -, hproduct, -, -, -, -, -, -⟩ := maskIntent_eq hrow
  have hreceipt : settlement.proofReceiptId = registered.proofReceiptId := by
    simpa [ZkSettlement.mask] using congrArg ZkSettlement.proofReceiptId hregistered
  refine Related.bind (related_throwIf ?_) fun _ _ _ => ?_
  · rw [← hproposer]
    exact hrename.eq_iff.symm
  cases stale with
  | true =>
    rw [if_pos rfl, if_pos rfl]
    exact Related.pure (h.cancelProposal platform tenantId hproposal .staleBaseRoot staleReason)
  | false =>
    rw [if_neg Bool.false_ne_true, if_neg Bool.false_ne_true, ← hid]
    have happroved := h.setProposalStatus proposal.id .approved
    refine Related.bind (related_finalizeSettlement happroved.db.transactions transactionId)
      fun tables others htables => ?_
    have henter (row : ZkSettlement) : (enterLedger transactionId row).mask = enterLedger transactionId row.mask := by
      by_cases hown : row.transactionId = transactionId <;> simp [enterLedger, ZkSettlement.mask, hown]
    have hfinal : Alike rename requests
        { state.setProposalStatus proposal.id .approved with
          db := { (state.setProposalStatus proposal.id .approved).db with transactions := tables }
          settlements := (state.setProposalStatus proposal.id .approved).settlements.map (enterLedger transactionId) }
        { other.setProposalStatus proposal.id .approved with
          db := { (other.setProposalStatus proposal.id .approved).db with transactions := others }
          settlements := (other.setProposalStatus proposal.id .approved).settlements.map
            (enterLedger transactionId) } :=
      { happroved with
        db := happroved.db.withTransactions htables
        settlements := map_update_eq happroved.settlements henter henter }
    refine Related.bind (related_stateTransition hfinal transactionId .settled _ finalizedBy (rename finalizedBy))
      fun next later hnext => ?_
    refine Related.bind (related_storeReceipt platform hnext transactionId _ _) fun stored receipt hstored => ?_
    refine Related.pure (hstored.recordTransactionEvent platform tenantId transactionId ?_)
    simp only [Event.mask, Event.finalitySettled.injEq]
    exact ⟨hproduct, hreceipt, trivial, hproposal, trivial⟩

end Confidential

section Runs

variable {rename requests : String → String} {state other : State} (platform : Platform)

/-- Calls that are masked alike are executed alike. -/
theorem related_execute (hrename : rename.Injective) (hrequests : requests.Injective)
    (h : Alike rename requests state other) {action counterpart : Action}
    (haction : action.mask rename requests = counterpart.mask id id) :
    Related (Alike rename requests) (execute platform action state) (execute platform counterpart other) := by
  obtain ⟨tenantId, now, call⟩ := action
  obtain ⟨otherTenant, otherTime, otherCall⟩ := counterpart
  simp only [Action.mask, Action.mk.injEq, true_and] at haction
  obtain ⟨rfl, hcall⟩ := haction
  cases call with
  | settle settlement registerFailure =>
    cases otherCall with
    | settle =>
      simp only [Call.mask, Call.settle.injEq] at hcall
      obtain ⟨hsettlement, rfl⟩ := hcall
      exact related_settleInTransaction platform hrequests h tenantId hsettlement _ _ registerFailure
    | _ => cases hcall
  | proposeExceptionResolution =>
    cases otherCall with
    | proposeExceptionResolution =>
      simp only [Call.mask, Call.proposeExceptionResolution.injEq, id] at hcall
      obtain ⟨rfl, rfl, rfl, rfl⟩ := hcall
      exact related_proposeExceptionResolution platform hrename h tenantId _ _ _ _
    | _ => cases hcall
  | approveExceptionResolution =>
    cases otherCall with
    | approveExceptionResolution =>
      simp only [Call.mask, Call.approveExceptionResolution.injEq, id] at hcall
      obtain ⟨rfl, rfl, rfl, hretry⟩ := hcall
      exact related_approveExceptionResolution platform hrename hrequests h tenantId _ _ _ hretry _ _
    | _ => cases hcall
  | prepare =>
    cases otherCall with
    | prepare =>
      simp only [Call.mask, Call.prepare.injEq] at hcall
      exact related_prepare platform hrequests h tenantId hcall
    | _ => cases hcall
  | enqueueProverJob =>
    cases otherCall with
    | enqueueProverJob =>
      simp only [Call.mask, Call.enqueueProverJob.injEq] at hcall
      obtain ⟨rfl, rfl⟩ := hcall
      exact related_enqueueProverJob platform h tenantId _ _
    | _ => cases hcall
  | acceptProof =>
    cases otherCall with
    | acceptProof =>
      simp only [Call.mask, Call.acceptProof.injEq] at hcall
      obtain ⟨rfl, rfl, rfl, -, hverification⟩ := hcall
      exact related_acceptProof platform h tenantId _ _ _ _ _ hverification _ _
    | _ => cases hcall
  | proposeFinalization =>
    cases otherCall with
    | proposeFinalization =>
      simp only [Call.mask, Call.proposeFinalization.injEq] at hcall
      exact related_proposeFinalization platform h tenantId hcall
    | _ => cases hcall
  | cancelFinalization =>
    cases otherCall with
    | cancelFinalization =>
      simp only [Call.mask, Call.cancelFinalization.injEq, id] at hcall
      obtain ⟨rfl, rfl, rfl⟩ := hcall
      exact related_cancelFinalization platform h tenantId _ _ _
    | _ => cases hcall
  | finalize =>
    cases otherCall with
    | finalize =>
      simp only [Call.mask, Call.finalize.injEq, id] at hcall
      obtain ⟨rfl, rfl, rfl⟩ := hcall
      exact related_finalize platform hrename h tenantId _ _ _ _ _
    | _ => cases hcall
  | recordOther aggregateType aggregateId eventType metadata =>
    cases otherCall with
    | recordOther otherType otherId otherEvent otherMetadata =>
      simp only [Call.mask, Call.recordOther.injEq, true_and] at hcall
      obtain ⟨rfl, hmetadata⟩ := hcall
      have hbig : hasBigInt metadata = true ↔ hasBigInt otherMetadata = true := by
        cases hfirst : hasBigInt metadata <;> cases hsecond : hasBigInt otherMetadata <;> simp_all
      refine related_throwIf_bind Iff.rfl fun htype => ?_
      refine related_throwIf_bind hbig fun _ => ?_
      exact Related.pure (h.recordOther platform tenantId htype aggregateId otherId _ _)
    | _ => cases hcall
  | reconcile row =>
    cases otherCall with
    | reconcile counterpart =>
      obtain rfl : row = counterpart := by simpa [Call.mask] using hcall
      refine Related.pure { h with reconciliations := ?_ }
      rw [h.reconciliations]
    | _ => cases hcall

theorem alike_step (hrename : rename.Injective) (hrequests : requests.Injective)
    (h : Alike rename requests state other) {action counterpart : Action}
    (haction : action.mask rename requests = counterpart.mask id id) :
    Alike rename requests (step platform state action) (step platform other counterpart) := by
  have hexecute := related_execute platform hrename hrequests h haction
  unfold step
  cases hstate : execute platform action state <;> cases hother : execute platform counterpart other <;>
    rw [hstate, hother] at hexecute
  · exact h
  · exact hexecute.elim
  · exact hexecute.elim
  · exact hexecute

/-- Runs that are masked alike lead to states that are alike. -/
theorem alike_run (hrename : rename.Injective) (hrequests : requests.Injective) {actions counterparts : List Action}
    (hactions : actions.map (Action.mask rename requests) = counterparts.map (Action.mask id id)) :
    Alike rename requests (runs.run (step platform) State.empty actions)
      (runs.run (step platform) State.empty counterparts) := by
  have hempty : Alike rename requests State.empty State.empty :=
    ⟨⟨⟨rfl, rfl, rfl⟩, rfl, rfl, rfl⟩, rfl, rfl, rfl, rfl, rfl, rfl, rfl, rfl, rfl⟩
  refine @run_related _ _ _ _ _ (step platform) (step platform) (Alike rename requests) _ _ ?_ _ _ _ _ hempty hactions
  exact fun h haction => alike_step platform hrename hrequests h haction

end Runs

end rwa.transaction_evidence
