import RwaControlPlane.Durable.Outcomes

open checked keyed_rows
open rwa.gate (TransactionState transitions)
open rwa.storage (TransactionIntent StateChange)
open rwa.control_plane (CaseStatus Decision truthy)

namespace rwa.durable

variable {service : DurableWorkflowService} {db next : Database} {caseId : String} {now : Int}

/-- The database after a state change. -/
def Database.moved (db : Database) (transactionId : String) (change : StateChange) : Database :=
  { db with transactions := db.transactions.moved transactionId change }

theorem transitionTransaction_ok {transactionId actorRef : String} {toState : TransactionState}
    {reasonCode : Option String} (h : db.transitionTransaction transactionId toState reasonCode actorRef = .ok next) :
    ∃ intent ∈ db.transactions.intents, intent.id = transactionId ∧ toState ∈ transitions intent.currentState ∧
      next = db.moved transactionId ⟨transactionId, some intent.currentState, toState, reasonCode, some actorRef⟩ := by
  obtain ⟨transactions, htransition, hnext⟩ := bind_eq_ok_iff.mp h
  obtain rfl := pure_eq_ok_iff.mp hnext
  obtain ⟨intent, hmem, hid, hallowed, -, rfl⟩ := storage.transitionTransaction_ok htransition
  exact ⟨intent, hmem, hid, hallowed, rfl⟩

section Propose

variable {makerId : String} {decision : Decision} {replacementTransactionId : Option String}

/-- The decision that a maker's record holds, which fits what the maker proposes
as replacement. -/
inductive Proposes : Decision → Option String → ApprovalDecision → Prop
  | retry {replacement : String} (named : replacement ≠ "") : Proposes .retry (some replacement) .retry
  | cancel : Proposes .cancel none .cancel

/-- What a maker's proposal establishes. -/
structure Proposable (db : Database) (caseId makerId : String) (decision : Decision)
    (replacementTransactionId : Option String) (row : ExceptionCase) (record : ApprovalRecord)
    (original : TransactionIntent) : Prop where
  found : db.findCase caseId = some row
  status : row.status = .opened
  record : ∃ verdict, Proposes decision replacementTransactionId verdict ∧
    record = ⟨caseId, row.approvalRound + 1, .maker, makerId, verdict, replacementTransactionId⟩
  newRecord : (caseId, row.approvalRound + 1, ApprovalRole.maker) ∉
    db.approvals.map fun other => (other.exceptionId, other.approvalRound, other.role)
  stored : original ∈ db.transactions.intents
  ofCase : original.id = row.transactionId
  allowed : .pendingApproval ∈ transitions original.currentState

/-- The database after a proposal. -/
def Database.proposed (db : Database) (row : ExceptionCase) (record : ApprovalRecord) (original : TransactionIntent) :
    Database :=
  (({ db with approvals := db.approvals ++ [record] } : Database).updateCase row.id fun stored =>
      { stored with status := .pendingApproval, approvalRound := row.approvalRound + 1 }).moved row.transactionId
    ⟨row.transactionId, some original.currentState, .pendingApproval, none, some record.actorRef⟩

theorem findCase_some {row : ExceptionCase} (h : db.findCase caseId = some row) :
    row ∈ db.exceptionCases ∧ row.id = caseId :=
  ⟨List.mem_of_find?_eq_some h, by simpa using List.find?_some h⟩

private theorem insertApproval_ok {record : ApprovalRecord} (h : db.insertApproval record = .ok next) :
    db.validateApprovalRecord record = .ok () ∧
      (record.exceptionId, record.approvalRound, record.role) ∉
        db.approvals.map (fun other => (other.exceptionId, other.approvalRound, other.role)) ∧
      next = { db with approvals := db.approvals ++ [record] } := by
  simp only [Database.insertApproval, bind_eq_ok_iff, throwIf_eq_ok_iff, exists_unit, pure_eq_ok_iff] at h
  exact ⟨h.1, h.2.1, h.2.2.symm⟩

theorem proposeExceptionResolution_ok {proposed : Proposed}
    (h : proposeExceptionResolution caseId makerId decision replacementTransactionId db = .ok (proposed, next)) :
    ∃ row record original,
      Proposable db caseId makerId decision replacementTransactionId row record original ∧
      next = db.proposed row record original := by
  unfold proposeExceptionResolution at h
  obtain ⟨⟨pending, stored⟩, hproposed, h⟩ := bind_eq_ok_iff.mp h
  obtain ⟨final, hmoved, h⟩ := bind_eq_ok_iff.mp h
  obtain ⟨rfl, rfl⟩ := Prod.mk.inj (pure_eq_ok_iff.mp h)
  unfold Database.proposeExceptionResolution at hproposed
  simp only [bind_eq_ok_iff, throwIf_eq_ok_iff, require_eq_ok_iff, exists_unit, pure_eq_ok_iff, not_or] at hproposed
  obtain ⟨verdict, hverdict, ⟨hretry, hcancel⟩, row, hrow, inserted, hinserted, hpair⟩ := hproposed
  obtain ⟨rfl, rfl⟩ := Prod.mk.inj hpair
  obtain ⟨hfound, hopen⟩ := Option.filter_eq_some_iff.mp hrow
  obtain ⟨hvalid, hnew, rfl⟩ := insertApproval_ok hinserted
  obtain ⟨original, hmem, hid, hallowed, rfl⟩ := transitionTransaction_ok hmoved
  obtain ⟨-, rfl⟩ := findCase_some hfound
  refine ⟨row, _, original, ⟨hfound, by simpa using hopen, ⟨verdict, ?_, rfl⟩, hnew, hmem, hid, hallowed⟩, rfl⟩
  simp only [Database.validateApprovalRecord, throwIf_eq_ok_iff, not_or] at hvalid
  cases decision with
  | other text => cases hverdict
  | retry =>
    obtain rfl := Except.ok.inj hverdict
    cases replacementTransactionId with
    | none => exact absurd ⟨rfl, rfl⟩ hretry
    | some replacement => exact .retry fun hempty => hretry ⟨rfl, by simp [truthy, hempty]⟩
  | cancel =>
    obtain rfl := Except.ok.inj hverdict
    cases replacementTransactionId with
    | none => exact .cancel
    | some replacement => exact absurd ⟨rfl, by simp⟩ hvalid.2

end Propose

section Approve

variable {checkerId : String} {decision : ApprovalDecision}

/-- What a checker's decision establishes, up to its record. -/
structure Approvable (db : Database) (caseId checkerId : String) (row : ExceptionCase) (maker : ApprovalRecord) :
    Prop where
  found : db.findCase caseId = some row
  status : row.status = .pendingApproval
  proposal : db.makerOf caseId row.approvalRound = some maker
  differs : maker.actorRef ≠ checkerId
  newRecord : (caseId, row.approvalRound, ApprovalRole.checker) ∉
    db.approvals.map fun other => (other.exceptionId, other.approvalRound, other.role)

/-- The database after the record of a checker. -/
def Database.checked (db : Database) (row : ExceptionCase) (checkerId : String) (decision : ApprovalDecision) :
    Database :=
  { db with approvals := db.approvals ++ [⟨row.id, row.approvalRound, .checker, checkerId, decision, none⟩] }

/-- How the decision of a checker ends. -/
inductive ApprovalEnds (service : DurableWorkflowService) (db : Database) (caseId checkerId : String)
    (decision : ApprovalDecision) (now : Int) : Decided → Database → Prop
  | rejected {row : ExceptionCase} {maker : ApprovalRecord} {original : TransactionIntent}
      (approvable : Approvable db caseId checkerId row maker) (verdict : decision = .reject)
      (stored : original ∈ db.transactions.intents) (ofCase : original.id = row.transactionId)
      (allowed : .requiresReview ∈ transitions original.currentState) :
      ApprovalEnds service db caseId checkerId decision now (.rejected caseId checkerId)
        (((db.checked row checkerId decision).moved row.transactionId
          ⟨row.transactionId, some original.currentState, .requiresReview, none, some checkerId⟩).updateCase row.id
            fun stored => { stored with status := .opened })
  | cancelled {row : ExceptionCase} {maker : ApprovalRecord} {original : TransactionIntent}
      (approvable : Approvable db caseId checkerId row maker) (verdict : decision = .approve)
      (proposed : maker.decision = .cancel) (stored : original ∈ db.transactions.intents)
      (ofCase : original.id = row.transactionId) (allowed : .cancelled ∈ transitions original.currentState) :
      ApprovalEnds service db caseId checkerId decision now (.cancelled caseId maker.actorRef checkerId)
        (((db.checked row checkerId decision).moved row.transactionId
          ⟨row.transactionId, some original.currentState, .cancelled, none, some checkerId⟩).updateCase row.id
            fun stored => { stored with status := .resolvedCancelled, replacementTransactionId := none })
  | blocked {row : ExceptionCase} {maker : ApprovalRecord} {original : TransactionIntent} {payload : Request}
      {failure : Failure} {reasonCode : String}
      (approvable : Approvable db caseId checkerId row maker) (verdict : decision = .approve)
      (proposed : maker.decision ≠ .cancel) (stored : db.transactions.find row.transactionId = some original)
      (decrypted : service.decrypt original.privatePayloadCiphertext
        ⟨original.tenantId, original.id, original.productId, original.transactionType⟩ = .ok payload)
      (refused : settleInTransaction service original.transactionType
        (retryRequest payload row.id maker.proposedReplacementTransactionId) false now
        (db.checked row checkerId decision) = .error failure)
      (allowed : .requiresReview ∈ transitions original.currentState) :
      ApprovalEnds service db caseId checkerId decision now (.retryBlocked caseId reasonCode)
        (((db.checked row checkerId decision).moved row.transactionId
          ⟨row.transactionId, some original.currentState, .requiresReview, some reasonCode, some checkerId⟩).updateCase
            row.id fun stored => { stored with status := .opened })
  | retried {row : ExceptionCase} {maker : ApprovalRecord} {original current : TransactionIntent} {payload : Request}
      {receipt : Receipt} {settled : Database}
      (approvable : Approvable db caseId checkerId row maker) (verdict : decision = .approve)
      (proposed : maker.decision ≠ .cancel) (stored : db.transactions.find row.transactionId = some original)
      (decrypted : service.decrypt original.privatePayloadCiphertext
        ⟨original.tenantId, original.id, original.productId, original.transactionType⟩ = .ok payload)
      (settlement : SettlementEnds service (db.checked row checkerId decision) original.transactionType
        (retryRequest payload row.id maker.proposedReplacementTransactionId) false now receipt settled)
      (settledRow : current ∈ settled.transactions.intents) (ofCase : current.id = row.transactionId)
      (allowed : .replaced ∈ transitions current.currentState)
      (replacement : ∀ replacement ∈ maker.proposedReplacementTransactionId,
        replacement ∈ settled.transactions.intents.map (·.id)) :
      ApprovalEnds service db caseId checkerId decision now (.retried caseId maker.actorRef checkerId receipt)
        ((settled.moved row.transactionId
          ⟨row.transactionId, some current.currentState, .replaced, none, some checkerId⟩).updateCase row.id
            fun stored => { stored with
              status := .resolvedRetried, replacementTransactionId := maker.proposedReplacementTransactionId })

private theorem checkerDecision_ok {verdict : ApprovalDecision} (h : Database.checkerDecision decision = .ok verdict) :
    verdict = decision ∧ (decision = .approve ∨ decision = .reject) := by
  cases decision with
  | approve => exact ⟨(Except.ok.inj h).symm, Or.inl rfl⟩
  | reject => exact ⟨(Except.ok.inj h).symm, Or.inr rfl⟩
  | retry | cancel => cases h

private theorem approveInStore_ok {row : ExceptionCase} {maker : ApprovalRecord}
    (h : db.approveExceptionResolution caseId checkerId decision = .ok (row, maker, next)) :
    Approvable db caseId checkerId row maker ∧ (decision = .approve ∨ decision = .reject) ∧
      next = db.checked row checkerId decision := by
  unfold Database.approveExceptionResolution at h
  simp only [bind_eq_ok_iff, throwIf_eq_ok_iff, require_eq_ok_iff, exists_unit, pure_eq_ok_iff] at h
  obtain ⟨verdict, hverdict, found, hfound, proposal, hproposal, hdiffer, inserted, hinserted, htriple⟩ := h
  obtain ⟨rfl, hpair⟩ := Prod.mk.inj htriple
  obtain ⟨rfl, rfl⟩ := Prod.mk.inj hpair
  obtain ⟨hcase, hpending⟩ := Option.filter_eq_some_iff.mp hfound
  obtain ⟨rfl, hdecision⟩ := checkerDecision_ok hverdict
  obtain ⟨-, hnew, rfl⟩ := insertApproval_ok hinserted
  obtain ⟨-, rfl⟩ := findCase_some hcase
  exact ⟨⟨hcase, by simpa using hpending, hproposal, hdiffer, hnew⟩, hdecision, rfl⟩

private theorem reopen_ok {row : ExceptionCase} {reasonCode : Option String}
    (h : db.reopen row reasonCode checkerId = .ok next) :
    ∃ original ∈ db.transactions.intents, original.id = row.transactionId ∧
      .requiresReview ∈ transitions original.currentState ∧
      next = (db.moved row.transactionId
        ⟨row.transactionId, some original.currentState, .requiresReview, reasonCode, some checkerId⟩).updateCase row.id
          fun stored => { stored with status := .opened } := by
  unfold Database.reopen at h
  obtain ⟨moved, hmoved, h⟩ := bind_eq_ok_iff.mp h
  obtain ⟨original, hmem, hid, hallowed, rfl⟩ := transitionTransaction_ok hmoved
  unfold Database.returnExceptionForReview at h
  obtain ⟨_, -, h⟩ := bind_eq_ok_iff.mp h
  exact ⟨original, hmem, hid, hallowed, (pure_eq_ok_iff.mp h).symm⟩

private theorem resolveExceptionCase_ok {status : CaseStatus} {replacementTransactionId : Option String}
    (h : db.resolveExceptionCase caseId status replacementTransactionId = .ok next) :
    (∀ replacement ∈ replacementTransactionId, replacement ∈ db.transactions.intents.map (·.id)) ∧
      next = db.updateCase caseId fun stored => { stored with status, replacementTransactionId } := by
  unfold Database.resolveExceptionCase at h
  simp only [bind_eq_ok_iff, throwIf_eq_ok_iff, exists_unit, pure_eq_ok_iff] at h
  obtain ⟨_, -, hknown, hnext⟩ := h
  refine ⟨fun replacement hreplacement => ?_, hnext.symm⟩
  by_contra hmissing
  exact hknown ⟨replacement, hreplacement, hmissing⟩

/-- The row of a transaction that is found is the one with its id. -/
theorem find_some {tables : storage.TransactionTables} {transactionId : String} {row : TransactionIntent}
    (h : tables.find transactionId = some row) : row ∈ tables.intents ∧ row.id = transactionId :=
  ⟨List.mem_of_find?_eq_some h, by simpa using List.find?_some h⟩

private theorem retryException_ok {row : ExceptionCase} {maker : ApprovalRecord} {decided : Decided}
    (hids : (db.transactions.intents.map (·.id)).Nodup) (approvable : Approvable db caseId checkerId row maker)
    (hverdict : decision = .approve) (hproposed : maker.decision ≠ .cancel)
    (h : retryException service row maker checkerId now (db.checked row checkerId decision) = .ok (decided, next)) :
    ApprovalEnds service db caseId checkerId decision now decided next := by
  obtain ⟨-, rfl⟩ := findCase_some approvable.found
  unfold retryException at h
  obtain ⟨original, hfound, h⟩ := bind_eq_ok_iff.mp h
  obtain ⟨payload, hdecrypted, h⟩ := bind_eq_ok_iff.mp h
  have hstored := require_eq_ok_iff.mp hfound
  dsimp only at h
  split at h
  · next failure hrefused =>
    obtain ⟨reopened, hreopened, h⟩ := bind_eq_ok_iff.mp h
    obtain ⟨rfl, rfl⟩ := Prod.mk.inj (pure_eq_ok_iff.mp h)
    obtain ⟨current, hcurrent, hid, hallowed, rfl⟩ := reopen_ok hreopened
    obtain ⟨hmem, horiginal⟩ := find_some hstored
    obtain rfl := List.inj_on_of_nodup_map hids hcurrent hmem (hid.trans horiginal.symm)
    exact .blocked approvable hverdict hproposed hstored hdecrypted hrefused hallowed
  · next receipt settled hsettled =>
    obtain ⟨moved, hmoved, h⟩ := bind_eq_ok_iff.mp h
    obtain ⟨resolved, hresolved, h⟩ := bind_eq_ok_iff.mp h
    obtain ⟨rfl, rfl⟩ := Prod.mk.inj (pure_eq_ok_iff.mp h)
    obtain ⟨current, hcurrent, hid, hallowed, rfl⟩ := transitionTransaction_ok hmoved
    obtain ⟨hreplacement, rfl⟩ := resolveExceptionCase_ok hresolved
    refine .retried approvable hverdict hproposed hstored hdecrypted (settleInTransaction_ok hsettled) hcurrent hid
      hallowed fun replacement hmem => ?_
    rw [← storage.moved_ids]
    exact hreplacement replacement hmem

theorem approveExceptionResolution_ok {decided : Decided} (hids : (db.transactions.intents.map (·.id)).Nodup)
    (h : approveExceptionResolution service caseId checkerId decision now db = .ok (decided, next)) :
    ApprovalEnds service db caseId checkerId decision now decided next := by
  unfold approveExceptionResolution at h
  obtain ⟨⟨row, maker, stored⟩, happroved, h⟩ := bind_eq_ok_iff.mp h
  obtain ⟨happrovable, hdecision, rfl⟩ := approveInStore_ok happroved
  obtain ⟨-, rfl⟩ := findCase_some happrovable.found
  dsimp only at h
  split at h
  · next hreject =>
    obtain ⟨reopened, hreopened, h⟩ := bind_eq_ok_iff.mp h
    obtain ⟨rfl, rfl⟩ := Prod.mk.inj (pure_eq_ok_iff.mp h)
    obtain ⟨original, hmem, hcase, hallowed, rfl⟩ := reopen_ok hreopened
    exact .rejected happrovable hreject hmem hcase hallowed
  · next hnotReject =>
    have happrove := hdecision.resolve_right hnotReject
    split at h
    · next hcancel =>
      obtain ⟨moved, hmoved, h⟩ := bind_eq_ok_iff.mp h
      obtain ⟨resolved, hresolved, h⟩ := bind_eq_ok_iff.mp h
      obtain ⟨rfl, rfl⟩ := Prod.mk.inj (pure_eq_ok_iff.mp h)
      obtain ⟨original, hmem, hcase, hallowed, rfl⟩ := transitionTransaction_ok hmoved
      obtain ⟨-, rfl⟩ := resolveExceptionCase_ok hresolved
      exact .cancelled happrovable happrove hcancel hmem hcase hallowed
    · next hretry => exact retryException_ok hids happrovable happrove hretry h

end Approve

end rwa.durable
