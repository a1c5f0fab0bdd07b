import RwaControlPlane.ControlPlane.Outcomes

open attempt js_map js_value

namespace rwa.control_plane

variable {platform : Platform} {plane final : ControlPlane}

section Updates

variable {α : Type} {next : Unit → Step α} {caseId : String} {exceptionCase : ExceptionCase}
  {original stored : Transaction}
  {state : TransactionState}

theorem updateCase_bind {change : ExceptionCase → ExceptionCase}
    (h : plane.exceptionCases.get caseId = some exceptionCase) (hid : (change exceptionCase).id = caseId) :
    (updateCase caseId change >>= next) plane =
      next () (plane.onTables (Tables.setCase (change exceptionCase))) := by
  subst hid
  rw [updateCase, modify_bind, h]
  rfl

theorem setState_bind (h : plane.transactions.get original.id = some stored) (hid : stored.id = original.id) :
    (setState original state >>= next) plane =
      next () (plane.onTables (Tables.setTransaction { stored with state })) := by
  rw [setState, updateTransaction, modify_bind, h, ← hid]
  rfl

theorem pushLifecycle_run (h : plane.transactions.get original.id = some stored) (hid : stored.id = original.id) :
    pushLifecycle platform original state plane =
      (.ok (), (plane.onTables (Tables.setTransaction
        { stored with lifecycle := stored.lifecycle ++ [⟨state, platform.isoText plane.clock⟩] })).log platform
          (.transactionStateChanged original.id original.productId original.type state)) := by
  simp only [pushLifecycle, now_bind]
  rw [updateTransaction, modify_bind, h, ← hid]
  rfl

theorem pushLifecycle_bind (h : plane.transactions.get original.id = some stored) (hid : stored.id = original.id) :
    (pushLifecycle platform original state >>= next) plane =
      next () ((plane.onTables (Tables.setTransaction
        { stored with lifecycle := stored.lifecycle ++ [⟨state, platform.isoText plane.clock⟩] })).log platform
          (.transactionStateChanged original.id original.productId original.type state)) :=
  bind_of_ok (pushLifecycle_run h hid)

end Updates

/-- A transaction in another state, with more of its lifecycle. -/
def Transaction.inState (transaction : Transaction) (state : TransactionState) (lifecycle : List Transition) :
    Transaction :=
  { transaction with
    state := state
    lifecycle := lifecycle }

/-- The last version of a transaction counts. -/
theorem setTransaction_inState {tables : Tables} {original : Transaction} {first second : TransactionState}
    {before after : List Transition} :
    (tables.setTransaction (original.inState first before)).setTransaction (original.inState second after) =
      tables.setTransaction (original.inState second after) := by
  simp only [Tables.setTransaction, Transaction.inState, set_set]

theorem get_inState {tables : Tables} {original : Transaction} {state : TransactionState}
    {lifecycle : List Transition} :
    (tables.setTransaction (original.inState state lifecycle)).transactions.get original.id =
      some (original.inState state lifecycle) :=
  @get_set_self String Transaction _ tables.transactions original.id (original.inState state lifecycle)

/-- A pending proposal of a case. -/
def ExceptionCase.proposed (exceptionCase : ExceptionCase) (proposal : Proposal) : ExceptionCase :=
  { exceptionCase with
    status := .pendingApproval
    proposal := some proposal }

/-- What a proposal requires of the stored case and of its terms. -/
structure Proposable (plane : ControlPlane) (caseId makerId : String) (decision : Decision)
    (replacementTransactionId : Option String) (exceptionCase : ExceptionCase) (original : Transaction) : Prop where
  found : plane.exceptionCases.get caseId = some exceptionCase
  stored : plane.transactions.get exceptionCase.transactionId = some original
  opened : exceptionCase.status = .opened
  maker : makerId ≠ ""
  known : decision = .retry ∨ decision = .cancel
  replacement : decision = .retry → truthy replacementTransactionId = true

/-- A proposal is refused and changes no map, or moves the case and its
transaction together. -/
theorem proposeExceptionResolution_cases (hsound : plane.toTables.Sound) {caseId makerId : String} {decision : Decision}
    {replacementTransactionId : Option String} {outcome : Except Failure Proposed}
    (h : proposeExceptionResolution platform caseId makerId decision replacementTransactionId plane =
      (outcome, final)) :
    ((∃ failure, outcome = .error failure) ∧ final.books = plane.books) ∨
      ∃ exceptionCase original lifecycle time,
        Proposable plane caseId makerId decision replacementTransactionId exceptionCase original ∧
        outcome = .ok ⟨caseId, decision, replacementTransactionId, makerId⟩ ∧
        final.books = plane.books.withTables ((plane.toTables.setTransaction
            (original.inState .pendingApproval lifecycle)).setCase
          (exceptionCase.proposed ⟨decision, replacementTransactionId, makerId, time⟩)) := by
  unfold proposeExceptionResolution at h
  rw [read_bind] at h
  rcases require_cases h with ⟨_, rfl, rfl⟩ | ⟨exceptionCase, hfound, h⟩
  · exact Or.inl ⟨⟨_, rfl⟩, rfl⟩
  rcases ensure_cases h with ⟨_, rfl, rfl⟩ | ⟨hopened, h⟩
  · exact Or.inl ⟨⟨_, rfl⟩, rfl⟩
  rcases ensure_cases h with ⟨_, rfl, rfl⟩ | ⟨hmaker, h⟩
  · exact Or.inl ⟨⟨_, rfl⟩, rfl⟩
  rcases ensure_cases h with ⟨_, rfl, rfl⟩ | ⟨hdecision, h⟩
  · exact Or.inl ⟨⟨_, rfl⟩, rfl⟩
  rcases ensure_cases h with ⟨_, rfl, rfl⟩ | ⟨hreplacement, h⟩
  · exact Or.inl ⟨⟨_, rfl⟩, rfl⟩
  obtain ⟨hid, original, horiginal, _⟩ := hsound.cases caseId exceptionCase hfound
  have hstored := hsound.transactions _ original horiginal
  subst hid
  right
  rw [updateCase_bind hfound rfl, read_bind] at h
  simp only [toTables_onTables, setCase_transactions, horiginal, require_some_bind] at h
  rw [setState_bind (by simpa [hstored] using horiginal) rfl,
    @pushLifecycle_bind _ _ _ _ original { original with state := .pendingApproval } _ (by simp) rfl, now_bind,
    @updateCase_bind _ _ _ exceptionCase.id { exceptionCase with status := .pendingApproval } _ (by simp) (by rfl),
    record_bind] at h
  obtain ⟨rfl, rfl⟩ := Prod.mk.inj h
  refine ⟨exceptionCase, original, original.lifecycle ++ [⟨.reviewProposed, platform.isoText plane.clock⟩],
    platform.isoText plane.clock, ⟨hfound, horiginal, hopened, hmaker, hdecision, ?_⟩, rfl, books_eq ?_ ?_ rfl⟩
  · intro hretry
    exact hreplacement.resolve_left (not_not.mpr hretry)
  · simp only [toTables_log, toTables_onTables, Tables.setCase, Tables.setTransaction, ExceptionCase.proposed,
      Transaction.inState, set_set]
    rfl
  · simp [Event.credit?]

/-- What an approval requires of the stored case and of the checker. -/
structure Approvable (plane : ControlPlane) (caseId checkerId : String) (exceptionCase : ExceptionCase)
    (proposal : Proposal) (original : Transaction) : Prop where
  found : plane.exceptionCases.get caseId = some exceptionCase
  stored : plane.transactions.get exceptionCase.transactionId = some original
  pending : exceptionCase.status = .pendingApproval
  proposed : exceptionCase.proposal = some proposal
  checker : checkerId ≠ ""
  different : checkerId ≠ proposal.makerId

/-- An approval is about one case, proposal and transaction. -/
theorem Approvable.unique {caseId checkerId : String} {first second : ExceptionCase} {proposal other : Proposal}
    {original stored : Transaction} (hfirst : Approvable plane caseId checkerId first proposal original)
    (hsecond : Approvable plane caseId checkerId second other stored) :
    first = second ∧ proposal = other ∧ original = stored := by
  obtain rfl := Option.some.inj (hfirst.found.symm.trans hsecond.found)
  obtain rfl := Option.some.inj (hfirst.proposed.symm.trans hsecond.proposed)
  exact ⟨rfl, rfl, Option.some.inj (hfirst.stored.symm.trans hsecond.stored)⟩

def ExceptionCase.cancelled (exceptionCase : ExceptionCase) (checkerId time : String) : ExceptionCase :=
  { exceptionCase with
    status := .resolvedCancelled
    resolvedAt := some time
    checkedBy := some checkerId }

def ExceptionCase.reopened (exceptionCase : ExceptionCase) : ExceptionCase :=
  { exceptionCase with
    status := .opened
    proposal := none }

def ExceptionCase.retried (exceptionCase : ExceptionCase) (replacementTransactionId : Option String)
    (checkerId time : String) : ExceptionCase :=
  { exceptionCase with
    status := .resolvedRetried
    replacementTransactionId := replacementTransactionId
    resolvedAt := some time
    checkedBy := some checkerId }

/-- The transfer that an approved retry makes. -/
def ExceptionCase.retry (exceptionCase : ExceptionCase) (proposal : Proposal) : Command :=
  .transfer (exceptionCase.retryPayload.command exceptionCase.id proposal.replacementTransactionId)

/-- How the approval of a retry ends, once its transfer has ended. -/
inductive RetryEnds (caseId checkerId : String) (exceptionCase : ExceptionCase) (proposal : Proposal)
    (original : Transaction) (settled : ControlPlane) : Except Failure Receipt → Except Failure Resolved → Books → Prop
  | blocked {failure : Failure} (lifecycle : List Transition) :
      RetryEnds caseId checkerId exceptionCase proposal original settled (.error failure) (.error failure)
        (settled.books.withTables
          ((settled.toTables.setTransaction (original.inState .requiresReview lifecycle)).setCase
          exceptionCase.reopened))
  | retried {receipt : Receipt} (lifecycle : List Transition) (time : String) :
      RetryEnds caseId checkerId exceptionCase proposal original settled (.ok receipt)
        (.ok ⟨caseId, .resolvedRetried, proposal.makerId, checkerId, some receipt⟩)
        (settled.books.withTables ((settled.toTables.setTransaction (original.inState .replaced lifecycle)).setCase
          (exceptionCase.retried proposal.replacementTransactionId checkerId time)))

/-- How an approval can end. -/
inductive ApprovalEnds (platform : Platform) (plane : ControlPlane) (caseId checkerId : String) :
    Except Failure Resolved → Books → Prop
  | refused {failure : Failure}
      (refused : ∀ exceptionCase proposal original,
        ¬Approvable plane caseId checkerId exceptionCase proposal original) :
      ApprovalEnds platform plane caseId checkerId (.error failure) plane.books
  | cancelled {exceptionCase : ExceptionCase} {proposal : Proposal} {original : Transaction}
      (approvable : Approvable plane caseId checkerId exceptionCase proposal original)
      (cancel : proposal.decision = .cancel) (lifecycle : List Transition) (time : String) :
      ApprovalEnds platform plane caseId checkerId
        (.ok ⟨caseId, .resolvedCancelled, proposal.makerId, checkerId, none⟩)
        (plane.books.withTables ((plane.toTables.setTransaction (original.inState .cancelled lifecycle)).setCase
          (exceptionCase.cancelled checkerId time)))
  | retry {exceptionCase : ExceptionCase} {proposal : Proposal} {original : Transaction}
    {reviewed settled : ControlPlane}
      {lifecycle : List Transition} {transferred : Except Failure Receipt} {outcome : Except Failure Resolved}
      {books : Books} (approvable : Approvable plane caseId checkerId exceptionCase proposal original)
      (retry : proposal.decision ≠ .cancel)
      (start : reviewed = (pushLifecycle platform original .reviewApproved plane).2)
      (review : reviewed.books = plane.books.withTables (plane.toTables.setTransaction
        (original.inState original.state lifecycle)))
      (ran : (exceptionCase.retry proposal).run platform reviewed = (transferred, settled))
      (transfer : (exceptionCase.retry proposal).Outcome platform reviewed transferred settled)
      (ends : RetryEnds caseId checkerId exceptionCase proposal original settled transferred outcome books) :
      ApprovalEnds platform plane caseId checkerId outcome books

/-- A failed retry opens its case again. -/
theorem blockRetry_run {exceptionCase : ExceptionCase} {original : Transaction} {failure : Failure}
    {state : TransactionState} {lifecycle : List Transition}
    (hcase : plane.exceptionCases.get exceptionCase.id = some exceptionCase)
    (hstored : plane.transactions.get original.id = some (original.inState state lifecycle)) :
    (blockRetry platform exceptionCase original failure plane).2.books =
      plane.books.withTables ((plane.toTables.setTransaction (original.inState .requiresReview
        (lifecycle ++ [⟨.retryBlocked, platform.isoText plane.clock⟩]))).setCase exceptionCase.reopened) := by
  have hrun : blockRetry platform exceptionCase original failure plane = (.ok (),
      ((((plane.onTables (Tables.setCase exceptionCase.reopened)).onTables
        (Tables.setTransaction (original.inState .requiresReview lifecycle))).onTables
        (Tables.setTransaction (original.inState .requiresReview
          (lifecycle ++ [⟨.retryBlocked, platform.isoText plane.clock⟩])))).log platform
          (.transactionStateChanged original.id original.productId original.type .retryBlocked)).log platform
            (.exceptionRetryBlocked exceptionCase.productId exceptionCase.transactionId
              (if failure.code = "" then "REQUEST_FAILED" else failure.code))) := by
    unfold blockRetry
    rw [updateCase_bind hcase (by rfl), @setState_bind _ _ _ original (original.inState state lifecycle) _
      (by simpa using hstored) rfl, @pushLifecycle_bind _ _ _ _ original (original.inState .requiresReview lifecycle) _
      (by simp [Transaction.inState]) rfl]
    rfl
  rw [hrun, books_log rfl, books_log rfl, books_onTables, books_onTables, books_onTables]
  simp only [toTables_onTables, setTransaction_inState]
  rfl

/-- A stored transaction may change its state and its lifecycle. -/
theorem setTransaction_sound {tables : Tables} (hsound : tables.Sound) {id : String} {original : Transaction}
    (horiginal : tables.transactions.get id = some original) {state : TransactionState} {lifecycle : List Transition} :
    (tables.setTransaction (original.inState state lifecycle)).Sound := by
  have hid := hsound.transactions id original horiginal
  refine ⟨hsound.mirrored, hsound.assets, hsound.cash, hsound.products, hsound.prices, ?_, ?_⟩
  · intro other transaction hget
    rw [setTransaction_transactions, get_set] at hget
    by_cases hother : other = (original.inState state lifecycle).id
    · rw [if_pos hother] at hget
      obtain rfl := Option.some.inj hget
      exact hother.symm
    · rw [if_neg hother] at hget
      exact hsound.transactions other transaction hget
  · intro caseId exceptionCase hcase
    obtain ⟨hcaseId, stored, hstored, htype⟩ := hsound.cases caseId exceptionCase hcase
    refine ⟨hcaseId, ?_⟩
    by_cases hsame : exceptionCase.transactionId = id
    · have heq : stored = original := Option.some.inj (hstored.symm.trans (hsame ▸ horiginal))
      refine ⟨original.inState state lifecycle, ?_, heq ▸ htype⟩
      rw [setTransaction_transactions, hsame, ← hid]
      exact get_set_self
    · refine ⟨stored, ?_, htype⟩
      have hne : exceptionCase.transactionId ≠ (original.inState state lifecycle).id := fun heq => hsame (heq.trans hid)
      rw [setTransaction_transactions, get_set_of_ne hne]
      exact hstored

/-- The last writes of a resolution: the state of the original, its lifecycle, and
the case. -/
private theorem resolved_books {original : Transaction} {state : TransactionState} {before after : List Transition}
    {exceptionCase : ExceptionCase} {event last : Event} (hevent : event.credit? = none) (hlast : last.credit? = none) :
    (((((plane.onTables (Tables.setTransaction (original.inState state before))).onTables
      (Tables.setTransaction (original.inState state after))).log platform event).onTables
        (Tables.setCase exceptionCase)).log platform last).books =
      plane.books.withTables
      ((plane.toTables.setTransaction (original.inState state after)).setCase exceptionCase) := by
  rw [books_log hlast, books_onTables, books_log hevent, toTables_log, books_onTables, books_onTables]
  simp only [toTables_onTables, setTransaction_inState]
  rfl

/-- Every approval ends in one of the known ways. -/
theorem approveExceptionResolution_cases (hsound : plane.toTables.Sound) {caseId checkerId : String}
    {outcome : Except Failure Resolved}
    (h : approveExceptionResolution platform caseId checkerId plane = (outcome, final)) :
    ApprovalEnds platform plane caseId checkerId outcome final.books := by
  unfold approveExceptionResolution at h
  rw [read_bind] at h
  rcases require_cases h with ⟨hnone, rfl, rfl⟩ | ⟨exceptionCase, hfound, h⟩
  · exact .refused fun _ _ _ happrovable => absurd (happrovable.found.symm.trans hnone) (Option.some_ne_none _)
  have hsame : ∀ {stored proposal original}, Approvable plane caseId checkerId stored proposal original →
      stored = exceptionCase := fun happrovable => Option.some.inj (happrovable.found.symm.trans hfound)
  rcases ensure_cases h with ⟨hpending, rfl, rfl⟩ | ⟨hpending, h⟩
  · exact .refused fun _ _ _ happrovable => hpending (hsame happrovable ▸ happrovable.pending)
  rcases ensure_cases h with ⟨hchecker, rfl, rfl⟩ | ⟨hchecker, h⟩
  · exact .refused fun _ _ _ happrovable => hchecker happrovable.checker
  rcases require_cases h with ⟨hnone, rfl, rfl⟩ | ⟨proposal, hproposal, h⟩
  · refine .refused fun stored proposal _ happrovable => ?_
    have hproposed := happrovable.proposed
    rw [hsame happrovable, hnone] at hproposed
    cases hproposed
  rcases ensure_cases h with ⟨hdifferent, rfl, rfl⟩ | ⟨hdifferent, h⟩
  · refine .refused fun _ _ _ happrovable => hdifferent ?_
    have hsameProposal := Option.some.inj (hproposal.symm.trans (hsame happrovable ▸ happrovable.proposed))
    rw [hsameProposal]
    exact happrovable.different
  obtain ⟨hid, original, horiginal, _⟩ := hsound.cases caseId exceptionCase hfound
  have hstored := hsound.transactions _ original horiginal
  subst hid
  have happrovable : Approvable plane exceptionCase.id checkerId exceptionCase proposal original :=
    ⟨hfound, horiginal, hpending, hproposal, hchecker, hdifferent⟩
  rw [read_bind] at h
  simp only [horiginal, require_some_bind] at h
  rw [pushLifecycle_bind (by simpa [hstored] using horiginal) rfl, now_bind] at h
  set lifecycle := original.lifecycle ++ [⟨.reviewApproved, platform.isoText plane.clock⟩] with hlifecycle
  set reviewed := (plane.onTables (Tables.setTransaction { original with lifecycle := lifecycle })).log platform
    (.transactionStateChanged original.id original.productId original.type .reviewApproved) with hreviewed
  have hreviewedRun : reviewed = (pushLifecycle platform original .reviewApproved plane).2 := by
    rw [pushLifecycle_run (by simpa [hstored] using horiginal) rfl]
  have hreviewedTables : reviewed.toTables = plane.toTables.setTransaction
    (original.inState original.state lifecycle) :=
    rfl
  have hreviewedBooks : reviewed.books = plane.books.withTables (plane.toTables.setTransaction
      (original.inState original.state lifecycle)) :=
    books_log rfl
  by_cases hcancel : proposal.decision = .cancel
  · rw [if_pos hcancel, @setState_bind _ _ _ original { original with lifecycle := lifecycle } _
      (by simp [hreviewed]) rfl,
      @pushLifecycle_bind _ _ _ _ original (original.inState .cancelled lifecycle) _
        (by simp [Transaction.inState]) rfl,
      @updateCase_bind _ _ _ exceptionCase.id exceptionCase _ (by simpa [hreviewed] using hfound) (by rfl),
        record_bind] at h
    obtain ⟨rfl, hfinal⟩ := Prod.mk.inj h
    have hbooks : final.books = plane.books.withTables ((plane.toTables.setTransaction (original.inState .cancelled
        (lifecycle ++ [⟨.cancelled, platform.isoText plane.clock⟩]))).setCase
          (exceptionCase.cancelled checkerId (platform.isoText plane.clock))) := by
      rw [← hfinal, ← @setTransaction_inState plane.toTables original original.state .cancelled lifecycle,
        ← hreviewedTables]
      refine (resolved_books rfl rfl).trans ?_
      rw [hreviewedBooks]
      rfl
    rw [hbooks]
    exact .cancelled happrovable hcancel _ _
  · rw [if_neg hcancel] at h
    cases htransfer : transfer platform (exceptionCase.retryPayload.command exceptionCase.id
        proposal.replacementTransactionId) reviewed with
    | mk transferred settled =>
      have hends : (exceptionCase.retry proposal).Outcome platform reviewed transferred settled :=
        Command.run_outcome (setTransaction_sound hsound horiginal) htransfer
      have hstoredAfter : settled.transactions.get original.id = some (original.inState original.state lifecycle) :=
        hends.keeps_transaction (by simp [hreviewedTables, Transaction.inState])
      have hcaseAfter : settled.exceptionCases.get exceptionCase.id = some exceptionCase := by
        rw [hends.keeps_cases Operation.noConfusion]
        exact hfound
      cases transferred with
      | error failure =>
        rw [bind_of_error (onFailure_of_error htransfer)] at h
        obtain ⟨rfl, rfl⟩ := Prod.mk.inj h
        rw [blockRetry_run hcaseAfter hstoredAfter]
        exact .retry happrovable hcancel hreviewedRun hreviewedBooks htransfer hends (.blocked _)
      | ok receipt =>
        rw [bind_of_ok (onFailure_of_ok htransfer), setState_bind hstoredAfter rfl,
          @pushLifecycle_bind _ _ _ _ original (original.inState .replaced lifecycle) _
            (by simp [Transaction.inState]) rfl,
          @updateCase_bind _ _ _ exceptionCase.id exceptionCase _ (by simpa using hcaseAfter) (by rfl),
            record_bind] at h
        obtain ⟨rfl, hfinal⟩ := Prod.mk.inj h
        have hbooks :
          final.books = settled.books.withTables ((settled.toTables.setTransaction (original.inState .replaced
            (lifecycle ++ [⟨.replaced, platform.isoText settled.clock⟩]))).setCase
              (exceptionCase.retried proposal.replacementTransactionId checkerId (platform.isoText plane.clock))) := by
          rw [← hfinal]
          exact resolved_books rfl rfl
        rw [hbooks]
        exact .retry happrovable hcancel hreviewedRun hreviewedBooks htransfer hends (.retried _ _)

end rwa.control_plane
