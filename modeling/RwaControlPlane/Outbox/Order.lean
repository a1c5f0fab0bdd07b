import RwaControlPlane.Outbox.QueueReachable

open checked paging rwa.storage keyed_rows runs

namespace rwa.outbox.queue

/-- What is promised of the rows in a state: the published events of an aggregate
are a prefix of its events, and at most one of them is claimed. -/
structure InOrder (state : QueueState) : Prop where
  publishedFirst : ∀ later ∈ state.tables.events, later.status = .published →
    ∀ earlier ∈ state.tables.events, earlier.aggregate = later.aggregate →
    earlier.enqueueSequence < later.enqueueSequence → earlier.status = .published
  claimedOnce : ∀ first ∈ state.tables.events, ∀ second ∈ state.tables.events, first.aggregate = second.aggregate →
    first.status = .claimed → second.status = .claimed → first = second

/-- No event is removed or moved, and none leaves `PUBLISHED`. -/
def Kept (earlier later : QueueState) : Prop :=
  ∀ row ∈ earlier.tables.events, ∃ next ∈ later.tables.events, next.event = row.event ∧
    next.enqueueSequence = row.enqueueSequence ∧ (row.status = .published → next.status = .published)

/-- A worker holds the lease of the event with an id. -/
def Holds (state : QueueState) (workerId id : String) : Prop :=
  ∃ row ∈ state.tables.events, row.id = id ∧ Leased state.now workerId row

/-- An action with which a worker settles an event. -/
def Settles (workerId id : String) : Action → Prop
  | .markOutboxPublished event worker => event = id ∧ worker = workerId
  | .markOutboxFailed call => call.id = id ∧ call.workerId = workerId
  | _ => False

/-- An action with which a worker claims events. -/
def Claims (workerId : String) : Action → Prop
  | .claimOutboxBatch call _ => call.workerId = workerId
  | _ => False

variable (platform : Platform)

/-- What is promised of a run: its states are in order, no event is lost, and a
worker that does not hold the lease of an event can no longer change the event
before it claims again. -/
structure Delivers (actions : List Action) : Prop where
  ordered : ∀ before, before <+: actions → InOrder (run platform before)
  kept : ∀ before later, before ++ later <+: actions → Kept (run platform before) (run platform (before ++ later))
  revoked : ∀ before later workerId id, before ++ later <+: actions → ¬Holds (run platform before) workerId id →
    (∀ action ∈ later, ¬Claims workerId action) → ∀ action, Settles workerId id action →
    step platform (run platform (before ++ later)) action = run platform (before ++ later)

/-- A transaction commits an event although a later one of its aggregate is claimed
or published. -/
def CommitsLate (state : QueueState) (action : Action) : Prop :=
  ∃ writer, action = .commit writer.id ∧ state.find writer.id = some writer ∧
    ∃ earlier ∈ writer.inserted, ∃ later ∈ state.tables.events, earlier.aggregate = later.aggregate ∧
      earlier.enqueueSequence < later.enqueueSequence ∧ (later.status = .claimed ∨ later.status = .published)

variable {platform} {state : QueueState} {action : Action}

/-- Nothing is before an event that is claimed or published but published ones. -/
def Unblocked (state : QueueState) : Prop :=
  ∀ later ∈ state.tables.events, (later.status = .claimed ∨ later.status = .published) →
    ∀ earlier ∈ state.tables.events, earlier.aggregate = later.aggregate →
    earlier.enqueueSequence < later.enqueueSequence → earlier.status = .published

theorem Unblocked.inOrder (h : Unblocked state) (hsound : state.Sound) : InOrder state := by
  refine ⟨fun later hlater hpublished => h later hlater (Or.inr hpublished), ?_⟩
  intro first hfirst second hsecond haggregate hclaimed hclaimed'
  have hsequences : (state.tables.events.map QueuedEvent.enqueueSequence).Nodup := by
    have hall := hsound.sequences
    rw [List.map_append] at hall
    exact hall.of_append_left
  rcases lt_trichotomy first.enqueueSequence second.enqueueSequence with hless | hsame | hless
  · have hpublished := h second hsecond (Or.inl hclaimed') first hfirst haggregate hless
    exact absurd (hclaimed.symm.trans hpublished) (by decide)
  · exact List.inj_on_of_nodup_map hsequences hfirst hsecond hsame
  · have hpublished := h first hfirst (Or.inl hclaimed) second hsecond haggregate.symm hless
    exact absurd (hclaimed'.symm.trans hpublished) (by decide)

/-- What a row must have been for a step to leave it claimed or published: it was
so before, or nothing held it back. -/
theorem RowStep.active_cases {row next : QueuedEvent} (h : RowStep state row action next)
    (hactive : next.status = .claimed ∨ next.status = .published) :
    (row.status = .claimed ∨ row.status = .published) ∨ ¬HeldBack state.tables row := by
  cases h with
  | same => exact Or.inl hactive
  | claimed hclaimable => exact Or.inr hclaimable.2.2
  | published hleased => exact Or.inl (Or.inl hleased.1)
  | @failed call _ _ hid hleased => exact Or.inl (Or.inl hleased.1)
  | replayed hdead =>
    obtain hclaimed | hpublished := hactive
    · cases hclaimed
    · cases hpublished

theorem stepped_unblocked {tables : Tables} (h : Unblocked state) (hstepped : Stepped state action tables.events) :
    Unblocked { state with tables } := by
  obtain ⟨change, hevents, hchange⟩ := hstepped
  intro later hlater hactive earlier hearlier haggregate hless
  dsimp only at hlater hearlier
  rw [hevents] at hlater hearlier
  obtain ⟨oldLater, holdLater, rfl⟩ := List.mem_map.mp hlater
  obtain ⟨oldEarlier, holdEarlier, rfl⟩ := List.mem_map.mp hearlier
  have hlaterStep := hchange oldLater holdLater
  have hearlierStep := hchange oldEarlier holdEarlier
  rw [hlaterStep.aggregate_eq, hearlierStep.aggregate_eq] at haggregate
  rw [hlaterStep.event_eq.2, hearlierStep.event_eq.2] at hless
  apply hearlierStep.published_kept
  obtain hold | hfree := hlaterStep.active_cases hactive
  · exact h oldLater holdLater hold oldEarlier holdEarlier haggregate hless
  · by_contra hopen
    exact hfree ⟨oldEarlier, holdEarlier, haggregate, hless, hopen⟩

theorem step_unblocked (hsound : state.Sound) (h : Unblocked state) (htimely : ¬CommitsLate state action) :
    Unblocked (step platform state action) := by
  have hmoves := @step_moves platform state action hsound.ids
  generalize step platform state action = next at hmoves ⊢
  cases hmoves with
  | stepped hstepped => exact stepped_unblocked h hstepped
  | ticked | started | left | inserted => exact h
  | @committed writer hfound hfresh =>
    have hpending : ∀ row ∈ writer.inserted, row.status = .pending := fun row hrow =>
      hsound.pending row (List.mem_flatMap.mpr ⟨writer, (find_writer hfound).2, hrow⟩)
    intro later hlater hactive earlier hearlier haggregate hless
    rcases List.mem_append.mp hlater with hlater | hlater
    · rcases List.mem_append.mp hearlier with hearlier | hearlier
      · exact h later hlater hactive earlier hearlier haggregate hless
      · exact absurd ⟨writer, rfl, hfound, earlier, hearlier, later, hlater, haggregate, hless, hactive⟩ htimely
    · rw [hpending later hlater] at hactive
      obtain hclaimed | hpublished := hactive
      · cases hclaimed
      · cases hpublished

theorem stepped_kept {tables : Tables} (hstepped : Stepped state action tables.events) :
    Kept state { state with tables } := by
  obtain ⟨change, hevents, hchange⟩ := hstepped
  intro row hrow
  have hstep := hchange row hrow
  refine ⟨change row, ?_, hstep.event_eq.1, hstep.event_eq.2, hstep.published_kept⟩
  rw [hevents]
  exact List.mem_map_of_mem hrow

theorem step_kept (hsound : state.Sound) : Kept state (step platform state action) := by
  have hmoves := @step_moves platform state action hsound.ids
  generalize step platform state action = next at hmoves ⊢
  cases hmoves with
  | stepped hstepped => exact stepped_kept hstepped
  | ticked | started | left | inserted => exact fun row hrow => ⟨row, hrow, rfl, rfl, id⟩
  | committed hfound hfresh => exact fun row hrow => ⟨row, List.mem_append_left _ hrow, rfl, rfl, id⟩

theorem run_kept (before later : List Action) : Kept (run platform before) (run platform (before ++ later)) := by
  induction later using List.reverseRecOn with
  | nil =>
    rw [List.append_nil]
    exact fun row hrow => ⟨row, hrow, rfl, rfl, id⟩
  | append_singleton later action ih =>
    intro row hrow
    obtain ⟨middle, hmiddle, hevent, hsequence, hpublished⟩ := ih row hrow
    obtain ⟨next, hnext, hevent', hsequence', hpublished'⟩ :=
      @step_kept platform _ action (run_sound (before ++ later)) middle hmiddle
    refine ⟨next, ?_, hevent'.trans hevent, hsequence'.trans hsequence, fun h => hpublished' (hpublished h)⟩
    rw [← List.append_assoc, run, run_concat]
    exact hnext

/-- A lease that a row has after a step was there before, or its worker has claimed
the row in the step. -/
theorem RowStep.leased_before {row next : QueuedEvent} {workerId : String} (h : RowStep state row action next)
    (hclaims : ¬Claims workerId action) (hleased : Leased state.now workerId next) :
    Leased state.now workerId row := by
  cases h with
  | same => exact hleased
  | claimed hclaimable => exact absurd (Option.some.inj hleased.2.1) hclaims
  | published | failed | replayed => cases hleased.2.1

/-- A lease is not given back to a worker that does not claim. -/
theorem step_holds {workerId id : String} (hsound : state.Sound) (hclaims : ¬Claims workerId action)
    (h : Holds (step platform state action) workerId id) : Holds state workerId id := by
  have hmoves := @step_moves platform state action hsound.ids
  generalize step platform state action = next at hmoves h
  obtain ⟨row, hrow, hid, hleased⟩ := h
  cases hmoves with
  | stepped hstepped =>
    obtain ⟨change, hevents, hchange⟩ := hstepped
    dsimp only at hrow
    rw [hevents] at hrow
    obtain ⟨old, hold, rfl⟩ := List.mem_map.mp hrow
    have hstep := hchange old hold
    exact ⟨old, hold, hstep.id_eq.symm.trans hid, hstep.leased_before hclaims hleased⟩
  | @ticked elapsed =>
    obtain ⟨hclaimed, hworker, expiry, hexpiry, hless⟩ := hleased
    have hearlier : state.now + elapsed < expiry := hless
    exact ⟨row, hrow, hid, hclaimed, hworker, expiry, hexpiry, by omega⟩
  | started | left | inserted => exact ⟨row, hrow, hid, hleased⟩
  | @committed writer hfound hfresh =>
    rcases List.mem_append.mp hrow with hold | hnew
    · exact ⟨row, hold, hid, hleased⟩
    · have hpending := hsound.pending row (List.mem_flatMap.mpr ⟨writer, (find_writer hfound).2, hnew⟩)
      exact absurd (hleased.1.symm.trans hpending) (by decide)

theorem run_holds {before later : List Action} {workerId id : String} (h : ¬Holds (run platform before) workerId id)
    (hclaims : ∀ action ∈ later, ¬Claims workerId action) : ¬Holds (run platform (before ++ later)) workerId id := by
  induction later using List.reverseRecOn with
  | nil => rwa [List.append_nil]
  | append_singleton later action ih =>
    intro hholds
    rw [← List.append_assoc, run, run_concat] at hholds
    refine ih (fun other hother => hclaims other (List.mem_append_left _ hother)) ?_
    exact step_holds (run_sound (before ++ later)) (hclaims action (by simp)) hholds

/-- Without a lease an event cannot be settled. -/
theorem settle_refused {workerId id : String} (h : ¬Holds state workerId id) (hsettles : Settles workerId id action) :
    step platform state action = state := by
  cases action with
  | markOutboxPublished event worker =>
    obtain ⟨rfl, rfl⟩ := hsettles
    have hrefused : ¬∃ row ∈ state.tables.events, row.id = event ∧ Leased state.now worker row := h
    rw [step, markOutboxPublished, throwIf, if_pos hrefused]
    rfl
  | markOutboxFailed call =>
    obtain ⟨rfl, rfl⟩ := hsettles
    have hrefused : ¬∃ row ∈ state.tables.events, row.id = call.id ∧ Leased state.now call.workerId row := h
    rw [step, markOutboxFailed, throwIf, if_pos hrefused]
    rfl
  | begin | enqueueOutbox | commit | rollback | tick | claimOutboxBatch | proposeDeadLetterReplay
  | decideDeadLetterReplay => exact hsettles.elim

/-- A run in which no transaction commits an event late delivers the events of each
aggregate in order, loses none, and lets no worker settle an event without its
lease. -/
theorem outbox_delivers {actions : List Action}
    (htimely : ∀ before action after, actions = before ++ action :: after →
      ¬CommitsLate (run platform before) action) : Delivers platform actions := by
  refine ⟨?_, fun before later _ => run_kept before later, ?_⟩
  · rintro before ⟨rest, rfl⟩
    have hall : (run platform before).Sound ∧ Unblocked (run platform before) := by
      refine @run_invariant_of_admissible _ _ (step platform) (fun state => state.Sound ∧ Unblocked state)
        (fun state action => ¬CommitsLate state action) ?_ _ _ ?_ ?_
      · rintro state action ⟨hsound, hunblocked⟩ hadmissible
        exact ⟨step_sound hsound, step_unblocked hsound hunblocked hadmissible⟩
      · exact ⟨empty_sound, fun later hlater => absurd hlater (by simp [QueueState.empty])⟩
      · rintro earlier action after rfl
        exact htimely earlier action (after ++ rest) (by simp)
    exact hall.2.inOrder hall.1
  · intro before later workerId id _ hfree hclaims action hsettles
    exact settle_refused (run_holds hfree hclaims) hsettles

/-- An event of the institution, or of the product, named `alpha`. -/
def sampleInput (id topic : String) : OutboxInput where
  id := id
  tenantId := "tenant-1"
  topic := topic
  aggregateId := "alpha"
  payload := .object []
  distinct := rfl

def sampleClaim (workerId : String) : Action := .claimOutboxBatch ⟨workerId, none, 10, 30000⟩ []

/-- Two events are inserted in one transaction and delivered one after the other. -/
def deliveredInOrder : List Action :=
  [.begin 1, .enqueueOutbox 1 (sampleInput "event-1" "rwa.institution.review_approved") none,
    .enqueueOutbox 1 (sampleInput "event-2" "rwa.product.activation_approved") none, .commit 1, sampleClaim "worker-1",
    .markOutboxPublished "event-1" "worker-1", sampleClaim "worker-2", .tick 30000,
    .markOutboxPublished "event-2" "worker-2", sampleClaim "worker-1", .markOutboxPublished "event-2" "worker-1"]

theorem outbox_delivers_sample : Delivers samplePlatform deliveredInOrder := by
  refine outbox_delivers ?_
  rintro before action after h ⟨writer, rfl, hfound, earlier, hearlier, later, hlater, -⟩
  have hbefore : (run samplePlatform before).tables.events = [] := by
    -- the only commit is the fourth action
    simp [deliveredInOrder, sampleClaim, List.cons_eq_append_iff] at h
    rw [h.1]
    rfl
  rw [hbefore] at hlater
  cases hlater

/-- Two transactions insert an event of the same aggregate, and the one with the
later event commits first. -/
def committedLate : List Action :=
  [.begin 1, .begin 2, .enqueueOutbox 1 (sampleInput "event-1" "rwa.institution.review_approved") none,
    .enqueueOutbox 2 (sampleInput "event-2" "rwa.product.activation_approved") none, .commit 2, sampleClaim "worker-1",
    .commit 1, sampleClaim "worker-2"]

/-- Both events are claimed at the same time. -/
theorem committed_late_is_claimed_beside : ¬Delivers samplePlatform committedLate := by
  intro h
  have hboth : ∃ first ∈ (run samplePlatform committedLate).tables.events,
      ∃ second ∈ (run samplePlatform committedLate).tables.events, first.aggregate = second.aggregate ∧
        first.status = .claimed ∧ second.status = .claimed ∧ first.id ≠ second.id := by
    decide +kernel
  obtain ⟨first, hfirst, second, hsecond, haggregate, hclaimed, hclaimed', hne⟩ := hboth
  have hordered := h.ordered committedLate (List.prefix_refl _)
  have hsame := hordered.claimedOnce first hfirst second hsecond haggregate hclaimed hclaimed'
  exact hne (congrArg QueuedEvent.id hsame)

end rwa.outbox.queue
