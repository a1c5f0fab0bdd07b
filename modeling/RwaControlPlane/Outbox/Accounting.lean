import RwaControlPlane.Outbox.Dispatcher

open checked paging rwa.storage keyed_rows

namespace rwa.outbox.queue

/-- What is promised of the calls that have ended and of the dead letters. -/
structure Accounted (state : DispatchState) : Prop where
  ended : ∀ ended ∈ state.ended, ended.attempted = ended.claimed ∧ ∃ result, ended.outcome = .ok result ∧
    result.claimed = ended.claimed.length ∧
    result.claimed = result.published + result.failed + result.dead + ended.lost
  deadLetters : ∀ letter ∈ state.deadLetters, letter.maxAttempts ≤ letter.failedAttempts

/-- A batch claims an event whose lease has run out, or comes to settle an event
whose lease it no longer holds. -/
def LeaseRunsOut (state : DispatchState) : DispatchAction → Prop
  | .dispatchBatch _ dispatcher limit locked _ =>
    ∃ row ∈ state.store.tables.events, row.status = .claimed ∧ row.id ∈ candidates state.store.tables state.store.now
      ⟨dispatcher.workerId, dispatcher.tenantId, limit, dispatcher.leaseMs⟩ locked
  | .settle id => ∃ batch ∈ state.find id, batch.phase ≠ .publishing ∧
    ¬Holds state.store batch.dispatcher.workerId batch.current.id
  | _ => False

instance (store : QueueState) (workerId id : String) : Decidable (Holds store workerId id) :=
  inferInstanceAs (Decidable (∃ row ∈ _, _))

instance (state : DispatchState) (action : DispatchAction) : Decidable (LeaseRunsOut state action) :=
  match action with
  | .dispatchBatch .. => inferInstanceAs (Decidable (∃ row ∈ _, _))
  | .settle _ => inferInstanceAs (Decidable (∃ batch ∈ _, _))
  | .store _ | .publishEnds .. => inferInstanceAs (Decidable False)

/-- Whether an attempt was counted that has not failed. -/
def Phase.uncounted : Phase → Nat
  | .caught _ => 0
  | _ => 1

/-- The events that a batch has still to settle, with the number of attempts that
were counted for them but have not failed. -/
def Batch.owed (batch : Batch) : List (QueuedEvent × Nat) :=
  (batch.current, batch.phase.uncounted) :: batch.rest.map fun event => (event, 1)

def Batch.owedIds (batch : Batch) : List String := batch.owed.map fun entry => entry.1.id

theorem Batch.owedIds_eq {batch : Batch} : batch.owedIds = batch.current.id :: batch.rest.map QueuedEvent.id := by
  simp [Batch.owedIds, Batch.owed, Function.comp_def]

/-- An event is claimed as a batch has seen it. -/
def Open (tables : Tables) (failures : List String) (entry : QueuedEvent × Nat) : Prop :=
  0 < entry.1.attempts ∧ ∃ row ∈ tables.events, row.id = entry.1.id ∧ row.status = .claimed ∧
    row.attempts = entry.1.attempts ∧
    entry.1.attempts = failures.count entry.1.id + entry.2

/-- The attempts of an event that is not claimed have all failed. -/
def Counted (failures : List String) (row : QueuedEvent) : Prop :=
  row.status ≠ .claimed → row.status ≠ .published → row.attempts = failures.count row.id

structure Batch.Progress (batch : Batch) : Prop where
  claimed : batch.claimed = batch.attempted ++ batch.rest.map QueuedEvent.id
  total : batch.result.claimed = batch.claimed.length
  counted : batch.result.published + batch.result.failed + batch.result.dead + 1 = batch.attempted.length

/-- What holds while no lease has run out. -/
structure DispatchState.Sound (state : DispatchState) : Prop where
  store : state.store.Sound
  fresh : ∀ row ∈ state.store.inFlight, row.attempts = 0
  known : ∀ id ∈ state.failures, ∃ row ∈ state.store.tables.events, row.id = id
  counted : ∀ row ∈ state.store.tables.events, Counted state.failures row
  batchIds : (state.batches.map Batch.id).Nodup
  owedIds : (state.batches.flatMap Batch.owedIds).Nodup
  owed : ∀ batch ∈ state.batches, ∀ entry ∈ batch.owed, Open state.store.tables state.failures entry
  progress : ∀ batch ∈ state.batches, batch.Progress
  accounted : Accounted state

theorem empty_dispatch_sound : DispatchState.empty.Sound where
  store := empty_sound
  fresh := by simp [DispatchState.empty, QueueState.empty, QueueState.inFlight]
  known := by simp [DispatchState.empty]
  counted := by simp [DispatchState.empty, QueueState.empty]
  batchIds := by simp [DispatchState.empty]
  owedIds := by simp [DispatchState.empty]
  owed := by simp [DispatchState.empty]
  progress := by simp [DispatchState.empty]
  accounted := ⟨by simp [DispatchState.empty], by simp [DispatchState.empty]⟩

variable {platform : Platform}

section Store

variable {state : QueueState} {action : Action}

/-- Rows in flight have not been attempted. -/
theorem step_fresh (h : ∀ row ∈ state.inFlight, row.attempts = 0) :
    ∀ row ∈ (step platform state action).inFlight, row.attempts = 0 := by
  have hfinish {id : Nat} {next : QueueState} (hnext : next.writers = (state.finish id).writers) :
      ∀ row ∈ next.inFlight, row.attempts = 0 := by
    intro row hrow
    rw [QueueState.inFlight, hnext] at hrow
    exact h row (finish_inFlight.subset hrow)
  have happly {outcome : Except Failure Tables} : ∀ row ∈ (state.apply outcome).inFlight, row.attempts = 0 := by
    cases outcome <;> exact h
  cases action with
  | begin id =>
    rw [step]
    split
    · exact h
    · simpa [QueueState.inFlight] using h
  | enqueueOutbox id input availableAt =>
    rw [step]
    split
    · next writer hfound =>
      unfold insertEvent
      split
      · exact hfinish rfl
      · dsimp only
        split
        · exact hfinish rfl
        · intro row hrow
          obtain ⟨changed, hchanged, hmem⟩ := List.mem_flatMap.mp hrow
          obtain ⟨old, hold, rfl⟩ := List.mem_map.mp hchanged
          have hinFlight {row : QueuedEvent} (hrow : row ∈ old.inserted) : row.attempts = 0 :=
            h row (List.mem_flatMap.mpr ⟨old, hold, hrow⟩)
          split at hmem
          · rcases List.mem_append.mp hmem with hbefore | hnew
            · exact hinFlight hbefore
            · obtain rfl := List.mem_singleton.mp hnew
              rfl
          · exact hinFlight hmem
    · exact h
  | commit id =>
    rw [step]
    split
    · unfold commitWriter
      split
      · exact hfinish rfl
      · exact hfinish rfl
    · exact h
  | rollback id => exact hfinish rfl
  | tick | claimOutboxBatch => exact h
  | markOutboxPublished | markOutboxFailed | proposeDeadLetterReplay | decideDeadLetterReplay => exact happly

/-- What another statement makes of the committed rows: each one is as it was or has
been replayed, and rows that have not been attempted are added. -/
theorem step_events (hsound : state.Sound) (hfresh : ∀ row ∈ state.inFlight, row.attempts = 0)
    (hother : action.ofDispatcher = false) :
    ∃ change added, (step platform state action).tables.events = state.tables.events.map change ++ added ∧
      (∀ row ∈ state.tables.events, change row = row ∨ (row.status = .dead ∧ (change row).status = .pending ∧
        (change row).attempts = 0 ∧ (change row).id = row.id)) ∧
      ∀ row ∈ added, row.attempts = 0 ∧ ∀ other ∈ state.tables.events, other.id ≠ row.id := by
  have hmoves := @step_moves platform state action hsound.ids
  generalize step platform state action = next at hmoves
  have hkept : state.tables.events = state.tables.events.map id ++ [] := by simp
  cases hmoves with
  | stepped hstepped =>
    obtain ⟨change, hevents, hchange⟩ := hstepped
    refine ⟨change, [], by rw [List.append_nil]; exact hevents, fun row hrow => ?_, by simp⟩
    have hstep := hchange row hrow
    generalize change row = changed at hstep ⊢
    cases hstep with
    | same => exact Or.inl rfl
    | claimed | published | failed => cases hother
    | replayed hdead => exact Or.inr ⟨hdead, rfl, rfl, rfl⟩
  | ticked | started | left | inserted => exact ⟨id, [], hkept, fun _ _ => Or.inl rfl, by simp⟩
  | @committed writer hfound hnew =>
    refine ⟨id, writer.inserted, by simp, fun _ _ => Or.inl rfl, fun row hrow => ⟨?_, fun other => hnew row hrow other⟩⟩
    exact hfresh row (List.mem_flatMap.mpr ⟨writer, (find_writer hfound).2, hrow⟩)

end Store

/-- Two rows with one id are the same row. -/
theorem QueueState.Sound.row_eq {state : QueueState} (h : state.Sound) {first second : QueuedEvent}
    (hfirst : first ∈ state.tables.events) (hsecond : second ∈ state.tables.events) (hid : first.id = second.id) :
    first = second :=
  List.inj_on_of_nodup_map h.ids hfirst hsecond hid

section Others

variable {state : DispatchState} {action : Action}

/-- Failures of an event that is not replayed stay counted. -/
theorem count_kept {failures : List String} {before after : Tables} {id : String} (h : ¬Replayed before after id) :
    (failures.filter fun id => ¬Replayed before after id).count id = failures.count id :=
  List.count_filter (by simpa using h)

/-- A row that is the same before and after is not replayed. -/
theorem not_replayed {before after : QueueState} {row : QueuedEvent} (hbefore : before.Sound) (hafter : after.Sound)
    (hrow : row ∈ before.tables.events) (hkept : row ∈ after.tables.events) :
    ¬Replayed before.tables after.tables row.id := by
  rintro ⟨⟨dead, hdeadRow, hdeadId, hdead⟩, pending, hpendingRow, hpendingId, hpending⟩
  obtain rfl := hbefore.row_eq hdeadRow hrow hdeadId
  obtain rfl := hafter.row_eq hpendingRow hkept hpendingId
  rw [hdead] at hpending
  cases hpending

theorem storeStep_sound (h : state.Sound) (hother : action.ofDispatcher = false) :
    (storeStep platform state action).Sound := by
  have hnext : (step platform state.store action).Sound := step_sound h.store
  obtain ⟨change, added, hevents, hchange, hadded⟩ := @step_events platform state.store action h.store h.fresh hother
  have hmem {row : QueuedEvent} (hrow : row ∈ state.store.tables.events) :
      change row ∈ (step platform state.store action).tables.events := by
    rw [hevents]
    exact List.mem_append_left _ (List.mem_map_of_mem hrow)
  have hid {row : QueuedEvent} (hrow : row ∈ state.store.tables.events) : (change row).id = row.id := by
    obtain hsame | ⟨-, -, -, hid⟩ := hchange row hrow
    · rw [hsame]
    · exact hid
  refine
    { store := hnext, fresh := step_fresh h.fresh, known := fun id hfailed => ?_, counted := fun row hrow => ?_
      batchIds := h.batchIds, owedIds := h.owedIds, owed := fun batch hbatch entry hentry => ?_
      progress := h.progress, accounted := ⟨h.accounted.ended, h.accounted.deadLetters⟩ }
  · obtain ⟨row, hrow, rfl⟩ := h.known id (List.mem_filter.mp hfailed).1
    exact ⟨change row, hmem hrow, hid hrow⟩
  · intro hclaimed hpublished
    dsimp only [storeStep] at hrow ⊢
    rw [hevents] at hrow
    cases List.mem_append.mp hrow with
    | inl hold =>
      obtain ⟨old, hmemOld, rfl⟩ := List.mem_map.mp hold
      obtain hsame | ⟨hdead, hpending, hattempts, hid⟩ := hchange old hmemOld
      · have hkept := hmem hmemOld
        rw [hsame] at hclaimed hpublished hkept ⊢
        rw [count_kept (not_replayed h.store hnext hmemOld hkept)]
        exact h.counted old hmemOld hclaimed hpublished
      · have hreplayed : Replayed state.store.tables (step platform state.store action).tables (change old).id :=
          ⟨⟨old, hmemOld, hid.symm, hdead⟩, change old, hmem hmemOld, rfl, hpending⟩
        rw [hattempts, List.count_eq_zero_of_not_mem]
        intro hfailed
        simpa [hreplayed] using (List.mem_filter.mp hfailed).2
    | inr hnew =>
      obtain ⟨hattempts, hfresh⟩ := hadded row hnew
      rw [hattempts, List.count_eq_zero_of_not_mem]
      intro hfailed
      obtain ⟨other, hother, hsame⟩ := h.known row.id (List.mem_filter.mp hfailed).1
      exact hfresh other hother hsame
  · obtain ⟨hpositive, row, hrow, hrowId, hclaimed, hattempts, hcount⟩ := h.owed batch hbatch entry hentry
    obtain hsame | ⟨hdead, -⟩ := hchange row hrow
    · have hkept := hmem hrow
      rw [hsame] at hkept
      refine ⟨hpositive, row, hkept, hrowId, hclaimed, hattempts, ?_⟩
      have hreplayed := not_replayed h.store hnext hrow hkept
      rw [hrowId] at hreplayed
      rw [hcount]
      exact congrArg (· + entry.2) (count_kept hreplayed).symm
    · rw [hclaimed] at hdead
      cases hdead

end Others

section Loop

variable {state : DispatchState} {batch : Batch}

theorem find_batch {id : Nat} (h : state.find id = some batch) : batch.id = id ∧ batch ∈ state.batches := by
  have hid := List.find?_some h
  exact ⟨by simpa using hid, List.mem_of_find?_eq_some h⟩

theorem mem_others {id : Nat} {other : Batch} (h : other ∈ state.others id) : other ∈ state.batches ∧
    other.id ≠ id := by
  simpa [DispatchState.others] using h

/-- The owed events of a batch are apart from those of the others. -/
theorem owedIds_split (h : state.Sound) (hbatch : batch ∈ state.batches) :
    (batch.owedIds ++ (state.others batch.id).flatMap Batch.owedIds).Nodup :=
  (flatMap_perm_of_mem h.batchIds hbatch).nodup_iff.mpr h.owedIds

/-- A step of the loop of a batch: it touches the row of the current event, and the
batch goes on with a part of what it owed or ends. -/
structure LoopStep (state next : DispatchState) (batch : Batch) (kept : Option Batch) : Prop where
  store : next.store.Sound
  inFlight : next.store.inFlight = state.store.inFlight
  batches : next.batches = kept.toList ++ state.others batch.id
  rows : ∀ row, row.id ≠ batch.current.id → (row ∈ next.store.tables.events ↔ row ∈ state.store.tables.events)
  current : ∃ row ∈ next.store.tables.events, row.id = batch.current.id ∧ Counted next.failures row
  failures : ∀ id ∈ next.failures, id ∈ state.failures ∨ id = batch.current.id
  count : ∀ id, id ≠ batch.current.id → next.failures.count id = state.failures.count id
  kept : ∀ goes, kept = some goes → goes.id = batch.id ∧ goes.owedIds.Sublist batch.owedIds ∧ goes.Progress ∧
    ∀ entry ∈ goes.owed, (entry ∈ batch.owed ∧ entry.1.id ≠ batch.current.id) ∨
      Open next.store.tables next.failures entry
  accounted : Accounted next

theorem LoopStep.open_kept {next : DispatchState} {kept : Option Batch} (h : LoopStep state next batch kept)
    {entry : QueuedEvent × Nat} (hne : entry.1.id ≠ batch.current.id)
    (hopen : Open state.store.tables state.failures entry) : Open next.store.tables next.failures entry := by
  obtain ⟨hpositive, row, hrow, hid, hclaimed, hattempts, hcount⟩ := hopen
  refine ⟨hpositive, row, (h.rows row (hid ▸ hne)).mpr hrow, hid, hclaimed, hattempts, ?_⟩
  rw [hcount, h.count _ hne]

theorem LoopStep.sound {next : DispatchState} {kept : Option Batch} (hsound : state.Sound)
    (hbatch : batch ∈ state.batches) (h : LoopStep state next batch kept) : next.Sound := by
  have hsplit := owedIds_split hsound hbatch
  have hcurrentOwed : batch.current.id ∈ batch.owedIds := by simp [Batch.owedIds, Batch.owed]
  have hapart {other : Batch} (hother : other ∈ state.others batch.id) {entry : QueuedEvent × Nat}
      (hentry : entry ∈ other.owed) : entry.1.id ≠ batch.current.id := by
    intro hsame
    refine (List.nodup_append.mp hsplit).2.2 _ hcurrentOwed _ (List.mem_flatMap.mpr ⟨other, hother, ?_⟩) rfl
    rw [← hsame]
    exact List.mem_map_of_mem (f := fun entry : QueuedEvent × Nat => entry.1.id) hentry
  refine
    { store := h.store, fresh := ?_, known := fun id hid => ?_, counted := fun row hrow => ?_, batchIds := ?_
      owedIds := ?_, owed := fun other hother entry hentry => ?_, progress := fun other hother => ?_
      accounted := h.accounted }
  · rw [h.inFlight]
    exact hsound.fresh
  · obtain ⟨current, hcurrent, hcurrentId, -⟩ := h.current
    by_cases hsame : id = batch.current.id
    · exact ⟨current, hcurrent, hcurrentId.trans hsame.symm⟩
    · obtain hold | hnew := h.failures id hid
      · obtain ⟨row, hrow, rfl⟩ := hsound.known id hold
        exact ⟨row, (h.rows row hsame).mpr hrow, rfl⟩
      · exact absurd hnew hsame
  · obtain ⟨current, hcurrent, hcurrentId, hcounted⟩ := h.current
    by_cases hsame : row.id = batch.current.id
    · obtain rfl := h.store.row_eq hrow hcurrent (hsame.trans hcurrentId.symm)
      exact hcounted
    · intro hclaimed hpublished
      rw [h.count _ hsame]
      exact hsound.counted row ((h.rows row hsame).mp hrow) hclaimed hpublished
  · have hothers : ((state.others batch.id).map Batch.id).Nodup :=
      hsound.batchIds.sublist (List.filter_sublist.map _)
    rw [h.batches]
    cases kept with
    | none => exact hothers
    | some goes =>
      refine List.nodup_cons.mpr ⟨fun hmem => ?_, hothers⟩
      obtain ⟨other, hother, hsame⟩ := List.mem_map.mp hmem
      exact (mem_others hother).2 (hsame.trans (h.kept goes rfl).1)
  · rw [h.batches]
    cases kept with
    | none => exact hsplit.of_append_right
    | some goes =>
      rw [Option.toList_some, List.singleton_append, List.flatMap_cons]
      exact hsplit.sublist ((h.kept goes rfl).2.1.append (List.Sublist.refl _))
  · rw [h.batches, List.mem_append, Option.mem_toList] at hother
    cases hother with
    | inl hgoes =>
      obtain ⟨howed, hne⟩ | hopen := (h.kept other hgoes).2.2.2 entry hentry
      · exact h.open_kept hne (hsound.owed batch hbatch entry howed)
      · exact hopen
    | inr hother => exact h.open_kept (hapart hother hentry) (hsound.owed other (mem_others hother).1 entry hentry)
  · rw [h.batches, List.mem_append, Option.mem_toList] at hother
    cases hother with
    | inl hgoes => exact (h.kept other hgoes).2.2.1
    | inr hother => exact hsound.progress other (mem_others hother).1

theorem publishStep_sound {error : Option String} (h : state.Sound) (hbatch : batch ∈ state.batches) :
    (publishStep state batch error).Sound := by
  have hprogress := h.progress batch hbatch
  have howed := h.owed batch hbatch
  obtain ⟨hpositive, row, hrow, hid, hclaimed, hattempts, hcount⟩ := howed _ List.mem_cons_self
  have hcounted (failures : List String) : Counted failures row := fun hne _ => absurd hclaimed hne
  unfold publishStep
  split
  · next hphase =>
    have hsame : Batch.owed { batch with phase := .published } = batch.owed := by
      simp [Batch.owed, hphase, Phase.uncounted]
    refine @LoopStep.sound state batch _ (some { batch with phase := .published }) h hbatch ?_
    refine
      { store := h.store, inFlight := rfl, batches := rfl, rows := fun _ _ => Iff.rfl
        current := ⟨row, hrow, hid, hcounted _⟩, failures := fun _ => Or.inl, count := fun _ _ => rfl, kept := ?_
        accounted := ⟨h.accounted.ended, h.accounted.deadLetters⟩ }
    rintro _ ⟨⟩
    refine ⟨rfl, ?_, ⟨hprogress.claimed, hprogress.total, hprogress.counted⟩, ?_⟩
    · rw [Batch.owedIds, hsame]
      exact List.Sublist.refl _
    · rw [hsame]
      exact fun entry hentry => Or.inr (howed entry hentry)
  · next message hphase =>
    have hsplit := List.nodup_append.mp (owedIds_split h hbatch)
    refine @LoopStep.sound state batch _ (some { batch with phase := .caught message }) h hbatch ?_
    refine
      { store := h.store, inFlight := rfl, batches := rfl, rows := fun _ _ => Iff.rfl
        current := ⟨row, hrow, hid, hcounted _⟩, failures := fun id hmem => ?_, count := fun id hne => ?_, kept := ?_
        accounted := ⟨h.accounted.ended, h.accounted.deadLetters⟩ }
    · simpa using hmem
    · rw [List.count_append, List.count_singleton, if_neg (by simpa using hne.symm), Nat.add_zero]
    · rintro _ ⟨⟩
      refine ⟨rfl, List.Sublist.refl _, ⟨hprogress.claimed, hprogress.total, hprogress.counted⟩, fun entry hentry => ?_⟩
      cases hentry with
      | head =>
        refine Or.inr ⟨hpositive, row, hrow, hid, hclaimed, hattempts, ?_⟩
        simpa [hphase, Phase.uncounted] using hcount
      | tail _ hrest =>
        refine Or.inl ⟨List.mem_cons_of_mem _ hrest, fun hsame => ?_⟩
        have hnodup := hsplit.1
        obtain ⟨event, hevent, rfl⟩ := List.mem_map.mp hrest
        rw [Batch.owedIds_eq, ← show event.id = batch.current.id from hsame] at hnodup
        exact (List.nodup_cons.mp hnodup).1 (List.mem_map_of_mem hevent)
  · exact h

/-- The loop goes on once the current event is settled. -/
theorem advance_sound {base : DispatchState} {result : DispatchResult} (h : state.Sound)
    (hbatch : batch ∈ state.batches) (hbatches : base.batches = state.batches) (hended : base.ended = state.ended)
    (hfailures : base.failures = state.failures) (hstore : base.store.Sound)
    (hinFlight : base.store.inFlight = state.store.inFlight)
    (hrows : ∀ row, row.id ≠ batch.current.id →
      (row ∈ base.store.tables.events ↔ row ∈ state.store.tables.events))
    (hcurrent : ∃ row ∈ base.store.tables.events, row.id = batch.current.id ∧ Counted base.failures row)
    (hletters : ∀ letter ∈ base.deadLetters, letter.maxAttempts ≤ letter.failedAttempts)
    (hclaimed : result.claimed = batch.result.claimed)
    (hcounted : result.published + result.failed + result.dead =
      batch.result.published + batch.result.failed + batch.result.dead + 1) :
    (base.advance batch result).Sound := by
  obtain ⟨hclaims, htotal, hprogress⟩ := h.progress batch hbatch
  have hothers : base.others batch.id = state.others batch.id := by
    rw [DispatchState.others, DispatchState.others, hbatches]
  have hsplit := List.nodup_append.mp (owedIds_split h hbatch)
  have hknown : ∀ id ∈ base.failures, id ∈ state.failures ∨ id = batch.current.id := fun id hid => by
    rw [hfailures] at hid
    exact Or.inl hid
  have hcount : ∀ id, id ≠ batch.current.id → base.failures.count id = state.failures.count id := fun id _ => by
    rw [hfailures]
  unfold DispatchState.advance
  split
  · next hrest =>
    refine @LoopStep.sound state batch _ none h hbatch ?_
    refine
      { store := hstore, inFlight := hinFlight, batches := hothers, rows := hrows
        current := hcurrent, failures := hknown, count := hcount
        kept := fun goes hgoes => absurd hgoes.symm (Option.some_ne_none goes)
        accounted := ⟨fun ended hmem => ?_, hletters⟩ }
    have hall : batch.claimed = batch.attempted := by simpa [hrest] using hclaims
    dsimp only [DispatchState.finish] at hmem
    rw [hended] at hmem
    cases List.mem_append.mp hmem with
    | inl hold => exact h.accounted.ended ended hold
    | inr hnew =>
      obtain rfl := List.mem_singleton.mp hnew
      refine ⟨hall.symm, result, rfl, hclaimed.trans htotal, ?_⟩
      rw [hclaimed, htotal, hall]
      change batch.attempted.length = result.published + result.failed + result.dead + 0
      omega
  · next following rest hrest =>
    refine @LoopStep.sound state batch _
      (some { batch with
        current := following, rest, phase := .publishing, result, attempted := batch.attempted ++ [following.id] })
      h hbatch ?_
    refine
      { store := hstore, inFlight := hinFlight, batches := congrArg _ hothers, rows := hrows
        current := hcurrent, failures := hknown, count := hcount, kept := ?_
        accounted := ⟨fun ended hmem => h.accounted.ended ended ?_, hletters⟩ }
    have howed : batch.owedIds = batch.current.id :: following.id :: rest.map QueuedEvent.id := by
      rw [Batch.owedIds_eq, hrest, List.map_cons]
    have hfirst := hsplit.1
    rw [howed] at hfirst
    case refine_2 =>
      rw [← hended]
      exact hmem
    rintro _ ⟨⟩
    refine ⟨rfl, ?_, ⟨?_, hclaimed.trans htotal, ?_⟩, fun entry hentry => Or.inl ?_⟩
    · rw [howed, Batch.owedIds_eq]
      exact List.sublist_cons_self _ _
    · simpa [hrest] using hclaims
    · rw [List.length_append, List.length_singleton, ← hprogress, hcounted]
    · have hmem : entry ∈ (following :: rest).map fun event => (event, 1) := hentry
      rw [← hrest] at hmem
      refine ⟨List.mem_cons_of_mem _ hmem, fun hsame => (List.nodup_cons.mp hfirst).1 ?_⟩
      obtain ⟨event, hevent, rfl⟩ := List.mem_map.mp hmem
      rw [hrest] at hevent
      rw [← hsame]
      exact List.mem_map_of_mem (f := QueuedEvent.id) hevent

/-- A statement that settles one event leaves the other rows as they are. -/
theorem mem_map_other {events : List QueuedEvent} {id : String} {change : QueuedEvent → QueuedEvent}
    (hid : ∀ row, (change row).id = row.id) (hother : ∀ row, row.id ≠ id → change row = row) {row : QueuedEvent}
    (hne : row.id ≠ id) : row ∈ events.map change ↔ row ∈ events := by
  constructor
  · intro hrow
    obtain ⟨old, hold, rfl⟩ := List.mem_map.mp hrow
    rw [hid] at hne
    rwa [hother old hne]
  · intro hrow
    exact List.mem_map.mpr ⟨row, hrow, hother row hne⟩

/-- What a successful settling makes of the rows. -/
theorem published_rows {store : QueueState} {id workerId : String} {tables : Tables}
    (h : markOutboxPublished store.tables store.now id workerId = .ok tables) :
    (∀ row, row.id ≠ id → (row ∈ tables.events ↔ row ∈ store.tables.events)) ∧
      ∃ row ∈ tables.events, row.id = id ∧ row.status = .published := by
  simp only [markOutboxPublished, bind_eq_ok_iff, throwIf_eq_ok_iff, exists_unit, pure_eq_ok_iff, not_not] at h
  obtain ⟨⟨row, hrow, hid, hleased⟩, rfl⟩ := h
  refine ⟨fun other hne => mem_map_other (fun _ => ?_) (fun _ hne => if_neg fun hcondition => hne hcondition.1) hne, _,
    List.mem_map.mpr ⟨row, hrow, if_pos ⟨hid, hleased⟩⟩, hid, rfl⟩
  split <;> rfl

theorem failed_rows {store : QueueState} {call : FailCall} {tables : Tables}
    (h : markOutboxFailed store.tables store.now call = .ok tables) :
    (∀ row, row.id ≠ call.id → (row ∈ tables.events ↔ row ∈ store.tables.events)) ∧
      ∃ old ∈ store.tables.events, old.id = call.id ∧
        ∃ row ∈ tables.events, row.id = call.id ∧ row.attempts = old.attempts := by
  simp only [markOutboxFailed, bind_eq_ok_iff, throwIf_eq_ok_iff, exists_unit, pure_eq_ok_iff, not_not] at h
  obtain ⟨⟨row, hrow, hid, hleased⟩, rfl⟩ := h
  refine ⟨fun other hne => mem_map_other (fun _ => ?_) (fun _ hne => if_neg fun hcondition => hne hcondition.1) hne,
    row, hrow, hid, _, List.mem_map.mpr ⟨row, hrow, if_pos ⟨hid, hleased⟩⟩, hid, rfl⟩
  split <;> rfl

/-- A worker that holds the lease of an event settles it. -/
theorem publish_held {store : QueueState} {id workerId : String} (h : Holds store workerId id) :
    ∃ tables, markOutboxPublished store.tables store.now id workerId = .ok tables := by
  have hfound : ¬¬∃ row ∈ store.tables.events, row.id = id ∧ Leased store.now workerId row := not_not.mpr h
  rw [markOutboxPublished, throwIf, if_neg hfound]
  exact ⟨_, rfl⟩

theorem fail_held {store : QueueState} {call : FailCall} (h : Holds store call.workerId call.id) :
    ∃ tables, markOutboxFailed store.tables store.now call = .ok tables := by
  have hfound : ¬¬∃ row ∈ store.tables.events, row.id = call.id ∧ Leased store.now call.workerId row := not_not.mpr h
  rw [markOutboxFailed, throwIf, if_neg hfound]
  exact ⟨_, rfl⟩

/-- The delay of a counted attempt exists. -/
theorem retryDelay_ok {attempt : Nat} (dispatcher : OutboxDispatcher) (h : 0 < attempt) :
    ∃ delay, retryDelayMs attempt dispatcher.baseDelayMs dispatcher.maxDelayMs = .ok delay := by
  have hattempt : attempt ≠ 0 := by omega
  simp only [retryDelayMs, assertPositiveInteger, throwIf, if_neg hattempt, if_neg dispatcher.baseDelayMs_pos.ne',
    if_neg dispatcher.maxDelayMs_pos.ne']
  exact ⟨_, rfl⟩

theorem settleStep_sound (h : state.Sound) (hbatch : batch ∈ state.batches)
    (hholds : batch.phase ≠ .publishing → Holds state.store batch.dispatcher.workerId batch.current.id) :
    (settleStep state batch).Sound := by
  obtain ⟨hpositive, row, hrow, hid, hclaimed, hattempts, hcount⟩ := h.owed batch hbatch _ List.mem_cons_self
  dsimp only at hid hattempts hcount
  unfold settleStep
  split
  · exact h
  · next hphase =>
    obtain ⟨tables, hpublished⟩ := publish_held (hholds (by rw [hphase]; exact Phase.noConfusion))
    obtain ⟨hrows, settled, hsettled, hsettledId, hstatus⟩ := published_rows hpublished
    rw [hpublished]
    refine advance_sound h hbatch rfl rfl rfl (stepped_sound h.store (publish_stepped hpublished)) rfl hrows
      ⟨settled, hsettled, hsettledId, fun _ hne => absurd hstatus hne⟩ h.accounted.deadLetters rfl ?_
    dsimp only
    omega
  · next message hphase =>
    obtain ⟨delay, hdelay⟩ := retryDelay_ok batch.dispatcher hpositive
    obtain ⟨tables, hfailed⟩ := @fail_held state.store ⟨batch.current.id, batch.dispatcher.workerId, message,
      decide (batch.dispatcher.maxAttempts ≤ batch.current.attempts), delay⟩
      (hholds (by rw [hphase]; exact Phase.noConfusion))
    obtain ⟨hrows, old, hold, holdId, settled, hsettled, hsettledId, hsame⟩ := failed_rows hfailed
    obtain rfl := h.store.row_eq hold hrow (holdId.trans hid.symm)
    have hattemptsCount : batch.current.attempts = state.failures.count batch.current.id := by
      simpa [hphase, Phase.uncounted] using hcount
    have hcounted : Counted state.failures settled := fun _ _ => by
      rw [hsame, hattempts, hattemptsCount, show settled.id = batch.current.id from hsettledId]
    have hstore : QueueState.Sound { state.store with tables } := stepped_sound h.store (fail_stepped hfailed)
    dsimp only
    rw [hdelay]
    dsimp only
    rw [hfailed]
    dsimp only
    split
    · next hdead =>
      refine advance_sound h hbatch rfl rfl rfl hstore rfl hrows ⟨settled, hsettled, hsettledId, hcounted⟩ ?_ rfl ?_
      · intro letter hletter
        cases List.mem_append.mp hletter with
        | inl hbefore => exact h.accounted.deadLetters letter hbefore
        | inr hnew =>
          obtain rfl := List.mem_singleton.mp hnew
          rw [← hattemptsCount]
          exact of_decide_eq_true hdead
      · dsimp only
        omega
    · refine advance_sound h hbatch rfl rfl rfl hstore rfl hrows ⟨settled, hsettled, hsettledId, hcounted⟩
        h.accounted.deadLetters rfl ?_
      dsimp only
      omega

end Loop

section Claim

variable {state : DispatchState}

theorem candidates_nodup {store : QueueState} {call : ClaimCall} {locked : List String} (h : store.Sound) :
    (candidates store.tables store.now call locked).Nodup := by
  have hclaimable : ((inOrder QueuedEvent.enqueueSequence (store.tables.events.filter fun row =>
      Claimable store.tables store.now call.tenantId row ∧ row.id ∉ locked)).map QueuedEvent.id).Nodup :=
    (inOrder_perm.map _).nodup_iff.mpr (h.ids.sublist (List.filter_sublist.map _))
  exact hclaimable.sublist ((List.take_sublist _ _).map _)

theorem exists_of_mem_candidates {store : QueueState} {call : ClaimCall} {locked : List String} {id : String}
    (h : id ∈ candidates store.tables store.now call locked) : ∃ row ∈ store.tables.events, row.id = id := by
  obtain ⟨row, hrow, hid⟩ := List.mem_map.mp h
  exact ⟨row, (List.mem_filter.mp (mem_inOrder.mp (List.mem_of_mem_take hrow))).1, hid⟩

/-- Looking up ids that are all there gives rows with these ids. -/
theorem map_id_filterMap_find {events : List QueuedEvent} {ids : List String}
    (h : ∀ id ∈ ids, ∃ row ∈ events, row.id = id) :
    (ids.filterMap fun id => events.find? (·.id = id)).map QueuedEvent.id = ids := by
  induction ids with
  | nil => rfl
  | cons id ids ih =>
    have hrest := ih fun other hother => h other (List.mem_cons_of_mem _ hother)
    cases hfound : events.find? (·.id = id) with
    | none =>
      obtain ⟨row, hrow, hid⟩ := h id List.mem_cons_self
      simpa [hid] using List.find?_eq_none.mp hfound row hrow
    | some row =>
      have hid : row.id = id := by simpa using List.find?_some hfound
      simp only [List.filterMap_cons, hfound, List.map_cons, hrest, hid]

/-- A claim that takes over no lease leaves what was known. -/
theorem claim_sound {call : ClaimCall} {locked : List String} (h : state.Sound)
    (hfree : ∀ row ∈ state.store.tables.events, row.status = .claimed →
      row.id ∉ candidates state.store.tables state.store.now call locked) :
    DispatchState.Sound
      { state with
        store := { state.store with tables := claimOutboxBatch state.store.tables state.store.now call locked } } := by
  refine
    { store := stepped_sound h.store (claim_stepped h.store.ids), fresh := h.fresh, known := fun id hid => ?_
      counted := fun row hrow hclaimed hpublished => ?_, batchIds := h.batchIds, owedIds := h.owedIds
      owed := fun batch hbatch entry hentry => ?_, progress := h.progress, accounted :=
        ⟨h.accounted.ended, h.accounted.deadLetters⟩ }
  · obtain ⟨row, hrow, rfl⟩ := h.known id hid
    refine ⟨_, List.mem_map_of_mem hrow, ?_⟩
    split <;> rfl
  · obtain ⟨old, hold, rfl⟩ := List.mem_map.mp hrow
    split at hclaimed
    · exact absurd rfl hclaimed
    · next hother =>
      rw [if_neg hother] at hpublished ⊢
      exact h.counted old hold hclaimed hpublished
  · obtain ⟨hpositive, row, hrow, hid, hclaimed, hattempts, hcount⟩ := h.owed batch hbatch entry hentry
    exact ⟨hpositive, row, List.mem_map.mpr ⟨row, hrow, if_neg (hfree row hrow hclaimed)⟩, hid, hclaimed, hattempts,
      hcount⟩

/-- The claimed rows as they come back. -/
theorem claimed_open {call : ClaimCall} {locked : List String} (h : state.Sound)
    (hfree : ∀ row ∈ state.store.tables.events, row.status = .claimed →
      row.id ∉ candidates state.store.tables state.store.now call locked) {event : QueuedEvent}
    (hevent : event ∈ (claimOutboxBatch state.store.tables state.store.now call locked).events)
    (hid : event.id ∈ candidates state.store.tables state.store.now call locked) :
    Open (claimOutboxBatch state.store.tables state.store.now call locked) state.failures (event, 1) := by
  obtain ⟨old, hold, rfl⟩ := List.mem_map.mp hevent
  by_cases hcandidate : old.id ∈ candidates state.store.tables state.store.now call locked
  · have hclaimable := claimable_of_mem_candidates h.store.ids hold hcandidate
    have hunpublished : old.status ≠ .published := by
      obtain ⟨-, (⟨hopen | hopen, -⟩ | ⟨hopen, -⟩), -⟩ := hclaimable <;> simp [hopen]
    have hcounted := h.counted old hold (fun hclaimed => hfree old hold hclaimed hcandidate) hunpublished
    rw [if_pos hcandidate] at hevent ⊢
    exact ⟨Nat.succ_pos _, _, hevent, rfl, rfl, rfl, congrArg (· + 1) hcounted⟩
  · rw [if_neg hcandidate] at hid
    exact absurd hid hcandidate

theorem startBatch_sound {id limit : Nat} {dispatcher : OutboxDispatcher} {locked returned : List String}
    (h : state.Sound) (htimely : ¬LeaseRunsOut state (.dispatchBatch id dispatcher limit locked returned)) :
    (startBatch state id dispatcher limit locked returned).Sound := by
  unfold startBatch
  dsimp only
  split
  · exact h
  next hstarts =>
  simp only [not_or, not_not] at hstarts
  obtain ⟨-, hfree, hperm⟩ := hstarts
  generalize hcall : (⟨dispatcher.workerId, dispatcher.tenantId, limit, dispatcher.leaseMs⟩ : ClaimCall) = call at hperm
  have hunclaimed : ∀ row ∈ state.store.tables.events, row.status = .claimed →
      row.id ∉ candidates state.store.tables state.store.now call locked := by
    rintro row hrow hclaimed hid
    rw [← hcall] at hid
    exact htimely ⟨row, hrow, hclaimed, hid⟩
  have hclaim := claim_sound h hunclaimed
  have hids := @map_id_filterMap_find (claimOutboxBatch state.store.tables state.store.now call locked).events returned
    fun id hid => by
      obtain ⟨row, hrow, rfl⟩ := exists_of_mem_candidates (hperm.subset hid)
      refine ⟨_, List.mem_map_of_mem hrow, ?_⟩
      split <;> rfl
  have hopen {event : QueuedEvent} (hevent : event ∈ returned.filterMap fun id =>
      (claimOutboxBatch state.store.tables state.store.now call locked).events.find? (·.id = id)) :
      Open (claimOutboxBatch state.store.tables state.store.now call locked) state.failures (event, 1) := by
    have hmem := List.mem_map_of_mem (f := QueuedEvent.id) hevent
    rw [hids] at hmem
    obtain ⟨id, -, hfound⟩ := List.mem_filterMap.mp hevent
    exact claimed_open h hunclaimed (List.mem_of_find?_eq_some hfound) (hperm.subset hmem)
  split
  · next hnone =>
    rw [hnone, List.map_nil] at hids
    refine { hclaim with accounted := ⟨fun ended hended => ?_, h.accounted.deadLetters⟩ }
    cases List.mem_append.mp hended with
    | inl hold => exact h.accounted.ended ended hold
    | inr hnew =>
      obtain rfl := List.mem_singleton.mp hnew
      exact ⟨hids, _, rfl, rfl, by rw [← hids]; rfl⟩
  · next current rest hsome =>
    rw [hsome] at hids hopen
    have hbatchOpen : ∀ entry ∈ (current, 1) :: rest.map fun event => (event, 1),
        Open (claimOutboxBatch state.store.tables state.store.now call locked) state.failures entry := by
      intro entry hentry
      have hmem : entry ∈ (current :: rest).map fun event => (event, 1) := hentry
      obtain ⟨event, hevent, rfl⟩ := List.mem_map.mp hmem
      exact hopen hevent
    refine
      { store := hclaim.store, fresh := hclaim.fresh, known := hclaim.known, counted := hclaim.counted, batchIds := ?_
        owedIds := ?_, owed := fun batch hbatch => ?_, progress := fun batch hbatch => ?_
        accounted := ⟨h.accounted.ended, h.accounted.deadLetters⟩ }
    · refine nodup_concat h.batchIds fun hmem => ?_
      obtain ⟨batch, hbatch, hid⟩ := List.mem_map.mp hmem
      have hothers : ∀ other ∈ state.batches, ¬other.id = id := by simpa [DispatchState.find] using hfree
      exact hothers batch hbatch hid
    · rw [List.flatMap_append, List.flatMap_singleton, Batch.owedIds_eq]
      refine List.nodup_append.mpr ⟨h.owedIds, ?_, ?_⟩
      · have hnodup := hperm.nodup_iff.mpr (candidates_nodup h.store)
        rwa [← hids] at hnodup
      · rintro owed howed _ hnew rfl
        obtain ⟨batch, hbatch, hmem⟩ := List.mem_flatMap.mp howed
        obtain ⟨entry, hentry, rfl⟩ := List.mem_map.mp hmem
        obtain ⟨-, row, hrow, hid, hclaimed, -⟩ := h.owed batch hbatch entry hentry
        have hreturned : entry.1.id ∈ returned := by
          rw [← hids]
          exact hnew
        refine hunclaimed row hrow hclaimed (hid ▸ hperm.subset hreturned)
    · cases List.mem_append.mp hbatch with
      | inl hold => exact hclaim.owed batch hold
      | inr hnew =>
        obtain rfl := List.mem_singleton.mp hnew
        exact hbatchOpen
    · cases List.mem_append.mp hbatch with
      | inl hold => exact h.progress batch hold
      | inr hnew =>
        obtain rfl := List.mem_singleton.mp hnew
        exact ⟨hids.symm, rfl, rfl⟩

end Claim

theorem dispatchStep_sound {state : DispatchState} {action : DispatchAction} (h : state.Sound)
    (htimely : ¬LeaseRunsOut state action) : (dispatchStep platform state action).Sound := by
  cases action with
  | store action =>
    rw [dispatchStep]
    split
    · exact h
    · next hother => exact storeStep_sound h (by simpa using hother)
  | dispatchBatch id dispatcher limit locked returned => exact startBatch_sound h htimely
  | publishEnds id error =>
    rw [dispatchStep]
    split
    · next batch hfound => exact publishStep_sound h (find_batch hfound).2
    · exact h
  | settle id =>
    rw [dispatchStep]
    split
    · next batch hfound =>
      refine settleStep_sound h (find_batch hfound).2 fun hphase => ?_
      by_contra hlost
      exact htimely ⟨batch, hfound, hphase, hlost⟩
    · exact h

/-- In every run in which no lease runs out before its event is settled, each call
of `dispatchBatch` that ends has attempted every event it claimed and returns a sum
that accounts for them, and an event is dead-lettered only after as many failed
attempts as the dispatcher's limit since its last replay. -/
theorem dispatch_accounted {actions : List DispatchAction}
    (htimely : ∀ before action after, actions = before ++ action :: after →
      ¬LeaseRunsOut (dispatchRun platform before) action) : Accounted (dispatchRun platform actions) := by
  have hsound : (dispatchRun platform actions).Sound :=
    runs.run_invariant_of_admissible (fun _ _ h hadmissible => dispatchStep_sound h hadmissible) empty_dispatch_sound
      htimely
  exact hsound.accounted

/-- Events of two aggregates. -/
private def sampleEvent (id aggregateId : String) : OutboxInput where
  id := id
  tenantId := "tenant-1"
  topic := "rwa.product.activation_approved"
  aggregateId := aggregateId
  payload := .object []
  distinct := js_value.distinctKeys_empty

private theorem baseDelay_pos : 0 < 1000 := by decide

private def sampleDispatcher (workerId : String) (maxAttempts : Fin 8) (h : workerId ≠ "") : OutboxDispatcher where
  workerId := workerId
  tenantId := none
  leaseMs := 30000
  maxAttempts := maxAttempts + 1
  baseDelayMs := 1000
  maxDelayMs := 300000
  workerId_ne := h
  leaseMs_pos := by decide
  maxAttempts_pos := Nat.succ_pos _
  baseDelayMs_pos := baseDelay_pos
  maxDelayMs_pos := by decide

/-- Two events are committed and claimed by the first worker. -/
private def sampleClaimed (maxAttempts : Fin 8) : List DispatchAction :=
  [.store (.begin 1), .store (.enqueueOutbox 1 (sampleEvent "event-1" "alpha") none),
    .store (.enqueueOutbox 1 (sampleEvent "event-2" "beta") none), .store (.commit 1),
    .dispatchBatch 1 (sampleDispatcher "worker-1" maxAttempts (by decide)) 50 [] ["event-1", "event-2"]]

/-- The first event is published and the second one is dead after one failure. -/
private def settledInTime : List DispatchAction :=
  sampleClaimed 0 ++
    [.publishEnds 1 none, .settle 1, .store (.tick 1000), .publishEnds 1 (some "register unavailable"), .settle 1]

theorem dispatch_accounted_sample :
    Accounted (dispatchRun samplePlatform settledInTime) ∧
      (dispatchRun samplePlatform settledInTime).ended.length = 1 ∧
      (dispatchRun samplePlatform settledInTime).deadLetters.length = 1 := by
  refine ⟨dispatch_accounted fun before action after h => ?_, by decide +kernel, by decide +kernel⟩
  have hchecked := @runs.admissible_of_all _ _ (dispatchStep samplePlatform)
    (fun state action => decide (¬LeaseRunsOut state action)) .empty settledInTime
      (by decide +kernel) before action after h
  exact of_decide_eq_true hchecked

/-- The first publish outlives its lease and fails: the failure handler throws, and
the second event is never attempted. -/
private def outlivedLease : List DispatchAction :=
  sampleClaimed 7 ++ [.store (.tick 60000), .publishEnds 1 (some "timeout"), .settle 1]

/-- A worker stops after its claim. The next one, with a limit of two attempts,
dead-letters the event when its first publish fails. -/
private def countedAtClaim : List DispatchAction :=
  sampleClaimed 1 ++
    [.store (.tick 60000),
      .dispatchBatch 2 (sampleDispatcher "worker-2" 1 (by decide)) 50 [] ["event-1", "event-2"],
      .publishEnds 2 (some "register unavailable"), .settle 2]

theorem lease_lost_is_not_accounted :
    ¬Accounted (dispatchRun samplePlatform outlivedLease) ∧ ¬Accounted (dispatchRun samplePlatform countedAtClaim) := by
  constructor
  · intro h
    have hended : ∃ ended ∈ (dispatchRun samplePlatform outlivedLease).ended, ended.attempted ≠ ended.claimed := by
      decide +kernel
    obtain ⟨ended, hmem, hne⟩ := hended
    exact hne (h.ended ended hmem).1
  · intro h
    have hletter : ∃ letter ∈ (dispatchRun samplePlatform countedAtClaim).deadLetters,
        letter.failedAttempts < letter.maxAttempts := by
      decide +kernel
    obtain ⟨letter, hmem, hless⟩ := hletter
    exact absurd (h.deadLetters letter hmem) (Nat.not_le.mpr hless)

end rwa.outbox.queue
