import RwaControlPlane.Library.KeyedRows
import RwaControlPlane.Outbox.Queue
import Mathlib.Data.List.Flatten

open checked paging rwa.storage keyed_rows

namespace rwa.outbox.queue

variable {platform : Platform} {state : QueueState} {action : Action}

/-- What a step can make of a committed row. -/
inductive RowStep (state : QueueState) (row : QueuedEvent) : Action → QueuedEvent → Prop
  | same {action : Action} : RowStep state row action row
  | claimed {call : ClaimCall} {locked : List String}
    (hclaimable : Claimable state.tables state.now call.tenantId row) :
      RowStep state row (.claimOutboxBatch call locked)
        { row with
          status := .claimed
          claimedBy := some call.workerId
          leaseExpiresAt := some (state.now + call.leaseMs)
          attempts := row.attempts + 1 }
  | published {workerId : String} (hleased : Leased state.now workerId row) :
      RowStep state row (.markOutboxPublished row.id workerId)
        { row with status := .published, lastError := none, claimedBy := none, leaseExpiresAt := none }
  | failed {call : FailCall} {lastError : Option String} {availableAt : Int} (hid : call.id = row.id)
      (hleased : Leased state.now call.workerId row) :
      RowStep state row (.markOutboxFailed call)
        { row with
          lastError, availableAt, status := if call.dead then .dead else .failed
          claimedBy := none, leaseExpiresAt := none }
  | replayed {requestId checkerRef decision : String} (hdead : row.status = .dead) :
      RowStep state row (.decideDeadLetterReplay requestId checkerRef decision)
        { row with
          status := .pending
          attempts := 0
          availableAt := state.now
          claimedBy := none
          leaseExpiresAt := none
          lastError := none
          replayCount := row.replayCount + 1 }

/-- A step keeps the event of a row and its place in the order. -/
theorem RowStep.event_eq {row next : QueuedEvent} (h : RowStep state row action next) :
    next.event = row.event ∧ next.enqueueSequence = row.enqueueSequence := by
  cases h <;> exact ⟨rfl, rfl⟩

theorem RowStep.id_eq {row next : QueuedEvent} (h : RowStep state row action next) : next.id = row.id :=
  congrArg OutboxEvent.id h.event_eq.1

theorem RowStep.aggregate_eq {row next : QueuedEvent} (h : RowStep state row action next) :
    next.aggregate = row.aggregate := by
  rw [QueuedEvent.aggregate, QueuedEvent.aggregate, h.event_eq.1]

/-- No event leaves `PUBLISHED`. -/
theorem RowStep.published_kept {row next : QueuedEvent} (h : RowStep state row action next)
    (hpublished : row.status = .published) : next.status = .published := by
  cases h with
  | same => exact hpublished
  | claimed hclaimable =>
    obtain ⟨-, (⟨hopen | hopen, -⟩ | ⟨hclaimed, -⟩), -⟩ := hclaimable <;> simp_all
  | published hleased => rfl
  | failed hid hleased => exact absurd (hpublished.symm.trans hleased.1) (by decide)
  | replayed hdead => exact absurd (hpublished.symm.trans hdead) (by decide)

/-- Rows after a step: each one is taken a step. -/
def Stepped (state : QueueState) (action : Action) (events : List QueuedEvent) : Prop :=
  ∃ change : QueuedEvent → QueuedEvent, events = state.tables.events.map change ∧
    ∀ row ∈ state.tables.events, RowStep state row action (change row)

theorem stepped_same : Stepped state action state.tables.events :=
  ⟨id, (List.map_id _).symm, fun _ _ => .same⟩

/-- A claimed row meets the condition of the candidates. -/
theorem claimable_of_mem_candidates {call : ClaimCall} {locked : List String} {row : QueuedEvent}
    (hids : (state.tables.events.map QueuedEvent.id).Nodup) (hrow : row ∈ state.tables.events)
    (h : row.id ∈ candidates state.tables state.now call locked) :
    Claimable state.tables state.now call.tenantId row := by
  obtain ⟨chosen, hchosen, hid⟩ := List.mem_map.mp h
  have hmem := List.mem_filter.mp (mem_inOrder.mp (List.mem_of_mem_take hchosen))
  obtain rfl := List.inj_on_of_nodup_map hids hmem.1 hrow hid
  have hcondition := hmem.2
  simp only [decide_eq_true_eq] at hcondition
  exact hcondition.1

theorem claim_stepped {call : ClaimCall} {locked : List String}
    (hids : (state.tables.events.map QueuedEvent.id).Nodup) :
    Stepped state (.claimOutboxBatch call locked) (claimOutboxBatch state.tables state.now call locked).events := by
  refine ⟨_, rfl, fun row hrow => ?_⟩
  split
  · next hchosen => exact .claimed (claimable_of_mem_candidates hids hrow hchosen)
  · exact .same

theorem publish_stepped {tables : Tables} {id workerId : String}
    (h : markOutboxPublished state.tables state.now id workerId = .ok tables) :
    Stepped state (.markOutboxPublished id workerId) tables.events := by
  simp only [markOutboxPublished, bind_eq_ok_iff, throwIf_eq_ok_iff, exists_unit, pure_eq_ok_iff] at h
  obtain ⟨-, rfl⟩ := h
  refine ⟨_, rfl, fun row hrow => ?_⟩
  split
  · next hleased =>
    obtain ⟨rfl, hleased⟩ := hleased
    exact .published hleased
  · exact .same

theorem fail_stepped {tables : Tables} {call : FailCall}
    (h : markOutboxFailed state.tables state.now call = .ok tables) :
    Stepped state (.markOutboxFailed call) tables.events := by
  simp only [markOutboxFailed, bind_eq_ok_iff, throwIf_eq_ok_iff, exists_unit, pure_eq_ok_iff] at h
  obtain ⟨-, rfl⟩ := h
  refine ⟨_, rfl, fun row hrow => ?_⟩
  split
  · next hleased => exact .failed hleased.1.symm hleased.2
  · exact .same

theorem propose_events {tables : Tables} {requestId eventId tenantId makerRef reason : String}
    (h : proposeDeadLetterReplay state.tables requestId eventId tenantId makerRef reason = .ok tables) :
    tables.events = state.tables.events := by
  simp only [proposeDeadLetterReplay, bind_eq_ok_iff, throwIf_eq_ok_iff, exists_unit, pure_eq_ok_iff] at h
  obtain ⟨event, -, -, -, -, rfl⟩ := h
  rfl

theorem decide_stepped {tables : Tables} {requestId checkerRef decision : String}
    (h : decideDeadLetterReplay state.tables state.now requestId checkerRef decision = .ok tables) :
    Stepped state (.decideDeadLetterReplay requestId checkerRef decision) tables.events := by
  simp only [decideDeadLetterReplay, bind_eq_ok_iff, throwIf_eq_ok_iff, exists_unit] at h
  obtain ⟨-, request, -, -, -, h⟩ := h
  split at h
  · obtain rfl := pure_eq_ok_iff.mp h
    exact stepped_same
  · simp only [bind_eq_ok_iff, throwIf_eq_ok_iff, exists_unit, pure_eq_ok_iff] at h
    obtain ⟨-, rfl⟩ := h
    refine ⟨_, rfl, fun row hrow => ?_⟩
    split
    · next hdead => exact .replayed hdead.2
    · exact .same

/-- What one step can do to the state. -/
inductive Moves (state : QueueState) : Action → QueueState → Prop
  | stepped {action : Action} {tables : Tables} (hstepped : Stepped state action tables.events) :
      Moves state action { state with tables }
  | ticked {elapsed : Nat} : Moves state (.tick elapsed) { state with now := state.now + elapsed }
  | started {id : Nat} (hfresh : state.find id = none) :
      Moves state (.begin id) { state with writers := state.writers ++ [{ id, inserted := [] }] }
  | left {action : Action} {id : Nat} {nextSequence : Int} (hdrawn : state.nextSequence ≤ nextSequence) :
      Moves state action (QueueState.finish { state with nextSequence } id)
  | inserted {action : Action} {writer : Writer} {row : QueuedEvent} (hfound : state.find writer.id = some writer)
      (hsequence : row.enqueueSequence = state.nextSequence) (hstatus : row.status = .pending)
      (hfresh : ∀ other ∈ writer.inserted, other.id ≠ row.id) :
      Moves state action
        { state with
          nextSequence := state.nextSequence + 1
          writers := state.writers.map fun other =>
            if other.id = writer.id then { other with inserted := other.inserted ++ [row] } else other }
  | committed {writer : Writer} (hfound : state.find writer.id = some writer)
      (hfresh : ∀ row ∈ writer.inserted, ∀ other ∈ state.tables.events, other.id ≠ row.id) :
      Moves state (.commit writer.id)
        { state.finish writer.id with
          tables := { state.tables with events := state.tables.events ++ writer.inserted } }

theorem find_writer {id : Nat} {writer : Writer} (h : state.find id = some writer) :
    writer.id = id ∧ writer ∈ state.writers := by
  have hid := List.find?_some h
  exact ⟨by simpa using hid, List.mem_of_find?_eq_some h⟩

theorem apply_moves {outcome : Except Failure Tables}
    (h : ∀ tables, outcome = .ok tables → Stepped state action tables.events) :
    Moves state action (state.apply outcome) := by
  cases outcome with
  | error failure => exact .stepped stepped_same
  | ok tables => exact .stepped (h tables rfl)

theorem outboxRow_id {input : OutboxInput} {event : OutboxEvent} (h : outboxRow platform input = .ok event) :
    event.id = input.id := by
  simp only [outboxRow, bind_eq_ok_iff, throwIf_eq_ok_iff, exists_unit, pure_eq_ok_iff] at h
  obtain ⟨payloadHash, -, payload, -, -, rfl⟩ := h
  rfl

theorem insertEvent_moves {writer : Writer} {input : OutboxInput} {availableAt : Option Int}
    (hfound : state.find writer.id = some writer) :
    Moves state action (insertEvent platform state writer input availableAt) := by
  unfold insertEvent
  split
  · exact .left (le_refl state.nextSequence)
  · next event hevent =>
    dsimp only
    split
    · exact .left (Int.le_add_one (le_refl _))
    · next hfresh =>
      refine .inserted hfound rfl rfl fun other hother hid => hfresh ⟨other, List.mem_append_right _ hother, ?_⟩
      exact hid.trans (outboxRow_id hevent)

theorem commitWriter_moves {writer : Writer} (hfound : state.find writer.id = some writer) :
    Moves state (.commit writer.id) (commitWriter state writer) := by
  unfold commitWriter
  split
  · exact .left (le_refl state.nextSequence)
  · next hfresh =>
    refine .committed hfound fun row hrow other hother hid => hfresh ⟨row, hrow, other, hother, hid⟩

/-- Every step is one of the moves. -/
theorem step_moves (hids : (state.tables.events.map QueuedEvent.id).Nodup) :
    Moves state action (step platform state action) := by
  cases action with
  | begin id =>
    rw [step]
    split
    · exact .stepped stepped_same
    · next hfresh => exact .started (by simpa using hfresh)
  | enqueueOutbox id input availableAt =>
    rw [step]
    split
    · next writer hfound =>
      obtain ⟨rfl, -⟩ := find_writer hfound
      exact insertEvent_moves hfound
    · exact .stepped stepped_same
  | commit id =>
    rw [step]
    split
    · next writer hfound =>
      obtain ⟨rfl, -⟩ := find_writer hfound
      exact commitWriter_moves hfound
    · exact .stepped stepped_same
  | rollback id => exact .left (le_refl state.nextSequence)
  | tick elapsed => exact .ticked
  | claimOutboxBatch call locked => exact .stepped (claim_stepped hids)
  | markOutboxPublished id workerId => exact apply_moves fun tables => publish_stepped
  | markOutboxFailed call => exact apply_moves fun tables => fail_stepped
  | proposeDeadLetterReplay requestId eventId tenantId makerRef reason =>
    refine apply_moves fun tables h => ?_
    rw [propose_events h]
    exact stepped_same
  | decideDeadLetterReplay requestId checkerRef decision => exact apply_moves fun tables => decide_stepped

/-- The rows that transactions in flight have inserted. -/
def QueueState.inFlight (state : QueueState) : List QueuedEvent := state.writers.flatMap Writer.inserted

/-- What holds in every reachable state. -/
structure QueueState.Sound (state : QueueState) : Prop where
  ids : (state.tables.events.map QueuedEvent.id).Nodup
  own : ∀ writer ∈ state.writers, (writer.inserted.map QueuedEvent.id).Nodup
  writers : (state.writers.map Writer.id).Nodup
  sequences : ((state.tables.events ++ state.inFlight).map QueuedEvent.enqueueSequence).Nodup
  drawn : ∀ row ∈ state.tables.events ++ state.inFlight, row.enqueueSequence < state.nextSequence
  pending : ∀ row ∈ state.inFlight, row.status = .pending

theorem empty_sound : QueueState.empty.Sound := by
  constructor <;> simp [QueueState.empty, QueueState.inFlight]

theorem mem_finish {id : Nat} {writer : Writer} (h : writer ∈ (state.finish id).writers) : writer ∈ state.writers :=
  (List.mem_filter.mp h).1

theorem finish_inFlight {id : Nat} : (state.finish id).inFlight.Sublist state.inFlight :=
  List.filter_sublist.flatMap _

/-- Committed rows that take a step keep what was known of the rows. -/
theorem stepped_sound {tables : Tables} (h : state.Sound) (hstepped : Stepped state action tables.events) :
    QueueState.Sound { state with tables } := by
  obtain ⟨change, hevents, hchange⟩ := hstepped
  have hids : tables.events.map QueuedEvent.id = state.tables.events.map QueuedEvent.id := by
    rw [hevents, List.map_map]
    exact List.map_congr_left fun row hrow => (hchange row hrow).id_eq
  have hsequences : tables.events.map QueuedEvent.enqueueSequence =
      state.tables.events.map QueuedEvent.enqueueSequence := by
    rw [hevents, List.map_map]
    exact List.map_congr_left fun row hrow => (hchange row hrow).event_eq.2
  refine { ids := by rw [hids]; exact h.ids, own := h.own, writers := h.writers, sequences := ?_, drawn := ?_
           pending := h.pending }
  · have hsame := h.sequences
    rw [List.map_append] at hsame ⊢
    exact hsequences ▸ hsame
  · intro row hrow
    rcases List.mem_append.mp hrow with hcommitted | hflying
    · have hmem := List.mem_map_of_mem (f := QueuedEvent.enqueueSequence) hcommitted
      rw [hsequences] at hmem
      obtain ⟨old, hold, heq⟩ := List.mem_map.mp hmem
      exact heq ▸ h.drawn old (List.mem_append_left _ hold)
    · exact h.drawn row (List.mem_append_right _ hflying)

theorem left_sound {id : Nat} {nextSequence : Int} (h : state.Sound) (hdrawn : state.nextSequence ≤ nextSequence) :
    (QueueState.finish { state with nextSequence } id).Sound := by
  have hsub : (state.tables.events ++ (state.finish id).inFlight).Sublist (state.tables.events ++ state.inFlight) :=
    (List.Sublist.refl _).append finish_inFlight
  refine { ids := h.ids, own := fun writer hwriter => h.own writer (mem_finish hwriter)
           writers := h.writers.sublist (List.filter_sublist.map _), sequences := h.sequences.sublist (hsub.map _)
           drawn := fun row hrow => ?_, pending := fun row hrow => h.pending row (finish_inFlight.subset hrow) }
  exact (h.drawn row (hsub.subset hrow)).trans_le hdrawn

theorem committed_sound {writer : Writer} (h : state.Sound) (hfound : state.find writer.id = some writer)
    (hfresh : ∀ row ∈ writer.inserted, ∀ other ∈ state.tables.events, other.id ≠ row.id) :
    QueueState.Sound
      { state.finish writer.id with
        tables := { state.tables with events := state.tables.events ++ writer.inserted } } := by
  have hmem := (find_writer hfound).2
  have hleft : (state.finish writer.id).Sound := left_sound h (le_refl state.nextSequence)
  have hperm : (state.tables.events ++ writer.inserted ++ (state.finish writer.id).inFlight).Perm
      (state.tables.events ++ state.inFlight) := by
    rw [List.append_assoc]
    exact (flatMap_perm_of_mem h.writers hmem).append_left _
  refine { ids := ?_, own := hleft.own, writers := hleft.writers
           sequences := (hperm.map _).nodup_iff.mpr h.sequences
           drawn := fun row hrow => h.drawn row (hperm.subset hrow), pending := hleft.pending }
  rw [List.map_append, List.nodup_append]
  refine ⟨h.ids, h.own writer hmem, fun first hfirst second hsecond heq => ?_⟩
  obtain ⟨old, hold, rfl⟩ := List.mem_map.mp hfirst
  obtain ⟨row, hrow, rfl⟩ := List.mem_map.mp hsecond
  exact hfresh row hrow old hold heq

theorem inserted_sound {writer : Writer} {row : QueuedEvent} (h : state.Sound)
    (hfound : state.find writer.id = some writer) (hsequence : row.enqueueSequence = state.nextSequence)
    (hstatus : row.status = .pending) (hfresh : ∀ other ∈ writer.inserted, other.id ≠ row.id) :
    QueueState.Sound
      { state with
        nextSequence := state.nextSequence + 1
        writers := state.writers.map fun other =>
          if other.id = writer.id then { other with inserted := other.inserted ++ [row] } else other } := by
  have hmem := (find_writer hfound).2
  have hflight := @flatMap_update_perm _ _ _ _ state.writers Writer.id Writer.inserted writer h.writers hmem
    (fun other => { other with inserted := other.inserted ++ [row] }) row rfl
  have hperm := (hflight.append_left state.tables.events).trans List.perm_middle
  have hless : ∀ other ∈ state.tables.events ++ state.inFlight, other.enqueueSequence < row.enqueueSequence :=
    fun other hother => hsequence ▸ h.drawn other hother
  refine { ids := h.ids, own := ?_, writers := ?_, sequences := ?_, drawn := ?_, pending := ?_ }
  · intro other hother
    obtain ⟨existing, hexisting, rfl⟩ := List.mem_map.mp hother
    by_cases hsame : existing.id = writer.id
    · obtain rfl := List.inj_on_of_nodup_map h.writers hexisting hmem hsame
      rw [if_pos rfl]
      refine nodup_concat (h.own _ hexisting) fun hrow => ?_
      obtain ⟨earlier, hearlier, hid⟩ := List.mem_map.mp hrow
      exact hfresh earlier hearlier hid
    · rw [if_neg hsame]
      exact h.own existing hexisting
  · have hkeys : (state.writers.map fun other => if other.id = writer.id then
        { other with inserted := other.inserted ++ [row] } else other).map Writer.id = state.writers.map Writer.id := by
      rw [List.map_map]
      exact List.map_congr_left fun other _ => by by_cases hsame : other.id = writer.id <;> simp [hsame]
    exact hkeys ▸ h.writers
  · refine (hperm.map _).nodup_iff.mpr (List.nodup_cons.mpr ⟨fun hrow => ?_, h.sequences⟩)
    obtain ⟨other, hother, heq⟩ := List.mem_map.mp hrow
    exact absurd heq (hless other hother).ne
  · intro other hother
    rcases List.mem_cons.mp (hperm.subset hother) with rfl | hold
    · rw [hsequence]
      exact Int.lt_succ _
    · exact (h.drawn other hold).trans (Int.lt_succ _)
  · intro other hother
    rcases List.mem_cons.mp (hflight.subset hother) with rfl | hold
    · exact hstatus
    · exact h.pending other hold

theorem step_sound (h : state.Sound) : (step platform state action).Sound := by
  have hmoves := @step_moves platform state action h.ids
  generalize step platform state action = next at hmoves ⊢
  cases hmoves with
  | stepped hstepped => exact stepped_sound h hstepped
  | ticked => exact { h with }
  | started hfresh =>
    refine { h with own := ?_, writers := ?_, sequences := ?_, drawn := ?_, pending := ?_ }
    · intro writer hwriter
      rcases List.mem_append.mp hwriter with hold | hnew
      · exact h.own writer hold
      · obtain rfl := List.mem_singleton.mp hnew
        exact List.nodup_nil
    · refine nodup_concat h.writers fun hid => ?_
      obtain ⟨writer, hwriter, hid⟩ := List.mem_map.mp hid
      exact List.find?_eq_none.mp hfresh writer hwriter (by simpa using hid)
    · simpa [QueueState.inFlight] using h.sequences
    · simpa [QueueState.inFlight] using h.drawn
    · simpa [QueueState.inFlight] using h.pending
  | left hdrawn => exact left_sound h hdrawn
  | inserted hfound hsequence hstatus hfresh => exact inserted_sound h hfound hsequence hstatus hfresh
  | committed hfound hfresh => exact committed_sound h hfound hfresh

theorem run_sound (actions : List Action) : (run platform actions).Sound :=
  runs.run_invariant empty_sound (fun _ _ h => step_sound h) actions

end rwa.outbox.queue
