import RwaControlPlane.Library.FourEyes
import RwaControlPlane.Outbox.QueueReachable

open checked four_eyes keyed_rows rwa.storage

namespace rwa.outbox.queue

variable {platform : Platform} {state : QueueState} {action : Action}

/-- A replay request asks for its event to be queued again, and nothing else happens
to a dead event. -/
def replays (platform : Platform) : Workflow QueueState Action String String Unit String (Option QueuedEvent) where
  step := step platform
  Proposes state action requestId makerRef eventId _ := ∃ tenantId reason tables,
    action = .proposeDeadLetterReplay requestId eventId tenantId makerRef reason ∧
      proposeDeadLetterReplay state.tables requestId eventId tenantId makerRef reason = .ok tables
  Decides state action requestId checkerRef approve := ∃ decision tables,
    action = .decideDeadLetterReplay requestId checkerRef decision ∧
      decideDeadLetterReplay state.tables state.now requestId checkerRef decision = .ok tables ∧
      (approve = true ↔ decision = "APPROVE")
  Effects before after eventId _ := ∃ row ∈ before.tables.events, ∃ changed ∈ after.tables.events,
    row.id = eventId ∧ changed.id = eventId ∧ row.status = .dead ∧ changed ≠ row
  view state eventId := state.tables.events.find? (·.id = eventId)

/-- A replay request that is not decided yet. -/
def PendingReplay (state : QueueState) (requestId makerRef eventId : String) (_ : Unit) : Prop :=
  ∃ request ∈ state.tables.requests, request.id = requestId ∧ request.makerRef = makerRef ∧
    request.eventId = eventId ∧ request.status = .pending

def DecidedReplay (state : QueueState) (requestId : String) : Prop :=
  ∃ request ∈ state.tables.requests, request.id = requestId ∧ request.status ≠ .pending

/-- What holds of replay requests in every reachable state. -/
structure ReplaysSound (state : QueueState) : Prop where
  rows : state.Sound
  ids : (state.tables.requests.map ReplayRequest.id).Nodup
  one_pending : ∀ first ∈ state.tables.requests, ∀ second ∈ state.tables.requests, first.status = .pending →
    second.status = .pending → first.eventId = second.eventId → first = second
  dead : ∀ request ∈ state.tables.requests, request.status = .pending →
    ∃ row ∈ state.tables.events, row.id = request.eventId ∧ row.status = .dead

section Operations

variable {tables : Tables} {requestId eventId tenantId makerRef checkerRef reason decision : String}

theorem proposeDeadLetterReplay_spec
    (h : proposeDeadLetterReplay state.tables requestId eventId tenantId makerRef reason = .ok tables) :
    (∃ row ∈ state.tables.events, row.id = eventId ∧ row.status = .dead) ∧
    (∀ request ∈ state.tables.requests, request.id ≠ requestId ∧
      ¬(request.eventId = eventId ∧ request.status = .pending)) ∧
    ∃ request, request.id = requestId ∧ request.makerRef = makerRef ∧ request.eventId = eventId ∧
      request.status = .pending ∧
      tables = { state.tables with requests := state.tables.requests ++ [request] } := by
  simp only [proposeDeadLetterReplay, bind_eq_ok_iff, throwIf_eq_ok_iff, require_eq_ok_iff, exists_unit,
    pure_eq_ok_iff, not_or, not_not] at h
  obtain ⟨row, hfound, ⟨hdead, -⟩, -, hfresh, rfl⟩ := h
  refine ⟨⟨row, List.mem_of_find?_eq_some hfound, by simpa using List.find?_some hfound, hdead⟩, ?_, _, rfl, rfl, rfl,
    rfl, rfl⟩
  intro request hrequest
  constructor
  · exact fun hid => hfresh ⟨request, hrequest, Or.inl hid⟩
  · exact fun hsame => hfresh ⟨request, hrequest, Or.inr hsame⟩

/-- A decision is about a pending request of another actor. -/
theorem decideDeadLetterReplay_spec
    (h : decideDeadLetterReplay state.tables state.now requestId checkerRef decision = .ok tables) :
    ∃ request ∈ state.tables.requests, request.id = requestId ∧ request.status = .pending ∧
      request.makerRef ≠ checkerRef ∧
      ((decision = "REJECT" ∧ tables.events = state.tables.events ∧
          tables.requests = decideRequest state.tables.requests requestId checkerRef .rejected) ∨
        (decision = "APPROVE" ∧
          (∀ row ∈ state.tables.events, row.id ≠ request.eventId → row ∈ tables.events) ∧
          tables.requests = decideRequest state.tables.requests requestId checkerRef .executed)) := by
  simp only [decideDeadLetterReplay, bind_eq_ok_iff, throwIf_eq_ok_iff, require_eq_ok_iff, exists_unit, not_not] at h
  obtain ⟨hdecision, request, hfound, hpending, hdiffer, h⟩ := h
  have hid : request.id = requestId := by simpa using List.find?_some hfound
  refine ⟨request, List.mem_of_find?_eq_some hfound, hid, hpending, hdiffer, ?_⟩
  split at h
  · next hreject =>
    obtain rfl := pure_eq_ok_iff.mp h
    exact Or.inl ⟨hreject, rfl, rfl⟩
  · next happrove =>
    simp only [bind_eq_ok_iff, throwIf_eq_ok_iff, exists_unit, pure_eq_ok_iff] at h
    obtain ⟨-, rfl⟩ := h
    simp only [List.mem_cons, List.not_mem_nil, or_false] at hdecision
    refine Or.inr ⟨hdecision.resolve_right happrove, fun row hrow hother => ?_, rfl⟩
    refine List.mem_map.mpr ⟨row, hrow, if_neg fun hsame => hother hsame.1⟩

/-- A decision leaves the other requests as they are. -/
theorem mem_decideRequest {requests : List ReplayRequest} {status : RequestStatus} {request : ReplayRequest}
    (h : request ∈ decideRequest requests requestId checkerRef status) :
    (request ∈ requests ∧ request.id ≠ requestId) ∨
      (request.id = requestId ∧ request.status = status ∧ ∃ before ∈ requests, before.id = requestId) := by
  obtain ⟨before, hbefore, rfl⟩ := List.mem_map.mp h
  by_cases hid : before.id = requestId
  · rw [if_pos hid]
    exact Or.inr ⟨hid, rfl, before, hbefore, hid⟩
  · rw [if_neg hid]
    exact Or.inl ⟨hbefore, hid⟩

theorem decideRequest_ids {requests : List ReplayRequest} {status : RequestStatus} :
    (decideRequest requests requestId checkerRef status).map ReplayRequest.id = requests.map ReplayRequest.id := by
  rw [decideRequest, List.map_map]
  refine List.map_congr_left fun request _ => ?_
  by_cases hid : request.id = requestId <;> simp [hid]

end Operations

/-- What a step does to dead events and to the requests that replay them. -/
inductive ReplayMoves (state : QueueState) : Action → QueueState → Prop
  | other {action : Action} {next : QueueState} (hrequests : next.tables.requests = state.tables.requests)
      (hdead : ∀ row ∈ state.tables.events, row.status = .dead → row ∈ next.tables.events)
      (hundecided : ∀ requestId checkerRef decision tables,
        action = .decideDeadLetterReplay requestId checkerRef decision →
        decideDeadLetterReplay state.tables state.now requestId checkerRef decision ≠ .ok tables) :
      ReplayMoves state action next
  | proposed {requestId eventId tenantId makerRef reason : String} {tables : Tables}
      (hproposed : proposeDeadLetterReplay state.tables requestId eventId tenantId makerRef reason = .ok tables) :
      ReplayMoves state (.proposeDeadLetterReplay requestId eventId tenantId makerRef reason) { state with tables }
  | decided {requestId checkerRef decision : String} {tables : Tables}
      (hdecided : decideDeadLetterReplay state.tables state.now requestId checkerRef decision = .ok tables) :
      ReplayMoves state (.decideDeadLetterReplay requestId checkerRef decision) { state with tables }

/-- A step that is no decision keeps dead events. -/
theorem Moves.dead_kept {next : QueueState} (h : Moves state action next)
    (hother : ∀ requestId checkerRef decision, action ≠ .decideDeadLetterReplay requestId checkerRef decision)
    {row : QueuedEvent} (hrow : row ∈ state.tables.events) (hdead : row.status = .dead) : row ∈ next.tables.events := by
  cases h with
  | stepped hstepped =>
    obtain ⟨change, hevents, hchange⟩ := hstepped
    have hrowStep := hchange row hrow
    rw [hevents]
    refine List.mem_map.mpr ⟨row, hrow, ?_⟩
    generalize change row = changed at hrowStep ⊢
    cases hrowStep with
    | same => rfl
    | claimed hclaimable =>
      obtain ⟨-, (⟨hopen | hopen, -⟩ | ⟨hclaimed, -⟩), -⟩ := hclaimable <;> simp_all
    | published hleased => exact absurd (hdead.symm.trans hleased.1) (by decide)
    | failed hid hleased => exact absurd (hdead.symm.trans hleased.1) (by decide)
    | replayed _ => exact absurd rfl (hother _ _ _)
  | ticked => exact hrow
  | started _ => exact hrow
  | left _ => exact hrow
  | inserted _ _ _ _ => exact hrow
  | committed _ _ => exact List.mem_append_left _ hrow

private theorem other_of_moves {next : QueueState} (h : Moves state action next)
    (hrequests : next.tables.requests = state.tables.requests)
    (hother : ∀ requestId checkerRef decision, action ≠ .decideDeadLetterReplay requestId checkerRef decision) :
    ReplayMoves state action next :=
  .other hrequests (fun _ hrow hdead => h.dead_kept hother hrow hdead)
    fun requestId checkerRef decision _ heq => absurd heq (hother requestId checkerRef decision)

/-- Every step is one of these. -/
theorem step_replayMoves (hids : (state.tables.events.map QueuedEvent.id).Nodup) :
    ReplayMoves state action (step platform state action) := by
  have hmoves := @step_moves platform state action hids
  cases action with
  | begin id =>
    refine other_of_moves hmoves ?_ fun _ _ _ heq => (by cases heq)
    rw [step]
    split <;> rfl
  | enqueueOutbox id input availableAt =>
    refine other_of_moves hmoves ?_ fun _ _ _ heq => (by cases heq)
    rw [step]
    split
    · unfold insertEvent
      split
      · rfl
      · dsimp only
        split <;> rfl
    · rfl
  | commit id =>
    refine other_of_moves hmoves ?_ fun _ _ _ heq => (by cases heq)
    rw [step]
    split
    · unfold commitWriter
      split <;> rfl
    · rfl
  | rollback id => exact other_of_moves hmoves rfl fun _ _ _ heq => (by cases heq)
  | tick elapsed => exact other_of_moves hmoves rfl fun _ _ _ heq => (by cases heq)
  | claimOutboxBatch call locked => exact other_of_moves hmoves rfl fun _ _ _ heq => (by cases heq)
  | markOutboxPublished id workerId =>
    refine other_of_moves hmoves ?_ fun _ _ _ heq => (by cases heq)
    rw [step]
    cases hmarked : markOutboxPublished state.tables state.now id workerId with
    | error failure => rfl
    | ok tables =>
      simp only [markOutboxPublished, bind_eq_ok_iff, throwIf_eq_ok_iff, exists_unit, pure_eq_ok_iff] at hmarked
      obtain ⟨-, rfl⟩ := hmarked
      rfl
  | markOutboxFailed call =>
    refine other_of_moves hmoves ?_ fun _ _ _ heq => (by cases heq)
    rw [step]
    cases hmarked : markOutboxFailed state.tables state.now call with
    | error failure => rfl
    | ok tables =>
      simp only [markOutboxFailed, bind_eq_ok_iff, throwIf_eq_ok_iff, exists_unit, pure_eq_ok_iff] at hmarked
      obtain ⟨-, rfl⟩ := hmarked
      rfl
  | proposeDeadLetterReplay requestId eventId tenantId makerRef reason =>
    rw [step] at hmoves ⊢
    cases hproposed : proposeDeadLetterReplay state.tables requestId eventId tenantId makerRef reason with
    | error failure => exact .other rfl (fun _ hrow _ => hrow) fun _ _ _ _ heq => (by cases heq)
    | ok tables => exact .proposed hproposed
  | decideDeadLetterReplay requestId checkerRef decision =>
    rw [step]
    cases hdecided : decideDeadLetterReplay state.tables state.now requestId checkerRef decision with
    | error failure =>
      refine .other rfl (fun _ hrow _ => hrow) fun requestId' checkerRef' decision' tables heq hok => ?_
      cases heq
      rw [hdecided] at hok
      cases hok
    | ok tables => exact .decided hdecided

section Invariants

variable {tables : Tables} {requestId checkerRef decision : String} {next : QueueState}

/-- A decision leaves the other pending requests, with their events, as they are. -/
theorem ReplaysSound.decided_keeps (h : ReplaysSound state)
    (hdecided : decideDeadLetterReplay state.tables state.now requestId checkerRef decision = .ok tables)
    {request : ReplayRequest} (hrequest : request ∈ tables.requests) (hpending : request.status = .pending) :
    request ∈ state.tables.requests ∧ request.id ≠ requestId ∧
      ∀ row ∈ state.tables.events, row.id = request.eventId → row ∈ tables.events := by
  obtain ⟨own, hown, hid, hstatus, -, ⟨-, hevents, hrequests⟩ | ⟨-, hothers, hrequests⟩⟩ :=
    decideDeadLetterReplay_spec hdecided
  · rw [hrequests] at hrequest
    obtain ⟨hmem, hne⟩ | ⟨-, hrejected, -⟩ := mem_decideRequest hrequest
    · exact ⟨hmem, hne, fun row hrow _ => hevents ▸ hrow⟩
    · rw [hpending] at hrejected
      cases hrejected
  · rw [hrequests] at hrequest
    obtain ⟨hmem, hne⟩ | ⟨-, hexecuted, -⟩ := mem_decideRequest hrequest
    · refine ⟨hmem, hne, fun row hrow hevent => hothers row hrow fun hsame => hne ?_⟩
      rw [h.one_pending request hmem own hown hpending hstatus (hevent.symm.trans hsame), hid]
    · rw [hpending] at hexecuted
      cases hexecuted

theorem decided_ids
    (hdecided : decideDeadLetterReplay state.tables state.now requestId checkerRef decision = .ok tables) :
    tables.requests.map ReplayRequest.id = state.tables.requests.map ReplayRequest.id := by
  obtain ⟨_, -, -, -, -, ⟨-, -, hrequests⟩ | ⟨-, -, hrequests⟩⟩ := decideDeadLetterReplay_spec hdecided <;>
    rw [hrequests, decideRequest_ids]

theorem replaysSound_empty : ReplaysSound .empty := by
  refine ⟨empty_sound, ?_, ?_, ?_⟩ <;> simp [QueueState.empty]

theorem ReplayMoves.sound (h : ReplaysSound state) (hrows : next.Sound) (hmoves : ReplayMoves state action next) :
    ReplaysSound next := by
  refine ⟨hrows, ?_, ?_, ?_⟩
  · cases hmoves with
    | other hrequests _ _ => rw [hrequests]; exact h.ids
    | proposed hproposed =>
      obtain ⟨-, hfresh, request, rfl, -, -, -, rfl⟩ := proposeDeadLetterReplay_spec hproposed
      refine nodup_concat h.ids fun hmem => ?_
      obtain ⟨other, hother, hid⟩ := List.mem_map.mp hmem
      exact (hfresh other hother).1 hid
    | decided hdecided =>
      rw [decided_ids hdecided]
      exact h.ids
  · cases hmoves with
    | other hrequests _ _ => rw [hrequests]; exact h.one_pending
    | proposed hproposed =>
      obtain ⟨-, hfresh, request, -, -, rfl, hstatus, rfl⟩ := proposeDeadLetterReplay_spec hproposed
      intro first hfirst second hsecond hfirstPending hsecondPending hevent
      obtain hold | hnew := List.mem_append.mp hfirst
      · obtain hold' | hnew' := List.mem_append.mp hsecond
        · exact h.one_pending first hold second hold' hfirstPending hsecondPending hevent
        · rw [List.mem_singleton.mp hnew'] at hevent
          exact absurd ⟨hevent, hfirstPending⟩ (hfresh first hold).2
      · obtain hold' | hnew' := List.mem_append.mp hsecond
        · rw [List.mem_singleton.mp hnew] at hevent
          exact absurd ⟨hevent.symm, hsecondPending⟩ (hfresh second hold').2
        · rw [List.mem_singleton.mp hnew, List.mem_singleton.mp hnew']
    | decided hdecided =>
      intro first hfirst second hsecond hfirstPending hsecondPending hevent
      obtain ⟨hfirst', -⟩ := h.decided_keeps hdecided hfirst hfirstPending
      obtain ⟨hsecond', -⟩ := h.decided_keeps hdecided hsecond hsecondPending
      exact h.one_pending first hfirst' second hsecond' hfirstPending hsecondPending hevent
  · intro request hrequest hpending
    cases hmoves with
    | other hrequests hdead _ =>
      rw [hrequests] at hrequest
      obtain ⟨row, hrow, hid, hstatus⟩ := h.dead request hrequest hpending
      exact ⟨row, hdead row hrow hstatus, hid, hstatus⟩
    | proposed hproposed =>
      obtain ⟨⟨row, hrow, hid, hstatus⟩, -, proposal, -, -, rfl, -, rfl⟩ := proposeDeadLetterReplay_spec hproposed
      obtain hold | hnew := List.mem_append.mp hrequest
      · exact h.dead request hold hpending
      · rw [List.mem_singleton.mp hnew]
        exact ⟨row, hrow, hid, hstatus⟩
    | decided hdecided =>
      obtain ⟨hmem, -, hkept⟩ := h.decided_keeps hdecided hrequest hpending
      obtain ⟨row, hrow, hid, hstatus⟩ := h.dead request hmem hpending
      exact ⟨row, hkept row hrow hid, hid, hstatus⟩

theorem replaysSound_step (h : ReplaysSound state) : ReplaysSound (step platform state action) :=
  (step_replayMoves h.rows.ids).sound h (step_sound h.rows)

/-- The event of a request that stays pending stays as it is. -/
theorem ReplayMoves.pending (h : ReplaysSound state) (hrows : next.Sound) (hmoves : ReplayMoves state action next)
    {request : ReplayRequest} (hrequest : request ∈ next.tables.requests) (hpending : request.status = .pending) :
    (∃ tenantId reason tables,
      action = .proposeDeadLetterReplay request.id request.eventId tenantId request.makerRef reason ∧
        proposeDeadLetterReplay state.tables request.id request.eventId tenantId request.makerRef reason = .ok tables) ∨
    (request ∈ state.tables.requests ∧
      next.tables.events.find? (·.id = request.eventId) = state.tables.events.find? (·.id = request.eventId)) := by
  have hsame : request ∈ state.tables.requests → (∀ row ∈ state.tables.events, row.id = request.eventId →
      row.status = .dead → row ∈ next.tables.events) →
      next.tables.events.find? (·.id = request.eventId) = state.tables.events.find? (·.id = request.eventId) := by
    intro hmem hkept
    obtain ⟨row, hrow, hid, hstatus⟩ := h.dead request hmem hpending
    rw [← hid, find_key_of_mem hrows.ids (hkept row hrow hid hstatus), find_key_of_mem h.rows.ids hrow]
  cases hmoves with
  | other hrequests hdead _ =>
    rw [hrequests] at hrequest
    exact Or.inr ⟨hrequest, hsame hrequest fun row hrow _ => hdead row hrow⟩
  | proposed hproposed =>
    obtain ⟨-, -, proposal, rfl, rfl, rfl, -, rfl⟩ := proposeDeadLetterReplay_spec hproposed
    obtain hold | hnew := List.mem_append.mp hrequest
    · exact Or.inr ⟨hold, rfl⟩
    · rw [List.mem_singleton.mp hnew]
      exact Or.inl ⟨_, _, _, rfl, hproposed⟩
  | decided hdecided =>
    obtain ⟨hmem, -, hkept⟩ := h.decided_keeps hdecided hrequest hpending
    exact Or.inr ⟨hmem, hsame hmem fun row hrow hid _ => hkept row hrow hid⟩

/-- A decided request stays as it is. -/
theorem ReplayMoves.decided_kept (h : ReplaysSound state) (hmoves : ReplayMoves state action next)
    {request : ReplayRequest} (hrequest : request ∈ state.tables.requests) (hstatus : request.status ≠ .pending) :
    request ∈ next.tables.requests := by
  cases hmoves with
  | other hrequests _ _ => rwa [hrequests]
  | proposed hproposed =>
    obtain ⟨-, -, _, -, -, -, -, rfl⟩ := proposeDeadLetterReplay_spec hproposed
    exact List.mem_append_left _ hrequest
  | @decided requestId checkerRef decision tables hdecided =>
    obtain ⟨own, hown, rfl, hpending, -, hends⟩ := decideDeadLetterReplay_spec hdecided
    have hne : request.id ≠ own.id := fun hid =>
      hstatus (List.inj_on_of_nodup_map h.ids hrequest hown hid ▸ hpending)
    obtain ⟨-, -, hrequests⟩ | ⟨-, -, hrequests⟩ := hends
    · rw [hrequests]
      exact List.mem_map.mpr ⟨request, hrequest, if_neg hne⟩
    · rw [hrequests]
      exact List.mem_map.mpr ⟨request, hrequest, if_neg hne⟩

end Invariants

/-- A dead event changes by the approval of its request alone. -/
theorem ReplayMoves.effect {next : QueueState} (hrows : next.Sound)
    (hmoves : ReplayMoves state action next) {eventId : String}
    (heffect : (replays platform).Effects state next eventId ()) :
    ∃ requestId makerRef checkerRef, makerRef ≠ checkerRef ∧
      (replays platform).Decides state action requestId checkerRef true ∧
      PendingReplay state requestId makerRef eventId () := by
  obtain ⟨row, hrow, changed, hchanged, rfl, hid, hdead, hne⟩ := heffect
  have hkept : row ∉ next.tables.events := fun hmem => hne (List.inj_on_of_nodup_map hrows.ids hchanged hmem hid)
  cases hmoves with
  | other _ hsame _ => exact absurd (hsame row hrow hdead) hkept
  | proposed hproposed =>
    obtain ⟨-, -, _, -, -, -, -, rfl⟩ := proposeDeadLetterReplay_spec hproposed
    exact absurd hrow hkept
  | @decided requestId checkerRef decision tables hdecided =>
    obtain ⟨request, hrequest, rfl, hpending, hdiffer, ⟨-, hevents, -⟩ | ⟨rfl, hothers, -⟩⟩ :=
      decideDeadLetterReplay_spec hdecided
    · exact absurd (hevents ▸ hrow) hkept
    · have hevent : row.id = request.eventId := by
        by_contra hother
        exact hkept (hothers row hrow hother)
      exact ⟨request.id, request.makerRef, checkerRef, hdiffer, ⟨"APPROVE", tables, rfl, hdecided, by simp⟩,
        request, hrequest, rfl, rfl, hevent.symm, hpending⟩

/-- Replays of dead letters follow the rules of a workflow. -/
theorem replays_lawful (platform : Platform) :
    (replays platform).Lawful ReplaysSound PendingReplay (fun _ _ => False) DecidedReplay where
  step _ _ h := replaysSound_step h
  pending := by
    rintro state action requestId makerRef eventId ⟨⟩ h ⟨request, hrequest, rfl, rfl, rfl, hpending⟩
    obtain hproposed | ⟨hmem, hview⟩ := (step_replayMoves h.rows.ids).pending h (step_sound h.rows) hrequest hpending
    · exact Or.inl hproposed
    · exact Or.inr ⟨⟨request, hmem, rfl, rfl, rfl, hpending⟩, Or.inl hview⟩
  overtaken _ hovertaken := hovertaken
  effect := by
    rintro state action eventId ⟨⟩ h heffect
    obtain ⟨requestId, makerRef, checkerRef, hdiffer, hdecides, hpending⟩ :=
      (step_replayMoves h.rows.ids).effect (step_sound h.rows) heffect
    exact ⟨requestId, makerRef, checkerRef, hdiffer, hdecides, hpending, not_false⟩
  decides := by
    rintro state action requestId checkerRef approve h ⟨decision, tables, rfl, hdecided, -⟩
    obtain ⟨request, hrequest, rfl, hpending, -, hends⟩ := decideDeadLetterReplay_spec hdecided
    refine ⟨?_, ?_⟩
    · rintro ⟨other, hother, hid, hstatus⟩
      rw [List.inj_on_of_nodup_map h.ids hother hrequest hid] at hstatus
      exact hstatus hpending
    · have hstep : step platform state (.decideDeadLetterReplay request.id checkerRef decision) =
          { state with tables } := by
        rw [step, hdecided]
        rfl
      have hids := decided_ids hdecided
      obtain ⟨next, hnext, hid⟩ := List.mem_map.mp (hids ▸ List.mem_map_of_mem hrequest : request.id ∈ _)
      refine ⟨next, ?_, hid, fun hstatus => (h.decided_keeps hdecided hnext hstatus).2.1 hid⟩
      change next ∈ (step platform state _).tables.requests
      rw [hstep]
      exact hnext
  decided := by
    rintro state action requestId h ⟨request, hrequest, rfl, hstatus⟩
    exact ⟨request, (step_replayMoves h.rows.ids).decided_kept h hrequest hstatus, rfl, hstatus⟩
  rejected := by
    rintro state action requestId checkerRef eventId ⟨⟩ h ⟨decision, tables, rfl, hdecided, hreject⟩ heffect
    obtain ⟨requestId', _, checkerRef', -, ⟨_, _, heq, _, happrove⟩, -⟩ :=
      (step_replayMoves h.rows.ids).effect (step_sound h.rows) heffect
    cases heq
    rw [happrove.mp rfl] at hreject
    exact absurd (hreject.mpr rfl) (by decide)

end rwa.outbox.queue
