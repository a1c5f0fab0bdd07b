import RwaControlPlane.Library.KeyedRows
import RwaControlPlane.Outbox.Deliveries

open checked js_value rwa.storage keyed_rows

namespace rwa.outbox

variable {ρ : Type} {platform : Platform} {state : InboxState ρ} {action : Action ρ}

/-- The state after a delivery has inserted its consumption. -/
def InboxState.record (state : InboxState ρ) (delivery : Delivery ρ) (handled : Handled ρ) (result : JsValue) :
    InboxState ρ :=
  { state.finish delivery (.ok ⟨false, orEmpty handled.result⟩) with
    tables :=
      { state.tables with
        consumptions := state.tables.consumptions ++
          [{ consumerName := delivery.consumerName, eventId := delivery.event.id
             payloadHash := delivery.event.payloadHash, result }]
        writes := state.tables.writes ++
          [{ consumerName := delivery.consumerName, eventId := delivery.event.id, delivery := delivery.id
             rows := handled.rows }] } }

/-- What one step can do to the state. -/
inductive Moves (platform : Platform) (state : InboxState ρ) : Action ρ → InboxState ρ → Prop
  | unchanged {action : Action ρ} : Moves platform state action state
  | enqueued {input : OutboxInput} {events : List OutboxEvent}
      (hevents : enqueueOutbox platform state.tables.events input = .ok events) :
      Moves platform state (.enqueueOutbox input) { state with tables := { state.tables with events } }
  | delivered {id : Nat} {consumerName : String} {event : OutboxEvent} (hfresh : ¬state.Used id) :
      Moves platform state (.deliver id consumerName event)
        { state with
          deliveries := state.deliveries ++
            [{ id, consumerName, event, attempt := 1, snapshot := none, handled := none }] }
  | opened {delivery : Delivery ρ} (hfound : state.find delivery.id = some delivery)
      (hsnapshot : delivery.snapshot = none) :
      Moves platform state (.read delivery.id) (state.put { delivery with snapshot := some state.tables })
  | handled {delivery : Delivery ρ} {snapshot : Tables ρ} {handled : Handled ρ}
      (hfound : state.find delivery.id = some delivery) (hsnapshot : delivery.snapshot = some snapshot)
      (hcheck : checkEvent platform snapshot.consumptions delivery.consumerName delivery.event = .ok none) :
      Moves platform state (.handle delivery.id (.ok handled)) (state.put { delivery with handled := some handled })
  | restarted {action : Action ρ} {delivery : Delivery ρ} (hfound : state.find delivery.id = some delivery)
      (hattempt : delivery.attempt ≠ 3) :
      Moves platform state action
        (state.put { delivery with attempt := delivery.attempt + 1, snapshot := none, handled := none })
  | failed {action : Action ρ} {delivery : Delivery ρ} {failure : Failure}
      (hfound : state.find delivery.id = some delivery) :
      Moves platform state action (state.finish delivery (.error failure))
  | answered {delivery : Delivery ρ} {snapshot : Tables ρ} {row : Consumption}
      (hfound : state.find delivery.id = some delivery) (hsnapshot : delivery.snapshot = some snapshot)
      (hrow : findConsumption snapshot.consumptions delivery.consumerName delivery.event.id = some row)
      (hhash : row.payloadHash = delivery.event.payloadHash) :
      Moves platform state (.commit delivery.id) (state.finish delivery (.ok ⟨true, row.result⟩))
  | recorded {delivery : Delivery ρ} {handled : Handled ρ} {result : JsValue}
      (hfound : state.find delivery.id = some delivery) (hhandled : delivery.handled = some handled)
      (hnone : findConsumption state.tables.consumptions delivery.consumerName delivery.event.id = none)
      (hresult : jsonParameter platform (orEmpty handled.result) = .ok result) :
      Moves platform state (.commit delivery.id) (state.record delivery handled result)

theorem InboxState.find_id {id : Nat} {delivery : Delivery ρ} (h : state.find id = some delivery) :
    delivery.id = id ∧ delivery ∈ state.deliveries := by
  have hid := List.find?_some h
  exact ⟨by simpa using hid, List.mem_of_find?_eq_some h⟩

theorem findConsumption_some {rows : List Consumption} {consumerName eventId : String} {row : Consumption}
    (h : findConsumption rows consumerName eventId = some row) : row ∈ rows ∧ row.key = (consumerName, eventId) := by
  have hkey := List.find?_some h
  exact ⟨List.mem_of_find?_eq_some h, by simpa using hkey⟩

theorem findConsumption_eq_none_iff {rows : List Consumption} {consumerName eventId : String} :
    findConsumption rows consumerName eventId = none ↔ (consumerName, eventId) ∉ rows.map Consumption.key := by
  simp [findConsumption, Consumption.key]

theorem checkEvent_some {rows : List Consumption} {consumerName : String} {event : OutboxEvent} {row : Consumption}
    (hrow : findConsumption rows consumerName event.id = some row) (hhash : row.payloadHash = event.payloadHash) :
    checkEvent platform rows consumerName event = .ok (some ⟨true, row.result⟩) := by
  rw [checkEvent, hrow]
  simp [throwIf, hhash, bind, Except.bind, pure, Except.pure]

theorem checkEvent_eq_some {rows : List Consumption} {consumerName : String} {event : OutboxEvent} {answer : Answer}
    (h : checkEvent platform rows consumerName event = .ok (some answer)) :
    ∃ row, findConsumption rows consumerName event.id = some row ∧ row.payloadHash = event.payloadHash ∧
      answer = ⟨true, row.result⟩ := by
  rw [checkEvent] at h
  split at h
  · next row hrow =>
    simp only [bind_eq_ok_iff, throwIf_eq_ok_iff, exists_unit, pure_eq_ok_iff, not_not, Option.some.injEq] at h
    exact ⟨row, hrow, h.1, h.2.symm⟩
  · simp only [bind_eq_ok_iff, throwIf_eq_ok_iff, pure_eq_ok_iff, reduceCtorEq, and_false, exists_false] at h

theorem recordConsumption_ok {snapshot tables next : Tables ρ} {id : Nat} {consumerName : String}
    {event : OutboxEvent} {handled : Handled ρ} {answer : Answer}
    (h : recordConsumption platform snapshot tables id consumerName event handled = .ok (answer, next)) :
    findConsumption tables.consumptions consumerName event.id = none ∧
      ∃ result, jsonParameter platform (orEmpty handled.result) = .ok result ∧
        answer = ⟨false, orEmpty handled.result⟩ ∧
        next = { tables with
          consumptions := tables.consumptions ++
            [{ consumerName, eventId := event.id, payloadHash := event.payloadHash, result }]
          writes := tables.writes ++
            [{ consumerName, eventId := event.id, delivery := id, rows := handled.rows }] } := by
  simp only [recordConsumption, bind_eq_ok_iff, throwIf_eq_ok_iff, exists_unit, pure_eq_ok_iff, Prod.mk.injEq] at h
  obtain ⟨result, hresult, -, hnone, -, hanswer, hnext⟩ := h
  exact ⟨by simpa using hnone, result, hresult, hanswer.symm, hnext.symm⟩

theorem attemptFailed_moves {delivery : Delivery ρ} {failure : Failure}
    (hfound : state.find delivery.id = some delivery) :
    Moves platform state action (state.attemptFailed delivery failure) := by
  unfold InboxState.attemptFailed
  split
  · exact .failed hfound
  · next hretry =>
    rw [not_or] at hretry
    exact .restarted hfound hretry.2

theorem handlerReturns_moves {delivery : Delivery ρ} {snapshot : Tables ρ} {outcome : Except Failure (Handled ρ)}
    (hfound : state.find delivery.id = some delivery) (hsnapshot : delivery.snapshot = some snapshot) :
    Moves platform state (.handle delivery.id outcome) (handlerReturns platform state delivery snapshot outcome) := by
  unfold handlerReturns
  split
  · next hcheck => exact .handled hfound hsnapshot hcheck
  · exact attemptFailed_moves hfound
  · exact .unchanged

theorem commitAttempt_moves {delivery : Delivery ρ} {snapshot : Tables ρ}
    (hfound : state.find delivery.id = some delivery) (hsnapshot : delivery.snapshot = some snapshot) :
    Moves platform state (.commit delivery.id) (commitAttempt platform state delivery snapshot) := by
  unfold commitAttempt
  split
  · exact attemptFailed_moves hfound
  · next answer hanswer =>
    obtain ⟨row, hrow, hhash, rfl⟩ := checkEvent_eq_some hanswer
    exact .answered hfound hsnapshot hrow hhash
  · split
    · exact .unchanged
    · next handled hhandled =>
      split
      · exact attemptFailed_moves hfound
      · next answer tables hrecord =>
        obtain ⟨hnone, result, hresult, rfl, rfl⟩ := recordConsumption_ok hrecord
        exact .recorded hfound hhandled hnone hresult

theorem read_moves {delivery : Delivery ρ} (hfound : state.find delivery.id = some delivery) :
    Moves platform state (.read delivery.id) (advance platform state delivery (.read delivery.id)) := by
  cases hsnapshot : delivery.snapshot with
  | none =>
    simp only [advance, hsnapshot]
    exact .opened hfound hsnapshot
  | some snapshot =>
    simp only [advance, hsnapshot]
    exact .unchanged

theorem handle_moves {delivery : Delivery ρ} {outcome : Except Failure (Handled ρ)}
    (hfound : state.find delivery.id = some delivery) :
    Moves platform state (.handle delivery.id outcome)
      (advance platform state delivery (.handle delivery.id outcome)) := by
  cases hsnapshot : delivery.snapshot with
  | none =>
    simp only [advance, hsnapshot]
    exact .unchanged
  | some snapshot =>
    simp only [advance, hsnapshot]
    split
    · exact .unchanged
    · exact handlerReturns_moves hfound hsnapshot

theorem commit_moves {delivery : Delivery ρ} (hfound : state.find delivery.id = some delivery) :
    Moves platform state (.commit delivery.id) (advance platform state delivery (.commit delivery.id)) := by
  cases hsnapshot : delivery.snapshot with
  | none =>
    simp only [advance, hsnapshot]
    exact .unchanged
  | some snapshot =>
    simp only [advance, hsnapshot]
    exact commitAttempt_moves hfound hsnapshot

/-- Every step is one of the moves. -/
theorem step_moves : Moves platform state action (step platform state action) := by
  cases action with
  | enqueueOutbox input =>
    rw [step]
    split
    · next events hevents => exact .enqueued hevents
    · exact .unchanged
  | deliver id consumerName event =>
    rw [step]
    split
    · exact .unchanged
    · next hfresh => exact .delivered hfresh
  | read id | handle id outcome | commit id | fail id failure =>
    simp only [step]
    split
    · next delivery hfound =>
      obtain ⟨rfl, -⟩ := state.find_id hfound
      first
        | exact read_moves hfound
        | exact handle_moves hfound
        | exact commit_moves hfound
        | exact attemptFailed_moves hfound
    · exact .unchanged

/-- What holds in every reachable state: each consumption stands beside the rows
of its handler and comes from one delivery, whose answer is what the consumption
is a copy of. -/
structure InboxState.Sound (platform : Platform) (state : InboxState ρ) : Prop where
  ids : (state.deliveries.map Delivery.id).Nodup
  ended : (state.outcomes.map Outcome.id).Nodup
  apart : ∀ delivery ∈ state.deliveries, delivery.id ∉ state.outcomes.map Outcome.id
  keys : (state.tables.consumptions.map Consumption.key).Nodup
  beside : state.tables.writes.map HandlerWrites.key = state.tables.consumptions.map Consumption.key
  written : ∀ writes ∈ state.tables.writes, ∃ outcome ∈ state.outcomes, outcome.id = writes.delivery ∧
    ∃ answer, outcome.answer = .ok answer
  copied : ∀ outcome ∈ state.outcomes, ∀ answer, outcome.answer = .ok answer →
    ∃ row ∈ state.tables.consumptions, row.key = outcome.key ∧
      (answer.duplicate = true → answer.result = row.result) ∧
      (answer.duplicate = false → jsonCopy platform.isoText answer.result = some row.result)
  seen : ∀ delivery ∈ state.deliveries, ∀ snapshot, delivery.snapshot = some snapshot →
    snapshot.consumptions <+: state.tables.consumptions

theorem jsonParameter_eq_ok {value copy : JsValue} (h : jsonParameter platform value = .ok copy) :
    jsonCopy platform.isoText value = some copy := by
  obtain ⟨stored, hstored, hcopy⟩ := bind_eq_ok_iff.mp h
  rw [rethrow_eq_ok_iff, js_value.stored] at hstored
  rw [require_eq_ok_iff] at hcopy
  split at hstored
  · cases hstored
  · exact (Except.ok.inj hstored).trans hcopy

theorem empty_sound : (InboxState.empty : InboxState ρ).Sound platform := by
  constructor <;> simp [InboxState.empty]

section Ends

variable {delivery : Delivery ρ} (answer : Except Failure Answer)

theorem finish_ended (h : state.Sound platform) (hfound : state.find delivery.id = some delivery) :
    ((state.finish delivery answer).outcomes.map Outcome.id).Nodup := by
  refine nodup_concat h.ended ?_
  exact h.apart delivery (state.find_id hfound).2

theorem finish_apart (h : state.Sound platform) :
    ∀ row ∈ (state.finish delivery answer).deliveries,
      row.id ∉ (state.finish delivery answer).outcomes.map Outcome.id := by
  intro row hrow
  obtain ⟨hmem, hne⟩ := List.mem_filter.mp hrow
  have hother : row.id ≠ delivery.id := by simpa using hne
  have hold := h.apart row hmem
  simp only [InboxState.finish, List.map_append, List.map_cons, List.map_nil, List.mem_append, List.mem_singleton]
  rintro (hended | hsame)
  · exact hold hended
  · exact hother hsame

theorem finish_seen (h : state.Sound platform) :
    ∀ row ∈ (state.finish delivery answer).deliveries, ∀ snapshot, row.snapshot = some snapshot →
      snapshot.consumptions <+: state.tables.consumptions := fun row hrow =>
  h.seen row (List.mem_filter.mp hrow).1

theorem finish_ids (h : state.Sound platform) :
    ((state.finish delivery answer).deliveries.map Delivery.id).Nodup :=
  h.ids.sublist (List.filter_sublist.map _)

variable {answer} in
/-- The end of a delivery that does not record a consumption. -/
theorem finish_sound (h : state.Sound platform) (hfound : state.find delivery.id = some delivery)
    (hcopied : ∀ given, answer = .ok given →
      ∃ row ∈ state.tables.consumptions, row.key = (delivery.consumerName, delivery.event.id) ∧
        (given.duplicate = true → given.result = row.result) ∧
        (given.duplicate = false → jsonCopy platform.isoText given.result = some row.result)) :
    (state.finish delivery answer).Sound platform := by
  refine ⟨finish_ids _ h, finish_ended _ h hfound, finish_apart _ h, h.keys, h.beside, ?_, ?_, finish_seen _ h⟩
  · intro writes hwrites
    exact exists_mem_append (h.written writes hwrites)
  · intro outcome houtcome given hgiven
    rcases List.mem_append.mp houtcome with hold | hnew
    · exact h.copied outcome hold given hgiven
    · obtain rfl := List.mem_singleton.mp hnew
      exact hcopied given hgiven

end Ends

theorem put_sound {delivery changed : Delivery ρ} (h : state.Sound platform)
    (hfound : state.find delivery.id = some delivery)
    (hsnapshot : changed.snapshot = none ∨ changed.snapshot = some state.tables ∨
      changed.snapshot = delivery.snapshot) : (state.put changed).Sound platform := by
  have hids : (state.put changed).deliveries.map Delivery.id = state.deliveries.map Delivery.id := by
    rw [InboxState.put, List.map_map]
    apply List.map_congr_left
    intro row _
    by_cases hrow : row.id = changed.id <;> simp [hrow]
  have hmem := (state.find_id hfound).2
  refine ⟨by rw [hids]; exact h.ids, h.ended, ?_, h.keys, h.beside, h.written, h.copied, ?_⟩
  · intro row hrow
    have hrow := hids ▸ List.mem_map_of_mem hrow
    obtain ⟨existing, hexisting, hsame⟩ := List.mem_map.mp hrow
    exact hsame ▸ h.apart existing hexisting
  · intro row hrow snapshot hrows
    obtain ⟨existing, hexisting, rfl⟩ := List.mem_map.mp hrow
    by_cases hsame : existing.id = changed.id
    · rw [if_pos hsame] at hrows
      obtain hnone | hnow | hkept := hsnapshot
      · rw [hnone] at hrows
        cases hrows
      · obtain rfl := Option.some.inj (hnow.symm.trans hrows)
        exact List.prefix_refl _
      · exact h.seen delivery hmem snapshot (hkept ▸ hrows)
    · rw [if_neg hsame] at hrows
      exact h.seen existing hexisting snapshot hrows

theorem record_sound {delivery : Delivery ρ} {handled : Handled ρ} {result : JsValue} (h : state.Sound platform)
    (hfound : state.find delivery.id = some delivery)
    (hnone : findConsumption state.tables.consumptions delivery.consumerName delivery.event.id = none)
    (hresult : jsonParameter platform (orEmpty handled.result) = .ok result) :
    (state.record delivery handled result).Sound platform := by
  let answer : Except Failure Answer := .ok ⟨false, orEmpty handled.result⟩
  refine ⟨finish_ids answer h, finish_ended _ h hfound, finish_apart _ h, ?_, ?_, ?_, ?_, ?_⟩
  · exact nodup_concat h.keys (findConsumption_eq_none_iff.mp hnone)
  · simp only [InboxState.record, List.map_append, h.beside]
    rfl
  · intro writes hwrites
    rcases List.mem_append.mp hwrites with hold | hnew
    · exact exists_mem_append (h.written writes hold)
    · obtain rfl := List.mem_singleton.mp hnew
      exact ⟨_, List.mem_append_right _ (List.mem_singleton_self _), rfl, _, rfl⟩
  · intro outcome houtcome answer hanswer
    rcases List.mem_append.mp houtcome with hold | hnew
    · exact exists_mem_append (h.copied outcome hold answer hanswer)
    · obtain rfl := List.mem_singleton.mp hnew
      obtain rfl := Except.ok.inj hanswer
      exact ⟨_, List.mem_append_right _ (List.mem_singleton_self _), rfl, nofun, fun _ => jsonParameter_eq_ok hresult⟩
  · intro row hrow snapshot hsnapshot
    exact (finish_seen answer h row hrow snapshot hsnapshot).trans (List.prefix_append _ _)

theorem step_sound (h : state.Sound platform) : (step platform state action).Sound platform := by
  have hmoves := @step_moves ρ platform state action
  generalize step platform state action = next at hmoves ⊢
  cases hmoves with
  | unchanged => exact h
  | enqueued hevents => exact { h with }
  | delivered hfresh =>
    rw [InboxState.Used, not_or] at hfresh
    refine { h with ids := nodup_concat h.ids hfresh.1, apart := ?_, seen := ?_ }
    · intro row hrow
      rcases List.mem_append.mp hrow with hold | hnew
      · exact h.apart row hold
      · obtain rfl := List.mem_singleton.mp hnew
        exact hfresh.2
    · intro row hrow snapshot hsnapshot
      rcases List.mem_append.mp hrow with hold | hnew
      · exact h.seen row hold snapshot hsnapshot
      · obtain rfl := List.mem_singleton.mp hnew
        cases hsnapshot
  | opened hfound hsnapshot => exact put_sound h hfound (Or.inr (Or.inl rfl))
  | handled hfound hsnapshot hcheck => exact put_sound h hfound (Or.inr (Or.inr rfl))
  | restarted hfound hattempt => exact put_sound h hfound (Or.inl rfl)
  | failed hfound => exact finish_sound h hfound nofun
  | answered hfound hsnapshot hrow hhash =>
    refine finish_sound h hfound fun given hgiven => ?_
    obtain rfl := Except.ok.inj hgiven
    obtain ⟨hmem, hkey⟩ := findConsumption_some hrow
    have hprefix := h.seen _ (state.find_id hfound).2 _ hsnapshot
    exact ⟨_, hprefix.subset hmem, hkey, fun _ => rfl, nofun⟩
  | recorded hfound hhandled hnone hresult => exact record_sound h hfound hnone hresult

theorem run_sound (actions : List (Action ρ)) : (run platform actions).Sound platform :=
  runs.run_invariant empty_sound (fun _ _ h => step_sound h) actions

end rwa.outbox
