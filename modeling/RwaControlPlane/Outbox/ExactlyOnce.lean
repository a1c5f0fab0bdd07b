import RwaControlPlane.Outbox.Reachable

open checked js_value rwa.storage runs

namespace rwa.outbox

variable {ρ : Type} (platform : Platform)

/-- An event that a consumer can take: its payload has its hash, it stands in the
outbox, and it was not consumed with another hash. -/
structure Deliverable (tables : Tables ρ) (consumerName : String) (event : OutboxEvent) : Prop where
  untampered : sha256Canonical platform event.payload = .ok event.payloadHash
  hashed : IsHash event.payloadHash
  enqueued : ∃ row ∈ tables.events, row.id = event.id
  agreed : ∀ row ∈ tables.consumptions, row.key = (consumerName, event.id) → row.payloadHash = event.payloadHash

/-- A delivery that nothing interferes with, to a handler that does not throw. -/
def delivered (state : InboxState ρ) (id : Nat) (consumerName : String) (event : OutboxEvent) (handled : Handled ρ) :
    InboxState ρ :=
  runs.run (step platform) state
    [.deliver id consumerName event, .read id, .handle id (.ok handled), .commit id]

/-- Whether JSON reads a value back as it is. -/
def ReadsBack (value : JsValue) : Prop := jsonCopy platform.isoText value = some value

/-- What the inbox promises: the rows of the handler of an event are committed at
most once, and are if a delivery succeeds. A delivery that fails has committed
none, and the event can be delivered again. All deliveries that succeed give the
same result. -/
structure ExactlyOnce (state : InboxState ρ) : Prop where
  atMostOnce : (state.tables.writes.map HandlerWrites.key).Nodup
  atLeastOnce : ∀ outcome ∈ state.outcomes, ∀ answer, outcome.answer = .ok answer →
    ∃ writes ∈ state.tables.writes, writes.key = outcome.key
  failedCommitsNothing : ∀ outcome ∈ state.outcomes, ∀ failure, outcome.answer = .error failure →
    ∀ writes ∈ state.tables.writes, writes.delivery ≠ outcome.id
  retriable : ∀ outcome ∈ state.outcomes, ∀ failure, outcome.answer = .error failure →
    Deliverable platform state.tables outcome.consumerName outcome.event →
    ∀ id handled, ¬state.Used id → hasBigInt (orEmpty handled.result) = false →
    ∃ answer, ⟨id, outcome.consumerName, outcome.event, .ok answer⟩ ∈
      (delivered platform state id outcome.consumerName outcome.event handled).outcomes
  sameResult : ∀ first ∈ state.outcomes, ∀ second ∈ state.outcomes, first.key = second.key →
    ∀ answer other, first.answer = .ok answer → second.answer = .ok other → answer.result = other.result

/-- A delivery finds the event consumed before, by a handler whose result JSON
does not read back as it is. -/
def Rereads (state : InboxState ρ) (action : Action ρ) : Prop :=
  ∃ delivery snapshot row, action = .commit delivery.id ∧ state.find delivery.id = some delivery ∧
    delivery.snapshot = some snapshot ∧
    findConsumption snapshot.consumptions delivery.consumerName delivery.event.id = some row ∧
    row.payloadHash = delivery.event.payloadHash ∧
    ∃ first ∈ state.outcomes, first.key = (delivery.consumerName, delivery.event.id) ∧
      ∃ result, first.answer = .ok ⟨false, result⟩ ∧ ¬ReadsBack platform result

variable {platform} {state : InboxState ρ} {action : Action ρ}

theorem InboxState.Sound.outcome_unique (h : state.Sound platform) {first second : Outcome}
    (hfirst : first ∈ state.outcomes) (hsecond : second ∈ state.outcomes) (hid : first.id = second.id) :
    first = second :=
  List.inj_on_of_nodup_map h.ended hfirst hsecond hid

theorem InboxState.Sound.consumption_unique (h : state.Sound platform) {first second : Consumption}
    (hfirst : first ∈ state.tables.consumptions) (hsecond : second ∈ state.tables.consumptions)
    (hkey : first.key = second.key) : first = second :=
  List.inj_on_of_nodup_map h.keys hfirst hsecond hkey

theorem InboxState.Sound.atLeastOnce (h : state.Sound platform) {outcome : Outcome} {answer : Answer}
    (houtcome : outcome ∈ state.outcomes) (hanswer : outcome.answer = .ok answer) :
    ∃ writes ∈ state.tables.writes, writes.key = outcome.key := by
  obtain ⟨row, hrow, hkey, -⟩ := h.copied outcome houtcome answer hanswer
  have hmem := @List.mem_map_of_mem _ _ _ _ Consumption.key hrow
  rw [← h.beside, hkey] at hmem
  exact List.mem_map.mp hmem

theorem InboxState.Sound.failedCommitsNothing (h : state.Sound platform) {outcome : Outcome} {failure : Failure}
    (houtcome : outcome ∈ state.outcomes) (hanswer : outcome.answer = .error failure) {writes : HandlerWrites ρ}
    (hwrites : writes ∈ state.tables.writes) : writes.delivery ≠ outcome.id := by
  intro hsame
  obtain ⟨writer, hwriter, hid, answer, hok⟩ := h.written writes hwrites
  obtain rfl := h.outcome_unique hwriter houtcome (hid.trans hsame)
  rw [hanswer] at hok
  cases hok

/-- A value without a BigInt can be stored as JSON, as soon as it is one. -/
theorem jsonParameter_orEmpty {value : JsValue} (h : hasBigInt (orEmpty value) = false) :
    ∃ copy, jsonParameter platform (orEmpty value) = .ok copy := by
  have hcopy : ∃ copy, jsonCopy platform.isoText (orEmpty value) = some copy := by
    cases value with
    | bigint value => cases h
    | undefined | null | bool | number | notFinite | string | date | array | object => exact ⟨_, rfl⟩
  obtain ⟨copy, hcopy⟩ := hcopy
  refine ⟨copy, ?_⟩
  rw [jsonParameter, stored, if_neg (by simp [h]), hcopy]
  rfl

/-- A delivery that has just arrived. -/
def fresh (id : Nat) (consumerName : String) (event : OutboxEvent) : Delivery ρ :=
  { id, consumerName, event, attempt := 1, snapshot := none, handled := none }

theorem find_put {delivery changed : Delivery ρ} (hfound : state.find changed.id = some delivery) :
    (state.put changed).find changed.id = some changed := by
  have hsame : (fun row : Delivery ρ => decide ((if row.id = changed.id then changed else row).id = changed.id)) =
      fun row => decide (row.id = changed.id) := by
    funext row
    by_cases hrow : row.id = changed.id <;> simp [hrow]
  rw [InboxState.find, InboxState.put, List.find?_map, Function.comp_def, hsame]
  rw [InboxState.find] at hfound
  rw [hfound, Option.map_some, if_pos (by simpa using List.find?_some hfound)]

theorem step_deliver {id : Nat} {consumerName : String} {event : OutboxEvent} (hfresh : ¬state.Used id) :
    ∃ next, step platform state (.deliver id consumerName event) = next ∧ next.tables = state.tables ∧
      next.find id = some (fresh id consumerName event) := by
  refine ⟨_, rfl, ?_, ?_⟩
  · rw [step, if_neg hfresh]
  · have habsent : state.deliveries.find? (·.id = id) = none := by
      rw [InboxState.Used, not_or] at hfresh
      rw [List.find?_eq_none]
      intro row hrow hid
      exact hfresh.1 (List.mem_map.mpr ⟨row, hrow, by simpa using hid⟩)
    rw [step, if_neg hfresh, InboxState.find, List.find?_append, habsent]
    simp [fresh]

theorem step_read {delivery : Delivery ρ} (hfound : state.find delivery.id = some delivery)
    (hsnapshot : delivery.snapshot = none) :
    step platform state (.read delivery.id) = state.put { delivery with snapshot := some state.tables } := by
  simp only [step, hfound, advance, hsnapshot]

theorem step_handle {delivery : Delivery ρ} {snapshot : Tables ρ} {handled : Handled ρ}
    (hfound : state.find delivery.id = some delivery) (hsnapshot : delivery.snapshot = some snapshot)
    (hhandled : delivery.handled = none)
    (hcheck : checkEvent platform snapshot.consumptions delivery.consumerName delivery.event = .ok none) :
    step platform state (.handle delivery.id (.ok handled)) = state.put { delivery with handled := some handled } := by
  simp only [step, hfound, advance, hsnapshot, hhandled, handlerReturns, hcheck]
  rfl

theorem step_handle_of_consumed {delivery : Delivery ρ} {snapshot : Tables ρ} {answer : Answer}
    {outcome : Except Failure (Handled ρ)} (hfound : state.find delivery.id = some delivery)
    (hsnapshot : delivery.snapshot = some snapshot)
    (hcheck : checkEvent platform snapshot.consumptions delivery.consumerName delivery.event = .ok (some answer)) :
    step platform state (.handle delivery.id outcome) = state := by
  simp only [step, hfound, advance, hsnapshot, handlerReturns, hcheck, ite_self]

theorem step_commit_of_consumed {delivery : Delivery ρ} {snapshot : Tables ρ} {answer : Answer}
    (hfound : state.find delivery.id = some delivery) (hsnapshot : delivery.snapshot = some snapshot)
    (hcheck : checkEvent platform snapshot.consumptions delivery.consumerName delivery.event = .ok (some answer)) :
    step platform state (.commit delivery.id) = state.finish delivery (.ok answer) := by
  simp only [step, hfound, advance, hsnapshot, commitAttempt, hcheck]

theorem step_commit {delivery : Delivery ρ} {snapshot tables : Tables ρ} {handled : Handled ρ} {answer : Answer}
    (hfound : state.find delivery.id = some delivery) (hsnapshot : delivery.snapshot = some snapshot)
    (hhandled : delivery.handled = some handled)
    (hcheck : checkEvent platform snapshot.consumptions delivery.consumerName delivery.event = .ok none)
    (hrecord : recordConsumption platform snapshot state.tables delivery.id delivery.consumerName delivery.event
      handled = .ok (answer, tables)) :
    step platform state (.commit delivery.id) = { state.finish delivery (.ok answer) with tables } := by
  simp only [step, hfound, advance, hsnapshot, commitAttempt, hcheck, hhandled, hrecord]

/-- A delivery alone succeeds, whether the event was consumed before or not. -/
theorem delivered_succeeds {id : Nat} {consumerName : String} {event : OutboxEvent} {handled : Handled ρ}
    (h : Deliverable platform state.tables consumerName event) (hfresh : ¬state.Used id)
    (hstorable : hasBigInt (orEmpty handled.result) = false) :
    ∃ answer, ⟨id, consumerName, event, .ok answer⟩ ∈
      (delivered platform state id consumerName event handled).outcomes := by
  obtain ⟨started, hstarted, htables, hfound⟩ := @step_deliver ρ platform state id consumerName event hfresh
  let reading : Delivery ρ := { fresh id consumerName event with snapshot := some started.tables }
  have hread : step platform started (.read id) = started.put reading :=
    @step_read ρ platform started (fresh id consumerName event) hfound rfl
  have hreading : (started.put reading).find id = some reading := @find_put ρ started _ reading hfound
  rw [delivered, run_cons, run_cons, run_cons, run_cons, run_nil, hstarted, hread]
  cases hconsumed : findConsumption state.tables.consumptions consumerName event.id with
  | some row =>
    have hrow := findConsumption_some hconsumed
    have hcheck : checkEvent platform started.tables.consumptions consumerName event = .ok
      (some ⟨true, row.result⟩) := by
      rw [htables]
      exact checkEvent_some hconsumed (h.agreed row hrow.1 hrow.2)
    have hhandle : step platform (started.put reading) (.handle id (.ok handled)) = started.put reading :=
      @step_handle_of_consumed ρ platform (started.put reading) reading _ _ _ hreading rfl hcheck
    have hcommit : step platform (started.put reading) (.commit id) =
        (started.put reading).finish reading (.ok ⟨true, row.result⟩) :=
      @step_commit_of_consumed ρ platform (started.put reading) reading _ _ hreading rfl hcheck
    rw [hhandle, hcommit]
    exact ⟨_, List.mem_append_right _ (List.mem_singleton_self _)⟩
  | none =>
    have hcheck : checkEvent platform started.tables.consumptions consumerName event = .ok none := by
      rw [htables, checkEvent, hconsumed]
      simp [h.untampered, throwIf, bind, Except.bind, pure, Except.pure]
    let ready : Delivery ρ := { reading with handled := some handled }
    have hhandle : step platform (started.put reading) (.handle id (.ok handled)) = (started.put reading).put ready :=
      @step_handle ρ platform (started.put reading) reading _ _ hreading rfl rfl hcheck
    have hready : ((started.put reading).put ready).find id = some ready :=
      @find_put ρ (started.put reading) _ ready hreading
    obtain ⟨copy, hcopy⟩ := @jsonParameter_orEmpty platform _ hstorable
    have hrecord : ∃ answer tables, recordConsumption platform started.tables started.tables id consumerName event
        handled = .ok (answer, tables) := by
      rw [htables, recordConsumption, hcopy]
      have henqueued := h.enqueued
      simp [h.hashed, hconsumed, henqueued, throwIf, bind, Except.bind, pure, Except.pure]
    obtain ⟨answer, tables, hrecord⟩ := hrecord
    have hcommit : step platform ((started.put reading).put ready) (.commit id) =
        { ((started.put reading).put ready).finish ready (.ok answer) with tables } :=
      @step_commit ρ platform ((started.put reading).put ready) ready _ _ _ _ hready rfl rfl hcheck hrecord
    rw [hhandle, hcommit]
    exact ⟨answer, List.mem_append_right _ (List.mem_singleton_self _)⟩

/-- All deliveries that have succeeded gave the same result. -/
def SameResult (state : InboxState ρ) : Prop :=
  ∀ first ∈ state.outcomes, ∀ second ∈ state.outcomes, first.key = second.key →
    ∀ answer other, first.answer = .ok answer → second.answer = .ok other → answer.result = other.result

theorem exactlyOnce_iff (h : state.Sound platform) : ExactlyOnce platform state ↔ SameResult state := by
  refine ⟨fun honce => honce.sameResult, fun hsame => ?_⟩
  constructor
  · rw [h.beside]
    exact h.keys
  · exact fun outcome houtcome answer => h.atLeastOnce houtcome
  · exact fun outcome houtcome failure hanswer writes => h.failedCommitsNothing houtcome hanswer
  · exact fun outcome _ failure _ hdeliverable id handled => delivered_succeeds hdeliverable
  · exact hsame

section Finish

variable {delivery : Delivery ρ}

/-- A delivery that fails gives no result. -/
theorem sameResult_finish_error {failure : Failure} :
    SameResult (state.finish delivery (.error failure)) ↔ SameResult state := by
  have hold : ∀ outcome ∈ (state.finish delivery (.error failure)).outcomes, ∀ answer,
      outcome.answer = .ok answer → outcome ∈ state.outcomes := by
    intro outcome houtcome answer hanswer
    rcases List.mem_append.mp houtcome with hmem | hnew
    · exact hmem
    · obtain rfl := List.mem_singleton.mp hnew
      cases hanswer
  constructor
  · intro h first hfirst second hsecond
    exact h first (List.mem_append_left _ hfirst) second (List.mem_append_left _ hsecond)
  · intro h first hfirst second hsecond hkey answer other hanswer hother
    exact h first (hold first hfirst answer hanswer) second (hold second hsecond other hother) hkey answer other
      hanswer hother

/-- A delivery that succeeds has to give the result of those before it. -/
theorem sameResult_finish_ok {given : Answer} :
    SameResult (state.finish delivery (.ok given)) ↔
      SameResult state ∧ ∀ first ∈ state.outcomes, first.key = (delivery.consumerName, delivery.event.id) →
        ∀ answer, first.answer = .ok answer → answer.result = given.result := by
  have hnew : ⟨delivery.id, delivery.consumerName, delivery.event, .ok given⟩ ∈
      (state.finish delivery (.ok given)).outcomes := List.mem_append_right _ (List.mem_singleton_self _)
  constructor
  · intro h
    refine ⟨fun first hfirst second hsecond => ?_, fun first hfirst hkey answer hanswer => ?_⟩
    · exact h first (List.mem_append_left _ hfirst) second (List.mem_append_left _ hsecond)
    · exact h first (List.mem_append_left _ hfirst) _ hnew hkey answer given hanswer rfl
  · rintro ⟨hstate, hgiven⟩ first hfirst second hsecond hkey answer other hanswer hother
    rcases List.mem_append.mp hfirst with hfirst | hfirst
    · rcases List.mem_append.mp hsecond with hsecond | hsecond
      · exact hstate first hfirst second hsecond hkey answer other hanswer hother
      · obtain rfl := List.mem_singleton.mp hsecond
        obtain rfl := Except.ok.inj hother
        exact hgiven first hfirst hkey answer hanswer
    · obtain rfl := List.mem_singleton.mp hfirst
      obtain rfl := Except.ok.inj hanswer
      rcases List.mem_append.mp hsecond with hsecond | hsecond
      · exact (hgiven second hsecond hkey.symm other hother).symm
      · obtain rfl := List.mem_singleton.mp hsecond
        exact congrArg Answer.result (Except.ok.inj hother)

end Finish

/-- A later delivery gives the result of the earlier ones exactly if the first
result is read back as it is. -/
theorem sameResult_answered {delivery : Delivery ρ} {row : Consumption} (h : state.Sound platform)
    (hrow : row ∈ state.tables.consumptions) (hkey : row.key = (delivery.consumerName, delivery.event.id)) :
    (∀ first ∈ state.outcomes, first.key = (delivery.consumerName, delivery.event.id) →
        ∀ answer, first.answer = .ok answer → answer.result = row.result) ↔
      ¬∃ first ∈ state.outcomes, first.key = (delivery.consumerName, delivery.event.id) ∧
        ∃ result, first.answer = .ok ⟨false, result⟩ ∧ ¬ReadsBack platform result := by
  constructor
  · rintro hall ⟨first, hfirst, hsame, result, hanswer, hnot⟩
    obtain ⟨stored, hstored, hfirstKey, -, hcopy⟩ := h.copied first hfirst _ hanswer
    obtain rfl := h.consumption_unique hstored hrow (hfirstKey.trans (hsame.trans hkey.symm))
    have hresult : result = stored.result := hall first hfirst hsame _ hanswer
    exact hnot (hresult ▸ hcopy rfl)
  · intro hnone first hfirst hsame answer hanswer
    obtain ⟨stored, hstored, hfirstKey, hduplicate, hcopy⟩ := h.copied first hfirst _ hanswer
    obtain rfl := h.consumption_unique hstored hrow (hfirstKey.trans (hsame.trans hkey.symm))
    obtain ⟨duplicate, result⟩ := answer
    cases duplicate with
    | true => exact hduplicate rfl
    | false =>
      by_contra hne
      refine hnone ⟨first, hfirst, hsame, result, hanswer, fun hback => hne ?_⟩
      exact Option.some.inj (hback.symm.trans (hcopy rfl))

/-- A step keeps the promise exactly if it does not answer with a result that was
changed by JSON. -/
theorem step_exactlyOnce (h : state.Sound platform) (honce : ExactlyOnce platform state) :
    ExactlyOnce platform (step platform state action) ↔ ¬Rereads platform state action := by
  rw [exactlyOnce_iff (step_sound h)]
  have hsame := honce.sameResult
  constructor
  · rintro hnext ⟨delivery, snapshot, row, rfl, hfound, hsnapshot, hrow, hhash, hfirst⟩
    rw [step_commit_of_consumed hfound hsnapshot (checkEvent_some hrow hhash), sameResult_finish_ok] at hnext
    obtain ⟨hmem, hkey⟩ := findConsumption_some hrow
    have hseen := (h.seen delivery (state.find_id hfound).2 snapshot hsnapshot).subset hmem
    exact (sameResult_answered h hseen hkey).mp hnext.2 hfirst
  · intro hnot
    have hmoves := @step_moves ρ platform state action
    generalize step platform state action = next at hmoves ⊢
    cases hmoves with
    | unchanged | enqueued | delivered | opened | handled | restarted => exact hsame
    | failed hfound => exact sameResult_finish_error.mpr hsame
    | answered hfound hsnapshot hrow hhash =>
      obtain ⟨hmem, hkey⟩ := findConsumption_some hrow
      have hseen := (h.seen _ (state.find_id hfound).2 _ hsnapshot).subset hmem
      refine sameResult_finish_ok.mpr ⟨hsame, (sameResult_answered h hseen hkey).mpr fun hfirst => hnot ?_⟩
      exact ⟨_, _, _, rfl, hfound, hsnapshot, hrow, hhash, hfirst⟩
    | recorded hfound hhandled hnone hresult =>
      refine sameResult_finish_ok.mpr ⟨hsame, fun first hfirst hkey answer hanswer => ?_⟩
      obtain ⟨row, hrow, hrowKey, -⟩ := h.copied first hfirst answer hanswer
      exact absurd (hkey ▸ hrowKey ▸ List.mem_map_of_mem hrow) (findConsumption_eq_none_iff.mp hnone)

/-- Everything that a handler has returned is read back as it is. -/
structure AllReadBack (platform : Platform) (state : InboxState ρ) : Prop where
  pending : ∀ delivery ∈ state.deliveries, ∀ handled, delivery.handled = some handled →
    ReadsBack platform (orEmpty handled.result)
  ended : ∀ outcome ∈ state.outcomes, ∀ result, outcome.answer = .ok ⟨false, result⟩ → ReadsBack platform result

theorem AllReadBack.not_rereads (h : AllReadBack platform state) : ¬Rereads platform state action := by
  rintro ⟨delivery, snapshot, row, -, -, -, -, -, first, hfirst, -, result, hanswer, hnot⟩
  exact hnot (h.ended first hfirst result hanswer)

theorem AllReadBack.put {delivery : Delivery ρ} (h : AllReadBack platform state)
    (hhandled : ∀ handled, delivery.handled = some handled → ReadsBack platform (orEmpty handled.result)) :
    AllReadBack platform (state.put delivery) := by
  refine ⟨?_, h.ended⟩
  intro row hrow handled hsome
  obtain ⟨existing, hexisting, rfl⟩ := List.mem_map.mp hrow
  by_cases hsame : existing.id = delivery.id
  · rw [if_pos hsame] at hsome
    exact hhandled handled hsome
  · rw [if_neg hsame] at hsome
    exact h.pending existing hexisting handled hsome

theorem AllReadBack.finish {delivery : Delivery ρ} {answer : Except Failure Answer} (h : AllReadBack platform state)
    (hanswer : ∀ result, answer = .ok ⟨false, result⟩ → ReadsBack platform result) :
    AllReadBack platform (state.finish delivery answer) := by
  refine ⟨fun row hrow => h.pending row (List.mem_filter.mp hrow).1, ?_⟩
  intro outcome houtcome result hresult
  rcases List.mem_append.mp houtcome with hold | hnew
  · exact h.ended outcome hold result hresult
  · obtain rfl := List.mem_singleton.mp hnew
    exact hanswer result hresult

theorem step_allReadBack (h : AllReadBack platform state)
    (hreturns : ∀ id handled, action = .handle id (.ok handled) → ReadsBack platform (orEmpty handled.result)) :
    AllReadBack platform (step platform state action) := by
  have hmoves := @step_moves ρ platform state action
  generalize step platform state action = next at hmoves ⊢
  cases hmoves with
  | unchanged => exact h
  | enqueued hevents => exact ⟨h.pending, h.ended⟩
  | delivered hfresh =>
    refine ⟨?_, h.ended⟩
    intro row hrow handled hsome
    rcases List.mem_append.mp hrow with hold | hnew
    · exact h.pending row hold handled hsome
    · obtain rfl := List.mem_singleton.mp hnew
      cases hsome
  | opened hfound hsnapshot =>
    have hpending := h.pending _ (state.find_id hfound).2
    exact h.put hpending
  | handled hfound hsnapshot hcheck =>
    refine h.put fun handled hsome => ?_
    obtain rfl := Option.some.inj hsome
    exact hreturns _ _ rfl
  | restarted hfound hattempt => exact h.put nofun
  | failed hfound => exact h.finish nofun
  | answered hfound hsnapshot hrow hhash => exact h.finish fun result hresult => by cases hresult
  | recorded hfound hhandled hnone hresult =>
    have hpending := h.pending _ (state.find_id hfound).2 _ hhandled
    refine ⟨fun row hrow => h.pending row (List.mem_filter.mp hrow).1, ?_⟩
    intro outcome houtcome result hanswer
    rcases List.mem_append.mp houtcome with hold | hnew
    · exact h.ended outcome hold result hanswer
    · obtain rfl := List.mem_singleton.mp hnew
      cases hanswer
      exact hpending

/-- Where JSON reads back every result of a handler as it is, every state of a run
keeps the promise of the inbox. -/
theorem exactlyOnce_of_readsBack {actions : List (Action ρ)}
    (hreturns : ∀ id handled, Action.handle id (.ok handled) ∈ actions → ReadsBack platform (orEmpty handled.result)) :
    ExactlyOnce platform (run platform actions) := by
  have hall : (run platform actions).Sound platform ∧ AllReadBack platform (run platform actions) ∧
      ExactlyOnce platform (run platform actions) := by
    refine @run_invariant_of_admissible _ _ (step platform)
      (fun state => state.Sound platform ∧ AllReadBack platform state ∧ ExactlyOnce platform state)
      (fun _ action => ∀ id handled, action = .handle id (.ok handled) → ReadsBack platform (orEmpty handled.result))
      ?_ _ _ ?_ ?_
    · rintro state action ⟨hsound, hback, honce⟩ hreturns
      exact ⟨step_sound hsound, step_allReadBack hback hreturns,
        (step_exactlyOnce hsound honce).mpr hback.not_rereads⟩
    · refine ⟨empty_sound, ⟨by simp [InboxState.empty], by simp [InboxState.empty]⟩, ?_⟩
      rw [exactlyOnce_iff empty_sound]
      exact fun first hfirst => absurd hfirst (by simp [InboxState.empty])
    · rintro before action after rfl id handled rfl
      exact hreturns id handled (by simp)
  exact hall.2.2

/-- The result of the simulated register callback is read back as it is, for a
payload that comes from the outbox. -/
theorem simulatedRegisterCallback_readsBack {event : OutboxEvent} {handled : Handled RegisterCallbackEvent}
    (hpayload : ReadsBack platform event.payload) (h : simulatedRegisterCallback event = .ok handled) :
    ReadsBack platform (orEmpty handled.result) := by
  obtain ⟨named, hnamed, h⟩ := bind_eq_ok_iff.mp h
  obtain rfl := pure_eq_ok_iff.mp h
  have hmember : named = .undefined ∨ ReadsBack platform named := by
    cases hvalue : event.payload with
    | undefined | null =>
      rw [hvalue] at hnamed
      cases hnamed
    | object members =>
      rw [hvalue] at hnamed hpayload
      obtain rfl := Except.ok.inj hnamed
      cases hfound : members.find? (·.1 = "transactionId") with
      | none => exact Or.inl rfl
      | some member => exact Or.inr (jsonCopy_member hpayload (List.mem_of_find?_eq_some hfound))
    | bool | number | notFinite | bigint | string | date | array =>
      rw [hvalue] at hnamed
      exact Or.inl (Except.ok.inj hnamed).symm
  have htransaction : ReadsBack platform (coalesce named (.string event.aggregateId)) := by
    obtain rfl | hback := hmember
    · rfl
    · cases named with
      | undefined | null => rfl
      | bool | number | notFinite | bigint | string | date | array | object => exact hback
  rw [ReadsBack] at htransaction
  simp only [orEmpty, coalesce, ReadsBack, jsonCopy, jsonMembers]
  simp only [coalesce] at htransaction
  rw [htransaction]

/-- In a run every state keeps the promise of the inbox exactly if no delivery
finds the event consumed before by a handler whose result JSON does not read back
as it is. -/
theorem exactly_once_iff (actions : List (Action ρ)) :
    (∀ before, before <+: actions → ExactlyOnce platform (run platform before)) ↔
      ∀ before action after, actions = before ++ action :: after →
        ¬Rereads platform (run platform before) action := by
  refine run_invariant_iff ?_ run_sound (fun state action hsound honce => step_exactlyOnce hsound honce) actions
  rw [exactlyOnce_iff empty_sound]
  exact fun first hfirst => absurd hfirst (by simp [InboxState.empty])

def sampleEvent : OutboxEvent where
  id := "event-1"
  tenantId := "tenant-1"
  topic := "rwa.transaction.settled"
  aggregateId := "transaction-1"
  payload := .object []
  payloadHash := sampleHash

/-- Two deliveries of one event, to a handler that returns a date. -/
def deliveredTwice : List (Action Unit) :=
  [.enqueueOutbox
      { id := "event-1", tenantId := "tenant-1", topic := "rwa.transaction.settled", aggregateId := "transaction-1"
        payload := .object [], distinct := js_value.distinctKeys_empty },
    .deliver 1 "consumer-1" sampleEvent, .read 1,
    .handle 1 (.ok { result := .object [("settledAt", .date 0)], rows := [()] }), .commit 1,
    .deliver 2 "consumer-1" sampleEvent, .read 2, .commit 2]

/-- The first delivery answers with the date and the second one with its text. -/
theorem redelivered_date_is_a_text : ¬ExactlyOnce samplePlatform (run samplePlatform deliveredTwice) := by
  intro h
  have houtcomes : (run samplePlatform deliveredTwice).outcomes =
      [⟨1, "consumer-1", sampleEvent, .ok ⟨false, .object [("settledAt", .date 0)]⟩⟩,
        ⟨2, "consumer-1", sampleEvent, .ok ⟨true, .object [("settledAt", .string "1970-01-01T00:00:00.000Z")]⟩⟩] := by
    rfl
  have hsame := h.sameResult
  rw [houtcomes] at hsame
  have hresult := hsame _ List.mem_cons_self _ (List.mem_cons_of_mem _ List.mem_cons_self) rfl _ _ rfl rfl
  simp at hresult

end rwa.outbox
