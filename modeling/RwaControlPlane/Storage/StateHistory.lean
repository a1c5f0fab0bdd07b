import RwaControlPlane.Storage.Transactions

open checked keyed_rows
open rwa.gate (TransactionType TransactionState SettlementRail transitions confidentialTransitions uniqueViolation)

namespace rwa.storage

/-- Recorded changes that lead from a state to a state. Each starts where the
one before it ended, and both the map of transitions and the guard of the rail
allow it. -/
inductive StatePath (rail : SettlementRail) : TransactionState → List StateChange → TransactionState → Prop
  | stay {state : TransactionState} : StatePath rail state [] state
  | move {first last : TransactionState} {changes : List StateChange} {change : StateChange}
      (path : StatePath rail first changes last) (hfrom : change.fromState = some last)
      (hallowed : change.toState ∈ transitions last)
        (hguard : ¬TransactionTables.railRefuses rail last change.toState) :
      StatePath rail first (changes ++ [change]) change.toState

namespace StatePath

variable {rail : SettlementRail} {first middle last : TransactionState} {changes more : List StateChange}

theorem trans (h : StatePath rail first changes middle) (h' : StatePath rail middle more last) :
    StatePath rail first (changes ++ more) last := by
  induction h' with
  | stay => simpa using h
  | move _ hfrom hallowed hguard ih =>
    rw [← List.append_assoc]
    exact .move ih hfrom hallowed hguard

/-- Nothing leads out of a terminal state. -/
theorem of_terminal (h : StatePath rail first changes last) (hterminal : transitions first = []) :
    changes = [] ∧ last = first := by
  induction h with
  | stay => exact ⟨rfl, rfl⟩
  | move _ _ hallowed _ ih =>
    obtain ⟨_, rfl⟩ := ih
    rw [hterminal] at hallowed
    exact absurd hallowed List.not_mem_nil

/-- Only SETTLED follows ROOT_PENDING. -/
theorem of_rootPending (h : StatePath rail .rootPending changes last) : last = .rootPending ∨ last = .settled := by
  induction h with
  | stay => exact Or.inl rfl
  | move _ _ hallowed _ ih =>
    rcases ih with rfl | rfl
    · exact Or.inr (by simpa [transitions] using hallowed)
    · simp [transitions] at hallowed

end StatePath

/-- The whole history of a transaction: its creation as REQUESTED and then a path
to its current state. -/
def TransactionTables.HistoryIsPath (tables : TransactionTables) (intent : TransactionIntent) : Prop :=
  ∃ created rest, tables.historyOf intent.id = created :: rest ∧ created.fromState = none ∧
    created.toState = .requested ∧ StatePath intent.settlementRail .requested rest intent.currentState

/-- The invariant of the transaction tables. -/
structure Consistent (tables : TransactionTables) : Prop where
  ids : (tables.intents.map TransactionIntent.id).Nodup
  known : ∀ change ∈ tables.stateHistory, change.transactionId ∈ tables.intents.map TransactionIntent.id
  paths : ∀ intent ∈ tables.intents, tables.HistoryIsPath intent

/-- Every transaction of some tables is in later ones, with the same terms and a
history that goes on from where it was. -/
def Continues (tables later : TransactionTables) : Prop :=
  ∀ intent ∈ tables.intents, ∃ state changes, { intent with currentState := state } ∈ later.intents ∧
    later.historyOf intent.id = tables.historyOf intent.id ++ changes ∧
    StatePath intent.settlementRail intent.currentState changes state

theorem Continues.refl (tables : TransactionTables) : Continues tables tables :=
  fun intent hintent => ⟨intent.currentState, [], hintent, by simp, .stay⟩

theorem Continues.trans {first second third : TransactionTables} (h : Continues first second)
    (h' : Continues second third) : Continues first third := by
  intro intent hintent
  obtain ⟨state, changes, hmem, hhistory, hpath⟩ := h intent hintent
  obtain ⟨state', changes', hmem', hhistory', hpath'⟩ := h' _ hmem
  refine ⟨state', changes ++ changes', hmem', ?_, hpath.trans hpath'⟩
  rw [hhistory', hhistory, List.append_assoc]

section Statements

variable {tables next : TransactionTables}

/-- A change to another transaction, or to none, leaves a history alone. -/
private theorem historyOf_append {change : StateChange} {transactionId : String} :
    ({ tables with stateHistory := tables.stateHistory ++ [change] } : TransactionTables).historyOf transactionId =
      tables.historyOf transactionId ++ if change.transactionId = transactionId then [change] else [] := by
  simp only [TransactionTables.historyOf, List.filter_append, List.filter_cons, List.filter_nil]
  by_cases h : change.transactionId = transactionId <;> simp [h]

/-- A transaction that is not stored has no history. -/
private theorem historyOf_unknown (h : Consistent tables) {transactionId : String}
    (hunknown : transactionId ∉ tables.intents.map TransactionIntent.id) : tables.historyOf transactionId = [] := by
  refine List.filter_eq_nil_iff.mpr fun change hchange hsame => hunknown ?_
  have heq : change.transactionId = transactionId := by simpa using hsame
  exact heq ▸ h.known change hchange

theorem createTransactionIntent_ok {intent : TransactionIntent} {actorRef : Option String} {created : Bool}
    {row : TransactionIntent} (h : tables.createTransactionIntent intent actorRef = .ok (created, row, next)) :
    (created = false ∧ next = tables ∧ tables.findKey intent.tenantId intent.idempotencyKey = some row ∧
      row.requestHash = intent.requestHash) ∨
    (created = true ∧ row = { intent with currentState := .requested } ∧
      tables.findKey intent.tenantId intent.idempotencyKey = none ∧
      intent.id ∉ tables.intents.map TransactionIntent.id ∧
      next =
        { tables with
          intents := tables.intents ++ [{ intent with currentState := .requested }]
          stateHistory := tables.stateHistory ++ [⟨intent.id, none, .requested, none, actorRef⟩] }) := by
  unfold TransactionTables.createTransactionIntent at h
  split at h
  · next existing hexisting =>
    simp only [bind_eq_ok_iff, throwIf_eq_ok_iff, exists_unit, pure_eq_ok_iff, Prod.mk.injEq, not_or, not_not] at h
    obtain ⟨⟨hhash, _⟩, rfl, rfl, rfl⟩ := h
    exact Or.inl ⟨rfl, rfl, hexisting, hhash⟩
  · next hfree =>
    simp only [bind_eq_ok_iff, throwIf_eq_ok_iff, exists_unit, pure_eq_ok_iff, Prod.mk.injEq] at h
    obtain ⟨hfresh, rfl, rfl, rfl⟩ := h
    exact Or.inr ⟨rfl, rfl, hfree, hfresh, rfl⟩

/-- What a state change writes: the state of one transaction and one row of the
history. -/
def TransactionTables.moved (tables : TransactionTables) (transactionId : String) (change : StateChange) :
    TransactionTables :=
  { tables with
    intents := tables.intents.map fun row =>
      if row.id = transactionId then { row with currentState := change.toState } else row
    stateHistory := tables.stateHistory ++ [change] }

theorem transitionTransaction_ok {transactionId : String} {toState : TransactionState}
    {reasonCode actorRef : Option String}
    (h : tables.transitionTransaction transactionId toState reasonCode actorRef = .ok next) :
    ∃ intent ∈ tables.intents, intent.id = transactionId ∧ toState ∈ transitions intent.currentState ∧
      ¬TransactionTables.railRefuses intent.settlementRail intent.currentState toState ∧
      next = tables.moved transactionId ⟨transactionId, some intent.currentState, toState, reasonCode, actorRef⟩ := by
  simp only [TransactionTables.transitionTransaction, bind_eq_ok_iff, require_eq_ok_iff, throwIf_eq_ok_iff,
    exists_unit, pure_eq_ok_iff, not_not] at h
  obtain ⟨intent, hfound, hallowed, hguard, rfl⟩ := h
  exact ⟨intent, List.mem_of_find?_eq_some hfound, by simpa using List.find?_some hfound, hallowed, hguard, rfl⟩

/-- A created transaction starts its path. -/
private theorem created_consistent (h : Consistent tables) {intent : TransactionIntent} {actorRef : Option String}
    (hfresh : intent.id ∉ tables.intents.map TransactionIntent.id) :
    Consistent
      { tables with
        intents := tables.intents ++ [{ intent with currentState := .requested }]
        stateHistory := tables.stateHistory ++ [⟨intent.id, none, .requested, none, actorRef⟩] } := by
  constructor
  case ids => exact nodup_concat h.ids hfresh
  case known =>
    intro change hchange
    simp only [List.map_append, List.map_cons, List.map_nil]
    rcases List.mem_append.mp hchange with hold | hnew
    · exact List.mem_append_left _ (h.known change hold)
    · obtain rfl := List.mem_singleton.mp hnew
      exact List.mem_append_right _ (List.mem_singleton_self _)
  case paths =>
    intro row hrow
    rcases List.mem_append.mp hrow with hold | hnew
    · have hne : intent.id ≠ row.id := fun heq => hfresh (heq ▸ List.mem_map_of_mem hold)
      obtain ⟨created, rest, hhistory, hpath⟩ := h.paths row hold
      refine ⟨created, rest, ?_, hpath⟩
      rw [← hhistory]
      exact (historyOf_append).trans (by simp [hne])
    · obtain rfl := List.mem_singleton.mp hnew
      refine ⟨⟨intent.id, none, .requested, none, actorRef⟩, [], ?_, rfl, rfl, .stay⟩
      refine (historyOf_append).trans ?_
      rw [historyOf_unknown h hfresh]
      simp

private theorem created_continues {intent : TransactionIntent} {actorRef : Option String}
    (hfresh : intent.id ∉ tables.intents.map TransactionIntent.id) :
    Continues tables
      { tables with
        intents := tables.intents ++ [{ intent with currentState := .requested }]
        stateHistory := tables.stateHistory ++ [⟨intent.id, none, .requested, none, actorRef⟩] } := by
  intro row hrow
  have hne : intent.id ≠ row.id := fun heq => hfresh (heq ▸ List.mem_map_of_mem hrow)
  refine ⟨row.currentState, [], List.mem_append_left _ hrow, ?_, .stay⟩
  exact (historyOf_append).trans (by simp [hne])

variable {transactionId : String} {change : StateChange}

private theorem moved_history (hchange : change.transactionId = transactionId) {id : String} :
    (tables.moved transactionId change).historyOf id =
      tables.historyOf id ++ if transactionId = id then [change] else [] := by
  rw [← hchange]
  exact historyOf_append

theorem moved_ids : (tables.moved transactionId change).intents.map TransactionIntent.id =
    tables.intents.map TransactionIntent.id := by
  rw [TransactionTables.moved, List.map_map]
  refine List.map_congr_left fun row _ => ?_
  simp only [Function.comp_apply]
  split <;> rfl

/-- Moving a transaction extends its path and no other. -/
private theorem moved_continues (h : Consistent tables) {intent : TransactionIntent} (hintent : intent ∈ tables.intents)
    (hid : intent.id = transactionId) (hchange : change.transactionId = transactionId)
    (hfrom : change.fromState = some intent.currentState) (hallowed : change.toState ∈ transitions intent.currentState)
    (hguard : ¬TransactionTables.railRefuses intent.settlementRail intent.currentState change.toState) :
    Continues tables (tables.moved transactionId change) := by
  intro row hrow
  by_cases hsame : row.id = transactionId
  · obtain rfl : row = intent := List.inj_on_of_nodup_map h.ids hrow hintent (hsame.trans hid.symm)
    refine ⟨change.toState, [change], ?_, ?_, ?_⟩
    · exact List.mem_map.mpr ⟨row, hrow, if_pos hsame⟩
    · rw [moved_history hchange, if_pos hsame.symm]
    · exact @StatePath.move _ _ _ [] _ .stay hfrom hallowed hguard
  · refine ⟨row.currentState, [], ?_, ?_, .stay⟩
    · exact List.mem_map.mpr ⟨row, hrow, if_neg hsame⟩
    · rw [moved_history hchange, if_neg (Ne.symm hsame)]

/-- Tables whose rows all go on from consistent ones are consistent. -/
private theorem moved_consistent (h : Consistent tables) (hchange : change.transactionId = transactionId)
    (hmem : transactionId ∈ tables.intents.map TransactionIntent.id)
    (hcontinues : Continues tables (tables.moved transactionId change)) :
    Consistent (tables.moved transactionId change) := by
  have hids : ((tables.moved transactionId change).intents.map TransactionIntent.id).Nodup := by
    rw [moved_ids]
    exact h.ids
  constructor
  case ids => exact hids
  case known =>
    intro row hrow
    rw [moved_ids]
    rcases List.mem_append.mp hrow with hold | hnew
    · exact h.known row hold
    · obtain rfl := List.mem_singleton.mp hnew
      exact hchange ▸ hmem
  case paths =>
    intro later hlater
    have hid : later.id ∈ tables.intents.map TransactionIntent.id := by
      rw [← @moved_ids tables transactionId change]
      exact List.mem_map_of_mem hlater
    obtain ⟨intent, hintent, hsame⟩ := List.mem_map.mp hid
    obtain ⟨state, changes, hmoved, hhistory, hpath⟩ := hcontinues intent hintent
    obtain rfl : { intent with currentState := state } = later :=
      List.inj_on_of_nodup_map hids hmoved hlater hsame
    obtain ⟨created, rest, hbefore, hfrom, hto, hrest⟩ := h.paths intent hintent
    refine ⟨created, rest ++ changes, ?_, hfrom, hto, hrest.trans hpath⟩
    rw [hhistory, hbefore, List.cons_append]

end Statements

/-- A statement keeps the tables consistent and goes on from where every history
was. -/
theorem Statement.execute_ok {tables next : TransactionTables} {statement : Statement} (h : Consistent tables)
    (hexecute : statement.execute tables = .ok next) : Consistent next ∧ Continues tables next := by
  cases statement with
  | createTransactionIntent intent actorRef =>
    cases hcreate : tables.createTransactionIntent intent actorRef with
    | error failure => simp [Statement.execute, hcreate, Except.map] at hexecute
    | ok result =>
      obtain ⟨created, row, made⟩ := result
      obtain rfl : made = next := by simpa [Statement.execute, hcreate, Except.map] using hexecute
      obtain ⟨_, rfl, _, _⟩ | ⟨_, _, _, hfresh, rfl⟩ := createTransactionIntent_ok hcreate
      · exact ⟨h, .refl _⟩
      · exact ⟨created_consistent h hfresh, created_continues hfresh⟩
  | transitionTransaction transactionId toState reasonCode actorRef =>
    obtain ⟨intent, hintent, hid, hallowed, hguard, rfl⟩ := transitionTransaction_ok hexecute
    have hcontinues := @moved_continues tables transactionId
      ⟨transactionId, some intent.currentState, toState, reasonCode, actorRef⟩ h intent hintent hid rfl rfl
        hallowed hguard
    exact ⟨moved_consistent h rfl (hid ▸ List.mem_map_of_mem hintent) hcontinues, hcontinues⟩
  | insertSettlement transactionId =>
    simp only [Statement.execute, TransactionTables.insertSettlement, bind_eq_ok_iff, throwIf_eq_ok_iff, exists_unit,
      pure_eq_ok_iff] at hexecute
    obtain ⟨_, _, rfl⟩ := hexecute
    exact ⟨⟨h.ids, h.known, h.paths⟩, Continues.refl tables⟩
  | finalizeSettlement transactionId =>
    simp only [Statement.execute, TransactionTables.finalizeSettlement, bind_eq_ok_iff, throwIf_eq_ok_iff, exists_unit,
      pure_eq_ok_iff] at hexecute
    obtain ⟨_, rfl⟩ := hexecute
    exact ⟨⟨h.ids, h.known, h.paths⟩, Continues.refl tables⟩

/-- The statements of a transaction do so one after another. -/
theorem execute_ok {tables next : TransactionTables} {statements : List Statement} (h : Consistent tables)
    (hexecute : execute tables statements = .ok next) : Consistent next ∧ Continues tables next := by
  induction statements generalizing tables with
  | nil =>
    obtain rfl : tables = next := by simpa [execute] using hexecute
    exact ⟨h, .refl _⟩
  | cons statement rest ih =>
    simp only [execute, bind_eq_ok_iff] at hexecute
    obtain ⟨middle, hstatement, hrest⟩ := hexecute
    obtain ⟨hmiddle, hcontinues⟩ := statement.execute_ok h hstatement
    obtain ⟨hnext, hcontinues'⟩ := ih hmiddle hrest
    exact ⟨hnext, hcontinues.trans hcontinues'⟩

/-- The tables after a run of transactions. -/
def run (transactions : List (List Statement)) : TransactionTables :=
  runs.run step TransactionTables.empty transactions

/-- What holds between transactions. -/
structure Sound (tables : TransactionTables) : Prop where
  consistent : Consistent tables
  finality : tables.FinalityRecorded

theorem empty_sound : Sound TransactionTables.empty where
  consistent := ⟨List.nodup_nil, by simp [TransactionTables.empty], by simp [TransactionTables.empty]⟩
  finality := by simp [TransactionTables.FinalityRecorded, TransactionTables.empty]

/-- A transaction commits all of its statements or none. -/
theorem step_cases (tables : TransactionTables) (statements : List Statement) :
    step tables statements = tables ∨
      (execute tables statements = .ok (step tables statements) ∧ (step tables statements).FinalityRecorded) := by
  cases hresult : transaction statements tables with
  | error failure =>
    refine Or.inl ?_
    simp [step, commit, hresult]
  | ok outcome =>
    obtain ⟨done, next⟩ := outcome
    have hnext : step tables statements = next := by simp [step, commit, hresult]
    simp only [transaction, bind_eq_ok_iff, throwIf_eq_ok_iff, exists_unit, pure_eq_ok_iff, Prod.mk.injEq,
      not_not] at hresult
    obtain ⟨executed, hexecuted, hfinality, _, rfl⟩ := hresult
    rw [hnext]
    exact Or.inr ⟨hexecuted, hfinality⟩

theorem step_sound {tables : TransactionTables} (h : Sound tables) (statements : List Statement) :
    Sound (step tables statements) ∧ Continues tables (step tables statements) := by
  obtain hsame | ⟨hexecuted, hfinality⟩ := step_cases tables statements
  · rw [hsame]
    exact ⟨h, .refl tables⟩
  · obtain ⟨hconsistent, hcontinues⟩ := execute_ok h.consistent hexecuted
    exact ⟨⟨hconsistent, hfinality⟩, hcontinues⟩

theorem run_sound (transactions : List (List Statement)) : Sound (run transactions) :=
  runs.run_invariant empty_sound (fun _ statements h => (step_sound h statements).1) transactions

theorem run_continues {tables : TransactionTables} (h : Sound tables) (transactions : List (List Statement)) :
    Continues tables (runs.run step tables transactions) := by
  induction transactions generalizing tables with
  | nil => exact .refl tables
  | cons statements rest ih =>
    obtain ⟨hsound, hcontinues⟩ := step_sound h statements
    exact hcontinues.trans (ih hsound)

/-- Whatever transactions the services run: the history of every transaction is
a path from REQUESTED to its current state whose steps both machines allow, a
settled confidential transaction has a final settlement, a terminal transaction
and its history stay as they are, ROOT_PENDING leads to SETTLED only, and a
transaction whose statements do not all succeed changes nothing. -/
theorem history_is_path (transactions more : List (List Statement)) :
    (∀ intent ∈ (run transactions).intents, (run transactions).HistoryIsPath intent) ∧
    (run transactions).FinalityRecorded ∧
    (∀ intent ∈ (run transactions).intents, transitions intent.currentState = [] →
      intent ∈ (run (transactions ++ more)).intents ∧
      (run (transactions ++ more)).historyOf intent.id = (run transactions).historyOf intent.id) ∧
    (∀ intent ∈ (run transactions).intents, intent.currentState = .rootPending →
      ∃ state, (state = .rootPending ∨ state = .settled) ∧
        { intent with currentState := state } ∈ (run (transactions ++ more)).intents) ∧
    ∀ statements, step (run transactions) statements = run transactions ∨
      execute (run transactions) statements = .ok (step (run transactions) statements) := by
  have hsound := run_sound transactions
  have hcontinues : Continues (run transactions) (run (transactions ++ more)) := by
    rw [run, run, runs.run_append]
    exact run_continues hsound more
  refine ⟨hsound.consistent.paths, hsound.finality, ?_, ?_, ?_⟩
  · intro intent hintent hterminal
    obtain ⟨state, changes, hmem, hhistory, hpath⟩ := hcontinues intent hintent
    obtain ⟨rfl, rfl⟩ := hpath.of_terminal hterminal
    exact ⟨hmem, by simpa using hhistory⟩
  · intro intent hintent hstate
    obtain ⟨state, changes, hmem, _, hpath⟩ := hcontinues intent hintent
    rw [hstate] at hpath
    exact ⟨state, hpath.of_rootPending, hmem⟩
  · intro statements
    exact (step_cases (run transactions) statements).imp_right fun h => h.1

end rwa.storage
