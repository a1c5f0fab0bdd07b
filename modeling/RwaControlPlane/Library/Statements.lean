import Mathlib.Data.List.Basic
import RwaControlPlane.Library.Attempt

open attempt

namespace statements

/-- A database transaction in progress: the errors that the server raises at its
statements, how many statements it has issued, the errors raised so far, and the
database as the transaction sees it. -/
structure Session (ε σ : Type) where
  faults : Nat → Option ε
  issued : Nat
  raised : List ε
  db : σ

/-- A client that issues statements. -/
abbrev Program (ε σ α : Type) := Attempt ε (Session ε σ) α

variable {ε σ α β : Type}

/-- Issue a statement. The server raises an error in its place, or runs it, and
then it may still fail by itself. -/
def statement (action : σ → Except ε (α × σ)) : Program ε σ α := fun session =>
  match session.faults session.issued with
  | some error => (.error error, { session with issued := session.issued + 1, raised := session.raised ++ [error] })
  | none =>
    match action session.db with
    | .ok (value, db) => (.ok value, { session with issued := session.issued + 1, db := db })
    | .error failure => (.error failure, { session with issued := session.issued + 1 })

/-- A statement that only reads. -/
def query (part : σ → Except ε α) : Program ε σ α := statement fun db => (part db).map (·, db)

/-- A statement that only writes. -/
def execute (change : σ → Except ε σ) : Program ε σ Unit := statement fun db => (change db).map ((), ·)

/-- Run a program behind a savepoint, and go on with its outcome. The database of
a failed program is that of the savepoint. -/
def savepoint (program : Program ε σ α) : Program ε σ (Except ε α) := fun session =>
  match program session with
  | (.ok value, reached) => (.ok (.ok value), reached)
  | (.error failure, reached) => (.ok (.error failure), { reached with db := session.db })

/-- The statements of a program do what an action does, as long as the server
raises no error. -/
structure Models (program : Program ε σ α) (action : σ → Except ε (α × σ)) : Prop where
  grows : ∀ session, session.raised <+: (program session).2.raised
  agrees : ∀ session, (program session).2.raised = session.raised →
    (program session).1 = (action session.db).map Prod.fst ∧
      ∀ value db, action session.db = .ok (value, db) → (program session).2.db = db

/-- The first error that the server raises ends the program. -/
def Stops (program : Program ε σ α) : Prop :=
  ∀ session, (program session).2.faults = session.faults ∧
    ((program session).2.raised = session.raised ∨
      ∃ number error, session.faults number = some error ∧ (program session).1 = .error error ∧
        (program session).2.raised = session.raised ++ [error])

section Rules

variable {program : Program ε σ α} {next : α → Program ε σ β} {action other : σ → Except ε (α × σ)}
  {following : α → σ → Except ε (β × σ)} {session : Session ε σ}

theorem stops_statement : Stops (statement action) := by
  intro session
  unfold statement
  cases hfault : session.faults session.issued with
  | some error => exact ⟨rfl, Or.inr ⟨session.issued, error, hfault, rfl, rfl⟩⟩
  | none => cases action session.db <;> exact ⟨rfl, Or.inl rfl⟩

theorem models_statement : Models (statement action) action where
  grows session := by
    rcases (@stops_statement _ _ _ action session).2 with hkept | ⟨_, error, _, _, hraised⟩
    · exact hkept.symm ▸ List.prefix_refl session.raised
    · rw [hraised]
      exact List.prefix_append _ _
  agrees session hkept := by
    unfold statement at hkept ⊢
    cases hfault : session.faults session.issued with
    | some error =>
      rw [hfault] at hkept
      exact absurd hkept (by simp)
    | none =>
      cases haction : action session.db with
      | error failure => exact ⟨rfl, fun _ _ h => by cases h⟩
      | ok result =>
        refine ⟨rfl, fun value db h => ?_⟩
        obtain rfl := Except.ok.inj h
        rfl

theorem Models.congr (h : Models program action) (hsame : ∀ db, action db = other db) : Models program other := by
  rwa [← funext hsame]

theorem Models.bind (hprogram : Models program action) (hnext : ∀ value, Models (next value) (following value)) :
    Models (program >>= next) fun db => action db >>= fun result => following result.1 result.2 where
  grows session := by
    have hfirst := hprogram.grows session
    cases hrun : program session with
    | mk outcome reached =>
      rw [hrun] at hfirst
      cases outcome with
      | error failure =>
        rw [bind_of_error hrun]
        exact hfirst
      | ok value =>
        rw [bind_of_ok hrun]
        exact hfirst.trans ((hnext value).grows reached)
  agrees session hkept := by
    have hfirst := hprogram.grows session
    have hagrees := hprogram.agrees session
    cases hrun : program session with
    | mk outcome reached =>
      rw [hrun] at hfirst hagrees
      cases outcome with
      | error failure =>
        rw [bind_of_error hrun] at hkept ⊢
        obtain ⟨houtcome, _⟩ := hagrees hkept
        cases haction : action session.db with
        | ok result =>
          rw [haction] at houtcome
          cases houtcome
        | error cause =>
          rw [haction] at houtcome
          obtain rfl := Except.error.inj houtcome
          exact ⟨rfl, fun _ _ h => by cases h⟩
      | ok value =>
        rw [bind_of_ok hrun] at hkept ⊢
        have hsecond := (hnext value).grows reached
        have hreached : reached.raised = session.raised :=
          (hfirst.eq_of_length_le (by rw [← hkept]; exact hsecond.length_le)).symm
        obtain ⟨houtcome, hdb⟩ := hagrees hreached
        cases haction : action session.db with
        | error cause =>
          rw [haction] at houtcome
          cases houtcome
        | ok result =>
          obtain ⟨found, db⟩ := result
          rw [haction] at houtcome
          obtain rfl := Except.ok.inj houtcome
          have hafter := hdb _ _ haction
          change reached.db = db at hafter
          subst hafter
          exact (hnext value).agrees reached (hkept.trans hreached.symm)

theorem Stops.bind (hprogram : Stops program) (hnext : ∀ value, Stops (next value)) : Stops (program >>= next) := by
  intro session
  have hfirst := hprogram session
  cases hrun : program session with
  | mk outcome reached =>
    rw [hrun] at hfirst
    obtain ⟨hfaults, hfirst⟩ := hfirst
    cases outcome with
    | error failure =>
      rw [bind_of_error hrun]
      refine ⟨hfaults, hfirst.imp_right ?_⟩
      rintro ⟨number, error, hfault, hfails, hraised⟩
      obtain rfl := Except.error.inj hfails
      exact ⟨number, failure, hfault, rfl, hraised⟩
    | ok value =>
      rw [bind_of_ok hrun, ← hfaults]
      obtain hkept | ⟨_, _, _, hfails, _⟩ := hfirst
      · rw [← hkept]
        exact hnext value reached
      · cases hfails

/-- What a client computes between its statements raises nothing. -/
theorem models_lift {outcome : Except ε α} : Models (lift outcome) fun db : σ => outcome.map (·, db) where
  grows _ := List.prefix_refl _
  agrees session _ := by
    cases outcome with
    | error failure => exact ⟨rfl, fun _ _ h => by cases h⟩
    | ok found =>
      refine ⟨rfl, fun value db h => ?_⟩
      obtain ⟨rfl, rfl⟩ := Prod.mk.inj (Except.ok.inj h)
      rfl

theorem stops_lift {outcome : Except ε α} : Stops (lift outcome : Program ε σ α) :=
  fun _ => ⟨rfl, Or.inl rfl⟩

theorem models_pure {value : α} : Models (pure value : Program ε σ α) fun db => .ok (value, db) :=
  @models_lift ε σ α (.ok value)

theorem stops_pure {value : α} : Stops (pure value : Program ε σ α) :=
  fun _ => ⟨rfl, Or.inl rfl⟩

theorem Models.lift_bind {outcome : Except ε α} (hnext : ∀ value, Models (next value) (following value)) :
    Models (lift outcome >>= next) fun db => outcome >>= fun value => following value db := by
  refine (models_lift.bind hnext).congr fun db => ?_
  cases outcome <;> rfl

theorem Models.query_bind {part : σ → Except ε α} (hnext : ∀ value, Models (next value) (following value)) :
    Models (query part >>= next) fun db => part db >>= fun value => following value db := by
  refine (models_statement.bind hnext).congr fun db => ?_
  change ((part db).map (·, db) >>= _) = part db >>= _
  cases part db <;> rfl

theorem Models.execute_bind {change : σ → Except ε σ} {rest : Unit → Program ε σ β} {after : σ → Except ε (β × σ)}
    (hnext : ∀ done, Models (rest done) after) : Models (execute change >>= rest) fun db => change db >>= after := by
  refine (models_statement.bind hnext).congr fun db => ?_
  change ((change db).map ((), ·) >>= _) = change db >>= _
  cases change db <;> rfl

theorem Models.ite {condition : Prop} [Decidable condition] {second : Program ε σ α} {action' : σ → Except ε (α × σ)}
    (hfirst : Models program action) (hsecond : Models second action') :
    Models (if condition then program else second) fun db => if condition then action db else action' db := by
  by_cases hcondition : condition
  · simpa only [if_pos hcondition] using hfirst
  · simpa only [if_neg hcondition] using hsecond

theorem Stops.ite {condition : Prop} [Decidable condition] {second : Program ε σ α} (hfirst : Stops program)
    (hsecond : Stops second) : Stops (if condition then program else second) := by
  by_cases hcondition : condition
  · rwa [if_pos hcondition]
  · rwa [if_neg hcondition]

/-- The action behind a savepoint. -/
def behindSavepoint (action : σ → Except ε (α × σ)) (db : σ) : Except ε (Except ε α × σ) :=
  match action db with
  | .ok (value, reached) => .ok (.ok value, reached)
  | .error failure => .ok (.error failure, db)

theorem savepoint_fst : (savepoint program session).1 = .ok (program session).1 := by
  unfold savepoint
  cases program session with
  | mk outcome reached => cases outcome <;> rfl

theorem Models.savepoint (h : Models program action) : Models (savepoint program) (behindSavepoint action) where
  grows session := by
    have hgrows := h.grows session
    unfold statements.savepoint
    cases hrun : program session with
    | mk outcome reached =>
      rw [hrun] at hgrows
      cases outcome <;> exact hgrows
  agrees session hkept := by
    have hagrees := h.agrees session
    unfold statements.savepoint at hkept ⊢
    cases hrun : program session with
    | mk outcome reached =>
      rw [hrun] at hkept hagrees
      cases outcome with
      | error failure =>
        obtain ⟨houtcome, _⟩ := hagrees hkept
        cases haction : action session.db with
        | ok result =>
          rw [haction] at houtcome
          cases houtcome
        | error cause =>
          rw [haction] at houtcome
          obtain rfl := Except.error.inj houtcome
          simp only [behindSavepoint, haction]
          refine ⟨rfl, fun value db hvalue => ?_⟩
          obtain ⟨rfl, rfl⟩ := Prod.mk.inj (Except.ok.inj hvalue)
          rfl
      | ok found =>
        obtain ⟨houtcome, hdb⟩ := hagrees hkept
        cases haction : action session.db with
        | error cause =>
          rw [haction] at houtcome
          cases houtcome
        | ok result =>
          obtain ⟨returned, db⟩ := result
          rw [haction] at houtcome
          obtain rfl := Except.ok.inj houtcome
          have hafter := hdb _ _ haction
          simp only [behindSavepoint, haction]
          refine ⟨rfl, fun value other hvalue => ?_⟩
          obtain ⟨rfl, rfl⟩ := Prod.mk.inj (Except.ok.inj hvalue)
          exact hafter

end Rules

/-- What surrounds one attempt of a transaction: what others have committed since
the attempt before it, and the errors that the server will raise. -/
structure Turn (ε σ : Type) where
  others : σ → σ
  faults : Nat → Option ε

def Turn.session (turn : Turn ε σ) (db : σ) : Session ε σ := ⟨turn.faults, 0, [], turn.others db⟩

/-- Commit what an attempt has done, or roll all of it back. -/
def finish (attempt : Program ε σ α) (session : Session ε σ) : Except ε α × σ :=
  match attempt session with
  | (.ok value, reached) => (.ok value, reached.db)
  | (.error failure, _) => (.error failure, session.db)

section Finish

variable {attempt : Program ε σ α} {session : Session ε σ}

theorem finish_fst : (finish attempt session).1 = (attempt session).1 := by
  unfold finish
  cases attempt session with
  | mk outcome reached => cases outcome <;> rfl

theorem finish_of_error {failure : ε} (h : (attempt session).1 = .error failure) :
    finish attempt session = (.error failure, session.db) := by
  unfold finish
  cases hrun : attempt session with
  | mk outcome reached =>
    rw [hrun] at h
    obtain rfl : outcome = .error failure := h
    rfl

end Finish

section Retries

variable (retryable : ε → Bool) (operation : Nat → Program ε σ α) (turns : Nat → Turn ε σ)

/-- Attempt a transaction, and again after a retryable error, `more` times at
most. The attempts are numbered. -/
def withRetries : (more number : Nat) → σ → Except ε α × σ
  | 0, number, db => finish (operation number) ((turns number).session db)
  | more + 1, number, db =>
    match (operation number ((turns number).session db)).1 with
    | .ok _ => finish (operation number) ((turns number).session db)
    | .error failure =>
      if retryable failure = true then withRetries more (number + 1) ((turns number).session db).db
      else finish (operation number) ((turns number).session db)

/-- The attempts that are made, with the session in which each starts. -/
def attempts : (more number : Nat) → σ → List (Nat × Session ε σ)
  | 0, number, db => [(number, (turns number).session db)]
  | more + 1, number, db =>
    (number, (turns number).session db) ::
      match (operation number ((turns number).session db)).1 with
      | .ok _ => []
      | .error failure =>
        if retryable failure = true then attempts more (number + 1) ((turns number).session db).db else []

end Retries

section Attempts

variable {retryable : ε → Bool} {operation : Nat → Program ε σ α} {turns : Nat → Turn ε σ} {more number : Nat} {db : σ}

theorem attempts_ne_nil : attempts retryable operation turns more number db ≠ [] := by
  cases more <;> simp [attempts]

/-- A first attempt that succeeds is the only one. -/
theorem attempts_of_ok {value : α} (h : (operation number ((turns number).session db)).1 = .ok value) :
    attempts retryable operation turns more number db = [(number, (turns number).session db)] := by
  cases more with
  | zero => rfl
  | succ more => simp [attempts, h]

/-- Every attempt starts in a session of its own turn. -/
theorem session_of_mem_attempts {index : Nat} {session : Session ε σ}
    (h : (index, session) ∈ attempts retryable operation turns more number db) :
    ∃ reached, session = (turns index).session reached := by
  induction more generalizing number db with
  | zero =>
    obtain ⟨rfl, rfl⟩ := Prod.mk.inj (List.mem_singleton.mp h)
    exact ⟨db, rfl⟩
  | succ more ih =>
    rw [attempts, List.mem_cons] at h
    obtain h | h := h
    · obtain ⟨rfl, rfl⟩ := Prod.mk.inj h
      exact ⟨db, rfl⟩
    · split at h
      · cases h
      · split at h
        · exact ih h
        · cases h

/-- An attempt that is followed by another one has failed with a retryable error.
The last one decides how the transaction ends. -/
theorem attempts_spec {before after : List (Nat × Session ε σ)} {index : Nat} {session : Session ε σ}
    (h : attempts retryable operation turns more number db = before ++ (index, session) :: after) :
    (after ≠ [] → ∃ failure, (operation index session).1 = .error failure ∧ retryable failure = true) ∧
      (after = [] → withRetries retryable operation turns more number db = finish (operation index) session) := by
  induction more generalizing number db before with
  | zero =>
    obtain ⟨rfl, hlast⟩ | ⟨rest, hrest⟩ := List.append_eq_cons_iff.mp h.symm
    · obtain ⟨hhead, rfl⟩ := List.cons.inj hlast
      obtain ⟨rfl, rfl⟩ := Prod.mk.inj hhead
      exact ⟨fun hafter => absurd rfl hafter, fun _ => rfl⟩
    · exact absurd hrest.2 (by simp)
  | succ more ih =>
    rw [attempts] at h
    obtain ⟨rfl, hhead⟩ | ⟨rest, rfl, htail⟩ := List.append_eq_cons_iff.mp h.symm
    · obtain ⟨hfirst, hrest⟩ := List.cons.inj hhead
      obtain ⟨rfl, rfl⟩ := Prod.mk.inj hfirst
      unfold withRetries
      cases hrun : (operation index ((turns index).session db)).1 with
      | ok value =>
        rw [hrun] at hrest
        exact ⟨fun hafter => absurd hrest hafter, fun _ => rfl⟩
      | error failure =>
        simp only [hrun] at hrest
        by_cases hretryable : retryable failure = true
        · rw [if_pos hretryable] at hrest
          exact ⟨fun _ => ⟨failure, rfl, hretryable⟩, fun hafter => absurd (hrest.symm.trans hafter) attempts_ne_nil⟩
        · rw [if_neg hretryable] at hrest
          exact ⟨fun hafter => absurd hrest hafter, fun _ => by simp [hretryable]⟩
    · unfold withRetries
      cases hrun : (operation number ((turns number).session db)).1 with
      | ok value => simp [hrun] at htail
      | error failure =>
        simp only [hrun] at htail
        by_cases hretryable : retryable failure = true
        · rw [if_pos hretryable] at htail
          simpa only [if_pos hretryable] using ih htail
        · simp [hretryable] at htail

end Attempts

end statements
