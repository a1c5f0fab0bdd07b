import Mathlib.Logic.Basic

namespace attempt

/-- A computation on a state that may fail. What it has written before it fails
stays written. -/
def Attempt (ε σ α : Type) : Type := σ → Except ε α × σ

variable {ε σ α β γ : Type}

instance : Monad (Attempt ε σ) where
  pure value := fun state => (.ok value, state)
  bind action next := fun state =>
    match action state with
    | (.ok value, reached) => next value reached
    | (.error failure, reached) => (.error failure, reached)

/-- A part of the state. -/
def read (part : σ → α) : Attempt ε σ α := fun state => (.ok (part state), state)

def modify (change : σ → σ) : Attempt ε σ Unit := fun state => (.ok (), change state)

/-- Go on only when the condition holds. -/
def ensure (condition : Prop) [Decidable condition] (failure : ε) : Attempt ε σ Unit :=
  fun state => (if condition then .ok () else .error failure, state)

/-- The value of a computation that touches no state. -/
def lift (result : Except ε α) : Attempt ε σ α := fun state => (result, state)

/-- The value of an option, or a failure when there is none. -/
def require (value : Option α) (failure : ε) : Attempt ε σ α :=
  lift (match value with
    | some result => .ok result
    | none => .error failure)

/-- Run a handler on a failure and fail with it again. -/
def onFailure (action : Attempt ε σ α) (handler : ε → Attempt ε σ Unit) : Attempt ε σ α := fun state =>
  match action state with
  | (.ok value, reached) => (.ok value, reached)
  | (.error failure, reached) => (.error failure, (handler failure reached).2)

section Run

variable {action : Attempt ε σ α} {next : α → Attempt ε σ β} {state final : σ} {result : Except ε β}

@[simp] theorem pure_run {value : α} : (pure value : Attempt ε σ α) state = (.ok value, state) := rfl

@[simp] theorem read_run {part : σ → α} : (read part : Attempt ε σ α) state = (.ok (part state), state) := rfl

@[simp] theorem modify_run {change : σ → σ} : (modify change : Attempt ε σ Unit) state = (.ok (), change state) := rfl

@[simp] theorem read_bind {part : σ → γ} {next : γ → Attempt ε σ β} :
    ((read part : Attempt ε σ γ) >>= next) state = next (part state) state := rfl

@[simp] theorem modify_bind {change : σ → σ} {next : Unit → Attempt ε σ β} :
    ((modify change : Attempt ε σ Unit) >>= next) state = next () (change state) := rfl

@[simp] theorem require_some_bind {found : γ} {failure : ε} {next : γ → Attempt ε σ β} :
    (require (some found) failure >>= next) state = next found state := rfl

/-- A sequence fails with its first part, or goes on where that part stopped. -/
theorem bind_cases (h : (action >>= next) state = (result, final)) :
    (∃ failure, action state = (.error failure, final) ∧ result = .error failure) ∨
      ∃ value reached, action state = (.ok value, reached) ∧ next value reached = (result, final) := by
  cases haction : action state with
  | mk outcome reached =>
    simp only [bind, haction] at h
    cases outcome with
    | error failure =>
      obtain ⟨rfl, rfl⟩ := Prod.mk.inj h
      exact Or.inl ⟨failure, rfl, rfl⟩
    | ok value => exact Or.inr ⟨value, reached, rfl, h⟩

theorem bind_of_ok {value : α} {reached : σ} (h : action state = (.ok value, reached)) :
    (action >>= next) state = next value reached := by
  simp only [bind, h]

/-- What comes after two computations with the same outcome. -/
theorem bind_of_eq {other : Attempt ε σ α} {start : σ} (h : action state = other start) :
    (action >>= next) state = (other >>= next) start := by
  simp only [bind, h]

theorem bind_of_error {failure : ε} {reached : σ} (h : action state = (.error failure, reached)) :
    (action >>= next) state = (.error failure, reached) := by
  simp only [bind, h]

theorem onFailure_of_ok {handler : ε → Attempt ε σ Unit} {value : α} {reached : σ}
    (h : action state = (.ok value, reached)) : onFailure action handler state = (.ok value, reached) := by
  simp only [onFailure, h]

theorem onFailure_of_error {handler : ε → Attempt ε σ Unit} {failure : ε} {reached : σ}
    (h : action state = (.error failure, reached)) :
    onFailure action handler state = (.error failure, (handler failure reached).2) := by
  simp only [onFailure, h]

theorem onFailure_eq_ok_iff {handler : ε → Attempt ε σ Unit} {value : α} :
    onFailure action handler state = (.ok value, final) ↔ action state = (.ok value, final) := by
  cases haction : action state with
  | mk outcome reached =>
    cases outcome with
    | error failure =>
      rw [onFailure_of_error haction]
      simp
    | ok found => rw [onFailure_of_ok haction]

theorem ensure_of {condition : Prop} [Decidable condition] {failure : ε} (h : condition) :
    (ensure condition failure : Attempt ε σ Unit) state = (.ok (), state) := by
  rw [ensure, if_pos h]

theorem ensure_cases {condition : Prop} [Decidable condition] {failure : ε} {next : Unit → Attempt ε σ β}
    (h : (ensure condition failure >>= next) state = (result, final)) :
    (¬condition ∧ result = .error failure ∧ final = state) ∨ condition ∧ next () state = (result, final) := by
  by_cases hcondition : condition
  · rw [bind_of_ok (ensure_of hcondition)] at h
    exact Or.inr ⟨hcondition, h⟩
  · have hfails : (ensure condition failure : Attempt ε σ Unit) state = (.error failure, state) := by
      rw [ensure, if_neg hcondition]
    rw [bind_of_error hfails] at h
    obtain ⟨rfl, rfl⟩ := Prod.mk.inj h
    exact Or.inl ⟨hcondition, rfl, rfl⟩

theorem lift_of_ok {outcome : Except ε α} {value : α} (h : outcome = .ok value) :
    (lift outcome : Attempt ε σ α) state = (.ok value, state) := by
  rw [lift, h]

theorem require_cases {value : Option γ} {failure : ε} {next : γ → Attempt ε σ β}
    (h : (require value failure >>= next) state = (result, final)) :
    (value = none ∧ result = .error failure ∧ final = state) ∨
      ∃ found, value = some found ∧ next found state = (result, final) := by
  cases value with
  | none =>
    obtain ⟨rfl, rfl⟩ := Prod.mk.inj h
    exact Or.inl ⟨rfl, rfl, rfl⟩
  | some found => exact Or.inr ⟨found, rfl, h⟩

/-- A computation whose value is changed at the end. -/
theorem bind_pure_cases {change : α → β} (h : (action >>= fun value => pure (change value)) state = (result, final)) :
    ∃ outcome, action state = (outcome, final) ∧ result = outcome.map change := by
  rcases bind_cases h with ⟨failure, hrun, rfl⟩ | ⟨value, reached, hrun, hnext⟩
  · exact ⟨.error failure, hrun, rfl⟩
  · obtain ⟨rfl, rfl⟩ := Prod.mk.inj hnext
    exact ⟨.ok value, hrun, rfl⟩

theorem bind_eq_ok_iff {value : β} :
    (action >>= next) state = (.ok value, final) ↔
      ∃ first reached, action state = (.ok first, reached) ∧ next first reached = (.ok value, final) := by
  constructor
  · intro h
    rcases bind_cases h with ⟨failure, _, hresult⟩ | hnext
    · cases hresult
    · exact hnext
  · rintro ⟨first, reached, hfirst, hnext⟩
    rw [bind_of_ok hfirst, hnext]

theorem pure_eq_ok_iff {value returned : α} :
    (pure value : Attempt ε σ α) state = (.ok returned, final) ↔ value = returned ∧ state = final := by
  simp

theorem read_eq_ok_iff {part : σ → α} {value : α} :
    (read part : Attempt ε σ α) state = (.ok value, final) ↔ part state = value ∧ state = final := by
  simp

theorem ensure_eq_ok_iff {condition : Prop} [Decidable condition] {failure : ε} {done : Unit} :
    (ensure condition failure : Attempt ε σ Unit) state = (.ok done, final) ↔ condition ∧ state = final := by
  by_cases hcondition : condition <;> simp [ensure, hcondition]

theorem lift_eq_ok_iff {outcome : Except ε α} {value : α} :
    (lift outcome : Attempt ε σ α) state = (.ok value, final) ↔ outcome = .ok value ∧ state = final := by
  simp [lift]

theorem require_eq_ok_iff {found : Option α} {failure : ε} {value : α} :
    (require found failure : Attempt ε σ α) state = (.ok value, final) ↔ found = some value ∧ state = final := by
  cases found <;> simp [require, lift]

end Run

/-- A computation that leaves a view of the state as it is, also when it
fails. -/
def Keeps (view : σ → γ) (action : Attempt ε σ α) : Prop := ∀ state, view (action state).2 = view state

section Keeps

variable {view : σ → γ} {action : Attempt ε σ α} {next : α → Attempt ε σ β} {state final : σ} {result : Except ε β}

theorem Keeps.pure {value : α} : Keeps view (Pure.pure value : Attempt ε σ α) := fun _ => rfl

theorem Keeps.read {part : σ → α} : Keeps view (attempt.read part : Attempt ε σ α) := fun _ => rfl

theorem Keeps.lift {outcome : Except ε α} : Keeps view (attempt.lift outcome : Attempt ε σ α) := fun _ => rfl

theorem Keeps.require {value : Option α} {failure : ε} : Keeps view (attempt.require value failure : Attempt ε σ α) :=
  fun _ => rfl

theorem Keeps.ensure {condition : Prop} [Decidable condition] {failure : ε} :
    Keeps view (attempt.ensure condition failure : Attempt ε σ Unit) := fun _ => rfl

theorem Keeps.modify {change : σ → σ} (h : ∀ state, view (change state) = view state) :
    Keeps view (attempt.modify change : Attempt ε σ Unit) := fun state => h state

theorem Keeps.bind (haction : Keeps view action) (hnext : ∀ value, Keeps view (next value)) :
    Keeps view (action >>= next) := by
  intro state
  cases hrun : action state with
  | mk outcome reached =>
    have hreached := haction state
    rw [hrun] at hreached
    cases outcome with
    | error failure => simpa only [Bind.bind, hrun] using hreached
    | ok value =>
      have hfinal := hnext value reached
      simp only [Bind.bind, hrun]
      exact hfinal.trans hreached

theorem Keeps.ite {condition : Prop} [Decidable condition] {first second : Attempt ε σ α} (hfirst : Keeps view first)
    (hsecond : Keeps view second) : Keeps view (if condition then first else second) := by
  by_cases hcondition : condition
  · rwa [if_pos hcondition]
  · rwa [if_neg hcondition]

theorem Keeps.onFailure {handler : ε → Attempt ε σ Unit} (haction : Keeps view action)
    (hhandler : ∀ failure, Keeps view (handler failure)) : Keeps view (attempt.onFailure action handler) := by
  intro state
  have hreached := haction state
  cases hrun : action state with
  | mk outcome reached =>
    rw [hrun] at hreached
    cases outcome with
    | ok value => simpa only [attempt.onFailure, hrun] using hreached
    | error failure =>
      simp only [attempt.onFailure, hrun]
      exact (hhandler failure reached).trans hreached

/-- A sequence whose first part keeps a view. -/
theorem Keeps.bind_cases (hkeeps : Keeps view action) (h : (action >>= next) state = (result, final)) :
    (∃ failure, result = .error failure ∧ view final = view state) ∨
      ∃ value reached, action state = (.ok value, reached) ∧ view reached = view state ∧
        next value reached = (result, final) := by
  have hview := hkeeps state
  rcases attempt.bind_cases h with ⟨failure, hrun, rfl⟩ | ⟨value, reached, hrun, hnext⟩
  · rw [hrun] at hview
    exact Or.inl ⟨failure, rfl, hview⟩
  · rw [hrun] at hview
    exact Or.inr ⟨value, reached, hrun, hview, hnext⟩

/-- A handler that keeps the view does not hide what the computation did. -/
theorem onFailure_cases {handler : ε → Attempt ε σ Unit} {outcome : Except ε α}
    (hhandler : ∀ failure, Keeps view (handler failure))
    (h : attempt.onFailure action handler state = (outcome, final)) :
    ∃ reached, action state = (outcome, reached) ∧ view final = view reached ∧
      ((∃ value, outcome = .ok value) → final = reached) := by
  cases hrun : action state with
  | mk inner reached =>
    simp only [attempt.onFailure, hrun] at h
    cases inner with
    | ok value =>
      obtain ⟨rfl, rfl⟩ := Prod.mk.inj h
      exact ⟨reached, rfl, rfl, fun _ => rfl⟩
    | error failure =>
      obtain ⟨rfl, rfl⟩ := Prod.mk.inj h
      refine ⟨reached, rfl, hhandler failure reached, ?_⟩
      rintro ⟨value, hvalue⟩
      cases hvalue

end Keeps

/-- A computation that writes nothing. -/
def ReadsOnly (action : Attempt ε σ α) : Prop := Keeps id action

section ReadsOnly

variable {action : Attempt ε σ α} {next : α → Attempt ε σ β} {state final : σ}

theorem ReadsOnly.eq (h : ReadsOnly action) {outcome : Except ε α} (hrun : action state = (outcome, final)) :
    final = state := by
  have hkept := h state
  rwa [hrun] at hkept

/-- Inversion of a sequence that starts with a reading. -/
theorem ReadsOnly.bind_eq_ok_iff (h : ReadsOnly action) {value : β} :
    (action >>= next) state = (.ok value, final) ↔
      ∃ found, action state = (.ok found, state) ∧ next found state = (.ok value, final) := by
  rw [attempt.bind_eq_ok_iff]
  constructor
  · rintro ⟨found, reached, hfound, hnext⟩
    obtain rfl := h.eq hfound
    exact ⟨found, hfound, hnext⟩
  · rintro ⟨found, hfound, hnext⟩
    exact ⟨found, state, hfound, hnext⟩

/-- A sequence that starts with a reading fails there and writes nothing, or goes on
in the same state. -/
theorem ReadsOnly.bind_cases (h : ReadsOnly action) {outcome : Except ε β}
    (hrun : (action >>= next) state = (outcome, final)) :
    ((∃ failure, outcome = .error failure) ∧ final = state) ∨
      ∃ found, action state = (.ok found, state) ∧ next found state = (outcome, final) := by
  rcases attempt.bind_cases hrun with ⟨failure, hfails, rfl⟩ | ⟨found, reached, hfound, hnext⟩
  · exact Or.inl ⟨⟨failure, rfl⟩, h.eq hfails⟩
  · obtain rfl := h.eq hfound
    exact Or.inr ⟨found, hfound, hnext⟩

@[simp] theorem readsOnly_pure {value : α} : ReadsOnly (pure value : Attempt ε σ α) := Keeps.pure

@[simp] theorem readsOnly_read {part : σ → α} : ReadsOnly (read part : Attempt ε σ α) := Keeps.read

@[simp] theorem readsOnly_lift {outcome : Except ε α} : ReadsOnly (lift outcome : Attempt ε σ α) := Keeps.lift

@[simp] theorem readsOnly_require {value : Option α} {failure : ε} :
    ReadsOnly (require value failure : Attempt ε σ α) := Keeps.require

@[simp] theorem readsOnly_ensure {condition : Prop} [Decidable condition] {failure : ε} :
    ReadsOnly (ensure condition failure : Attempt ε σ Unit) := Keeps.ensure

theorem ReadsOnly.bind (haction : ReadsOnly action) (hnext : ∀ value, ReadsOnly (next value)) :
    ReadsOnly (action >>= next) := Keeps.bind haction hnext

end ReadsOnly

/-- A computation that leaves a state in relation to the one before, also when it
fails. -/
def Follows (relation : σ → σ → Prop) (action : Attempt ε σ α) : Prop := ∀ state, relation state (action state).2

section Follows

variable {relation : σ → σ → Prop} {action : Attempt ε σ α} {next : α → Attempt ε σ β}

theorem ReadsOnly.follows (hrefl : ∀ state, relation state state) (h : ReadsOnly action) : Follows relation action := by
  intro state
  rw [show (action state).2 = state from h state]
  exact hrefl state

theorem Follows.bind (htrans : ∀ {first second third}, relation first second → relation second third →
    relation first third)
    (haction : Follows relation action) (hnext : ∀ value, Follows relation (next value)) :
    Follows relation (action >>= next) := by
  intro state
  have hreached := haction state
  cases hrun : action state with
  | mk outcome reached =>
    rw [hrun] at hreached
    cases outcome with
    | error failure =>
      rw [bind_of_error hrun]
      exact hreached
    | ok value =>
      rw [bind_of_ok hrun]
      exact htrans hreached (hnext value reached)

theorem Follows.onFailure (htrans : ∀ {first second third}, relation first second → relation second third →
    relation first third)
    {handler : ε → Attempt ε σ Unit} (haction : Follows relation action)
    (hhandler : ∀ failure, Follows relation (handler failure)) :
    Follows relation (attempt.onFailure action handler) := by
  intro state
  have hreached := haction state
  cases hrun : action state with
  | mk outcome reached =>
    rw [hrun] at hreached
    cases outcome with
    | ok value =>
      rw [onFailure_of_ok hrun]
      exact hreached
    | error failure =>
      rw [onFailure_of_error hrun]
      exact htrans hreached (hhandler failure reached)

end Follows

end attempt
