import Mathlib.Logic.Unique

namespace checked

variable {ε ε' α β σ : Type}

/-- Abort with a failure when the condition holds. -/
def throwIf (condition : Prop) [Decidable condition] (failure : ε) : Except ε Unit :=
  if condition then .error failure else .ok ()

/-- The value of an option, or a failure when there is none. -/
def require (value : Option α) (failure : ε) : Except ε α :=
  match value with
  | some result => .ok result
  | none => .error failure

/-- The row of a query that must return exactly one. -/
def single : List α → Option α
  | [row] => some row
  | _ => none

/-- Replace the failure of a computation, as a `catch` that throws again does. -/
def rethrow (handler : ε → ε') (action : Except ε α) : Except ε' α :=
  match action with
  | .ok result => .ok result
  | .error failure => .error (handler failure)

/-- Run a transaction on a state. A failed transaction is rolled back, so the
state it started from is the one that remains. -/
def commit (state : σ) (action : σ → Except ε (α × σ)) : Except ε α × σ :=
  match action state with
  | .ok (result, next) => (.ok result, next)
  | .error failure => (.error failure, state)

/-- Inversion of a sequence of fallible computations. -/
theorem bind_eq_ok_iff {action : Except ε α} {next : α → Except ε β} {result : β} :
    action >>= next = .ok result ↔ ∃ value, action = .ok value ∧ next value = .ok result := by
  cases action with
  | error failure => simp [bind, Except.bind]
  | ok value => simp [bind, Except.bind]

theorem pure_eq_ok_iff {value result : α} :
    (pure value : Except ε α) = .ok result ↔ value = result := by
  simp [pure, Except.pure]

@[simp] theorem throwIf_eq_ok_iff {condition : Prop} [Decidable condition] {failure : ε} {done : Unit} :
    throwIf condition failure = .ok done ↔ ¬condition := by
  by_cases h : condition <;> simp [throwIf, h]

@[simp] theorem require_eq_ok_iff {value : Option α} {failure : ε} {result : α} :
    require value failure = .ok result ↔ value = some result := by
  cases value <;> simp [require]

/-- A sequence fails at its first part or at the second. -/
theorem bind_eq_error_iff {action : Except ε α} {next : α → Except ε β} {failure : ε} :
    action >>= next = .error failure ↔
      action = .error failure ∨ ∃ value, action = .ok value ∧ next value = .error failure := by
  cases action with
  | error cause => simp [bind, Except.bind]
  | ok value => simp [bind, Except.bind]

theorem throwIf_eq_error_iff {condition : Prop} [Decidable condition] {failure raised : ε} :
    throwIf condition failure = .error raised ↔ condition ∧ failure = raised := by
  by_cases h : condition <;> simp [throwIf, h]

theorem require_eq_error_iff {value : Option α} {failure raised : ε} :
    require value failure = .error raised ↔ value = none ∧ failure = raised := by
  cases value <;> simp [require]

theorem single_eq_some_iff {rows : List α} {row : α} : single rows = some row ↔ rows = [row] := by
  match rows with
  | [] => simp [single]
  | [only] => simp [single]
  | first :: second :: rest => simp [single]

/-- The only row that a condition selects is a row that meets it. -/
theorem mem_of_single_filter {rows : List α} {condition : α → Bool} {row : α}
    (h : single (rows.filter condition) = some row) : row ∈ rows ∧ condition row = true := by
  rw [← List.mem_filter, single_eq_some_iff.mp h]
  exact List.mem_singleton_self row

@[simp] theorem rethrow_eq_ok_iff {handler : ε → ε'} {action : Except ε α} {result : α} :
    rethrow handler action = .ok result ↔ action = .ok result := by
  cases action <;> simp [rethrow]

/-- The result of a check carries no information. -/
theorem exists_unit {property : Unit → Prop} : (∃ done, property done) ↔ property () :=
  Unique.exists_iff

/-- A property of states that a successful transaction keeps is kept by running
the transaction, whatever its outcome. -/
theorem commit_preserves {state : σ} {action : σ → Except ε (α × σ)} {property : σ → Prop}
    (hstate : property state)
    (haction : ∀ result next, action state = .ok (result, next) → property next) :
    property (commit state action).2 := by
  cases h : action state with
  | ok outcome => simpa [commit, h] using haction outcome.1 outcome.2 h
  | error failure => simpa [commit, h] using hstate

/-- What every step of a fallible fold keeps is kept by the fold. -/
theorem foldlM_preserves {property : σ → Prop} {items : List α} {action : σ → α → Except ε σ}
    (hstep : ∀ item ∈ items, ∀ state next, property state → action state item = .ok next → property next)
    {start final : σ}
    (hstart : property start) (h : items.foldlM action start = .ok final) : property final := by
  induction items generalizing start with
  | nil =>
    obtain rfl := pure_eq_ok_iff.mp h
    exact hstart
  | cons item rest ih =>
    rw [List.foldlM_cons] at h
    obtain ⟨next, hnext, hrest⟩ := bind_eq_ok_iff.mp h
    exact ih (fun other hother => hstep other (List.mem_cons_of_mem item hother))
      (hstep item List.mem_cons_self start next hstart hnext) hrest

/-- A fold that succeeds has taken every step. -/
theorem foldlM_steps {items : List α} {action : σ → α → Except ε σ} {start final : σ}
    (h : items.foldlM action start = .ok final) : ∀ item ∈ items, ∃ state next, action state item = .ok next := by
  induction items generalizing start with
  | nil => simp
  | cons item rest ih =>
    rw [List.foldlM_cons] at h
    obtain ⟨next, hnext, hrest⟩ := bind_eq_ok_iff.mp h
    exact List.forall_mem_cons.mpr ⟨⟨start, next, hnext⟩, ih hrest⟩

/-- A successful visit of every item has a result for each of them. -/
theorem mapM_mem {items : List α} {results : List β} {action : α → Except ε β} (h : items.mapM action = .ok results)
    {item : α} (hitem : item ∈ items) : ∃ result ∈ results, action item = .ok result := by
  induction items generalizing results with
  | nil => cases hitem
  | cons first rest ih =>
    rw [List.mapM_cons] at h
    obtain ⟨result, hresult, others, hothers, h⟩ := by simpa only [bind_eq_ok_iff, pure_eq_ok_iff] using h
    subst h
    obtain rfl | hrest := List.mem_cons.mp hitem
    · exact ⟨result, List.mem_cons_self, hresult⟩
    · obtain ⟨found, hfound, haction⟩ := ih hothers hrest
      exact ⟨found, List.mem_cons_of_mem result hfound, haction⟩

/-- Whatever a computation fails with has a property. -/
def FailsWith (property : ε → Prop) (action : Except ε α) : Prop := ∀ failure, action = .error failure →
    property failure

namespace FailsWith

variable {property : ε → Prop} {action : Except ε α} {failure : ε}

theorem bind {next : α → Except ε β} (haction : FailsWith property action)
    (hnext : ∀ value, action = .ok value → FailsWith property (next value)) : FailsWith property (action >>= next) := by
  intro failure h
  obtain hfailed | ⟨value, hvalue, hfailed⟩ := bind_eq_error_iff.mp h
  · exact haction failure hfailed
  · exact hnext value hvalue failure hfailed

theorem throwIf {condition : Prop} [Decidable condition] (h : property failure) :
    FailsWith property (checked.throwIf condition failure) := by
  intro raised hraised
  obtain ⟨-, rfl⟩ := throwIf_eq_error_iff.mp hraised
  exact h

theorem require {value : Option α} (h : property failure) : FailsWith property (checked.require value failure) := by
  intro raised hraised
  obtain ⟨-, rfl⟩ := require_eq_error_iff.mp hraised
  exact h

theorem rethrow {property : ε' → Prop} {handler : ε → ε'} (h : ∀ cause, property (handler cause)) :
    FailsWith property (checked.rethrow handler action) := by
  intro raised hraised
  cases action with
  | ok result => cases hraised
  | error cause =>
    obtain rfl := Except.error.inj hraised
    exact h cause

theorem ok {value : α} : FailsWith property (.ok value : Except ε α) := nofun

end FailsWith

/-- Every test of a list holds when all of them do. -/
theorem allM_eq_true_iff {items : List α} {test : α → Except ε Bool} :
    items.allM test = .ok true ↔ ∀ item ∈ items, test item = .ok true := by
  induction items with
  | nil => simp [List.allM, pure, Except.pure]
  | cons item rest ih =>
    rw [List.allM, bind_eq_ok_iff, List.forall_mem_cons]
    constructor
    · rintro ⟨passed, hitem, hrest⟩
      cases passed with
      | false => cases hrest
      | true => exact ⟨hitem, ih.mp hrest⟩
    · rintro ⟨hitem, hrest⟩
      exact ⟨true, hitem, ih.mpr hrest⟩

/-- The tests of a list fail at the first one that fails, if those before it hold. -/
theorem allM_eq_error_iff {items : List α} {test : α → Except ε Bool} {failure : ε} :
    items.allM test = .error failure ↔
      ∃ before item after, items = before ++ item :: after ∧ (∀ earlier ∈ before, test earlier = .ok true) ∧
        test item = .error failure := by
  induction items with
  | nil =>
    constructor
    · exact nofun
    · rintro ⟨before, item, after, h, -, -⟩
      simp at h
  | cons first rest ih =>
    rw [List.allM, bind_eq_error_iff]
    constructor
    · rintro (hfirst | ⟨passed, hfirst, hrest⟩)
      · exact ⟨[], first, rest, rfl, nofun, hfirst⟩
      · cases passed with
        | false => cases hrest
        | true =>
          obtain ⟨before, item, after, rfl, hbefore, hitem⟩ := ih.mp hrest
          exact ⟨first :: before, item, after, rfl, List.forall_mem_cons.mpr ⟨hfirst, hbefore⟩, hitem⟩
    · rintro ⟨before, item, after, h, hbefore, hitem⟩
      cases before with
      | nil =>
        obtain ⟨rfl, rfl⟩ := List.cons.inj h
        exact Or.inl hitem
      | cons head before =>
        obtain ⟨rfl, rfl⟩ := List.cons.inj h
        obtain ⟨hhead, hbefore⟩ := List.forall_mem_cons.mp hbefore
        exact Or.inr ⟨true, hhead, ih.mpr ⟨before, item, after, rfl, hbefore, hitem⟩⟩

end checked
