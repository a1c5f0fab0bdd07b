import Mathlib.Data.List.Induction

namespace runs

variable {σ α : Type*}

/-- Final state of a run: the actions are taken one after another. -/
def run (step : σ → α → σ) (start : σ) (actions : List α) : σ :=
  actions.foldl step start

variable {step : σ → α → σ} {start : σ}

@[simp] theorem run_nil : run step start [] = start := rfl

@[simp] theorem run_cons {action : α} {actions : List α} :
    run step start (action :: actions) = run step (step start action) actions := rfl

theorem run_append {before after : List α} :
    run step start (before ++ after) = run step (run step start before) after :=
  List.foldl_append

@[simp] theorem run_concat {actions : List α} {action : α} :
    run step start (actions ++ [action]) = step (run step start actions) action := by
  rw [run_append, run_cons, run_nil]

/-- A view that follows the steps of another system follows its runs. -/
theorem run_view {τ : Type*} {view : σ → τ} {stepView : τ → α → τ}
    (h : ∀ state action, view (step state action) = stepView (view state) action) (actions : List α) :
    view (run step start actions) = run stepView (view start) actions := by
  induction actions generalizing start with
  | nil => rfl
  | cons action actions ih => rw [run_cons, run_cons, ih, h]

/-- What holds at the start and is kept by every step holds after every run. -/
theorem run_invariant {invariant : σ → Prop} (hstart : invariant start)
    (hstep : ∀ state action, invariant state → invariant (step state action)) (actions : List α) :
    invariant (run step start actions) := by
  induction actions generalizing start with
  | nil => exact hstart
  | cons action actions ih => exact ih (hstep start action hstart)

/-- A reflexive and transitive relation that every step extends relates the
start of a run to its end. -/
theorem run_relates {relation : σ → σ → Prop} (hrefl : ∀ state, relation state state)
    (htrans : ∀ {first second third}, relation first second → relation second third → relation first third)
    (hstep : ∀ state action, relation state (step state action)) (actions : List α) :
    relation start (run step start actions) := by
  induction actions generalizing start with
  | nil => exact hrefl start
  | cons action actions ih => exact htrans (hstep start action) ih

/-- The run invariant rule for runs whose actions are all admissible in the
state in which they are taken. -/
theorem run_invariant_of_admissible {invariant : σ → Prop} {admissible : σ → α → Prop}
    (hstep : ∀ state action, invariant state → admissible state action → invariant (step state action)) :
    ∀ {start : σ} {actions : List α}, invariant start →
      (∀ before action after, actions = before ++ action :: after →
        admissible (run step start before) action) →
      invariant (run step start actions) := by
  intro start actions
  induction actions generalizing start with
  | nil => exact fun hstart _ => hstart
  | cons action actions ih =>
    intro hstart hadmissible
    have hhead := hadmissible [] action actions rfl
    refine ih (hstep start action hstart hhead) fun before next after heq => ?_
    exact hadmissible (action :: before) next after (by rw [heq, List.cons_append])

/-- Check the actions of a run one after another. -/
def allAdmissible (step : σ → α → σ) (check : σ → α → Bool) : σ → List α → Bool
  | _, [] => true
  | state, action :: actions => check state action && allAdmissible step check (step state action) actions

theorem admissible_of_all {check : σ → α → Bool} :
    ∀ {start : σ} {actions : List α}, allAdmissible step check start actions = true →
      ∀ before action after, actions = before ++ action :: after → check (run step start before) action = true := by
  intro start actions h before
  induction before generalizing start actions with
  | nil =>
    rintro action after rfl
    exact (Bool.and_eq_true_iff.mp h).1
  | cons first before ih =>
    rintro action after rfl
    exact ih (Bool.and_eq_true_iff.mp h).2 action after rfl

/-- Where each step of a run keeps an invariant exactly if it is admissible, the
run keeps it in every state exactly if all of its steps are. -/
theorem run_invariant_iff_of_mem {invariant consistent : σ → Prop} {admissible : σ → α → Prop} {actions : List α}
    (hstart : invariant start) (hconsistent : ∀ before, consistent (run step start before))
    (hstep : ∀ state, ∀ action ∈ actions, consistent state → invariant state →
      (invariant (step state action) ↔ admissible state action)) :
    (∀ before, before <+: actions → invariant (run step start before)) ↔
      ∀ before action after, actions = before ++ action :: after → admissible (run step start before) action := by
  constructor
  · rintro h before action after rfl
    have hbefore := h before (List.prefix_append _ _)
    have hnext := h (before ++ [action]) ⟨after, by simp⟩
    rw [run_concat] at hnext
    exact (hstep _ action (by simp) (hconsistent before) hbefore).mp hnext
  · rintro h before ⟨rest, rfl⟩
    induction before using List.reverseRecOn generalizing rest with
    | nil => exact hstart
    | append_singleton before action ih =>
      have hbefore := ih (action :: rest) (fun state other hother => hstep state other (by simpa using hother))
        fun earlier next after heq => h earlier next after (by simpa using heq)
      rw [run_concat]
      exact (hstep _ action (by simp) (hconsistent before) hbefore).mpr (h before action rest (by simp))

/-- Where a step keeps an invariant exactly if it is admissible, a run keeps it in
every state exactly if all of its steps are. -/
theorem run_invariant_iff {invariant consistent : σ → Prop} {admissible : σ → α → Prop} (hstart : invariant start)
    (hconsistent : ∀ actions, consistent (run step start actions))
    (hstep : ∀ state action, consistent state → invariant state →
      (invariant (step state action) ↔ admissible state action)) (actions : List α) :
    (∀ before, before <+: actions → invariant (run step start before)) ↔
      ∀ before action after, actions = before ++ action :: after → admissible (run step start before) action :=
  run_invariant_iff_of_mem hstart hconsistent fun state action _ => hstep state action

/-- An entry of a log that every step extends was there at the start, or one step
of the run has written it, before which it was not there. -/
theorem run_entry {β : Type*} {log : σ → List β} {actions : List α} {entry : β}
    (hstep : ∀ before action, ∃ added,
      log (step (run step start before) action) = log (run step start before) ++ added)
    (h : entry ∈ log (run step start actions)) :
    entry ∈ log start ∨ ∃ before action after added, actions = before ++ action :: after ∧
      entry ∉ log (run step start before) ∧ entry ∈ added ∧
      log (step (run step start before) action) = log (run step start before) ++ added := by
  induction actions using List.reverseRecOn with
  | nil => exact Or.inl h
  | append_singleton actions action ih =>
    obtain ⟨added, hadded⟩ := hstep actions action
    by_cases hold : entry ∈ log (run step start actions)
    · obtain hstart | ⟨before, written, after, more, rfl, hfresh, hentry, hlog⟩ := ih hold
      · exact Or.inl hstart
      · exact Or.inr ⟨before, written, after ++ [action], more, by simp, hfresh, hentry, hlog⟩
    · rw [run_concat, hadded] at h
      have hnew := (List.mem_append.mp h).resolve_left hold
      exact Or.inr ⟨actions, action, [], added, rfl, hold, hnew, hadded⟩

/-- An event of an extended history is the last one or was there before. -/
theorem split_concat {history before after : List α} {last event : α}
    (h : history ++ [last] = before ++ event :: after) :
    (before = history ∧ event = last) ∨ ∃ rest, history = before ++ event :: rest := by
  rcases List.eq_nil_or_concat after with rfl | ⟨rest, final, rfl⟩
  · obtain ⟨hbefore, hevent⟩ := List.append_inj' h rfl
    exact Or.inl ⟨hbefore.symm, (List.head_eq_of_cons_eq hevent).symm⟩
  · rw [List.concat_eq_append, ← List.cons_append, ← List.append_assoc] at h
    exact Or.inr ⟨rest, List.append_inj_left' h rfl⟩

/-- Some step of the actions after a prefix of a run is an occurrence. -/
def OccursAfter (step : σ → α → σ) (start : σ) (occurs : σ → α → Prop) (earlier later : List α) : Prop :=
  ∃ first action rest, later = first ++ action :: rest ∧ occurs (run step start (earlier ++ first)) action

section Occurs

variable {occurs : σ → α → Prop} {earlier later : List α} {action : α}

theorem not_occursAfter_nil : ¬OccursAfter step start occurs earlier [] := by
  rintro ⟨first, action, rest, h, -⟩
  cases first <;> cases h

theorem occursAfter_concat :
    OccursAfter step start occurs earlier (later ++ [action]) ↔
      OccursAfter step start occurs earlier later ∨ occurs (run step start (earlier ++ later)) action := by
  constructor
  · rintro ⟨first, occurring, rest, h, hoccurs⟩
    obtain ⟨rfl, rfl⟩ | ⟨rest, rfl⟩ := split_concat h
    · exact Or.inr hoccurs
    · exact Or.inl ⟨first, occurring, rest, rfl, hoccurs⟩
  · rintro (⟨first, occurring, rest, rfl, hoccurs⟩ | hoccurs)
    · exact ⟨first, occurring, rest ++ [action], by simp, hoccurs⟩
    · exact ⟨later, action, [], rfl, hoccurs⟩

end Occurs

/-- The value of the last occurrence among the actions after a prefix of a run,
if there is one. -/
inductive LastAfter {β : Type*} (step : σ → α → σ) (start : σ) (occurs : σ → α → β → Prop) (earlier : List α) :
    List α → Option β → Prop
  | nil : LastAfter step start occurs earlier [] none
  | kept {later : List α} {action : α} {last : Option β} (hlast : LastAfter step start occurs earlier later last)
      (hnone : ∀ value, ¬occurs (run step start (earlier ++ later)) action value) :
      LastAfter step start occurs earlier (later ++ [action]) last
  | occurred {later : List α} {action : α} {value : β}
      (hoccurs : occurs (run step start (earlier ++ later)) action value) :
      LastAfter step start occurs earlier (later ++ [action]) (some value)

theorem lastAfter_total {β : Type*} (occurs : σ → α → β → Prop) (earlier later : List α) :
    ∃ last, LastAfter step start occurs earlier later last := by
  induction later using List.reverseRecOn with
  | nil => exact ⟨none, .nil⟩
  | append_singleton later action ih =>
    by_cases hoccurs : ∃ value, occurs (run step start (earlier ++ later)) action value
    · obtain ⟨value, hvalue⟩ := hoccurs
      exact ⟨some value, .occurred hvalue⟩
    · obtain ⟨last, hlast⟩ := ih
      exact ⟨last, .kept hlast fun value hvalue => hoccurs ⟨value, hvalue⟩⟩

end runs
