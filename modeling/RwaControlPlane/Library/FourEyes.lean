import RwaControlPlane.Library.Runs

open runs

namespace four_eyes

variable {σ α Key Subject Effect Actor View : Type}

/-- A system in which makers propose effects on subjects and checkers decide the
proposals. A key names a proposal. -/
structure Workflow (σ α Key Subject Effect Actor View : Type) where
  step : σ → α → σ
  /-- A step records a proposal. -/
  Proposes : σ → α → Key → Actor → Subject → Effect → Prop
  /-- A step decides a proposal: it approves it or not. -/
  Decides : σ → α → Key → Actor → Bool → Prop
  /-- A change of state has an effect on a subject. -/
  Effects : σ → σ → Subject → Effect → Prop
  /-- The state of a subject. -/
  view : σ → Subject → View

namespace Workflow

variable (workflow : Workflow σ α Key Subject Effect Actor View) (start : σ)

/-- The state after a run of steps. -/
def state (actions : List α) : σ := run workflow.step start actions

/-- A run contains a proposal, and its subject is now as it has been ever since. -/
def ProposedSince (actions : List α) (key : Key) (maker : Actor) (subject : Subject) (effect : Effect) : Prop :=
  ∃ earlier proposal later, actions = earlier ++ proposal :: later ∧
    workflow.Proposes (workflow.state start earlier) proposal key maker subject effect ∧
    ∀ between rest, later = between ++ rest →
      workflow.view (workflow.state start (earlier ++ proposal :: between)) subject =
        workflow.view (workflow.state start actions) subject

/-- Effects happen once, and only for what was proposed. -/
structure Governed (actions : List α) : Prop where
  /-- An effect is that of a proposal for the present state of its subject, which an
  actor other than its maker approves. -/
  approved : ∀ before action after subject effect, actions = before ++ action :: after →
    workflow.Effects (workflow.state start before) (workflow.state start (before ++ [action])) subject effect →
    ∃ key maker checker, maker ≠ checker ∧ workflow.Decides (workflow.state start before) action key checker true ∧
      workflow.ProposedSince start before key maker subject effect
  /-- No proposal is decided twice. -/
  decided_once : ∀ before action between later after key checker other approve again,
    actions = before ++ action :: between ++ later :: after →
    workflow.Decides (workflow.state start before) action key checker approve →
    ¬workflow.Decides (workflow.state start (before ++ action :: between)) later key other again
  /-- A rejection has no effect. -/
  rejected : ∀ before action after key checker, actions = before ++ action :: after →
    workflow.Decides (workflow.state start before) action key checker false →
    ∀ subject effect,
      ¬workflow.Effects (workflow.state start before) (workflow.state start (before ++ [action])) subject effect

/-- What each step of a workflow guarantees, under an invariant. A proposal whose
subject changes while it is pending is overtaken, and is not approved. -/
structure Lawful (Invariant : σ → Prop) (Pending : σ → Key → Actor → Subject → Effect → Prop)
    (Overtaken : σ → Subject → Prop) (Decided : σ → Key → Prop) : Prop where
  step : ∀ state action, Invariant state → Invariant (workflow.step state action)
  pending : ∀ {state action key maker subject effect}, Invariant state →
    Pending (workflow.step state action) key maker subject effect →
    workflow.Proposes state action key maker subject effect ∨
      Pending state key maker subject effect ∧
        (workflow.view (workflow.step state action) subject = workflow.view state subject ∨
          Overtaken (workflow.step state action) subject)
  overtaken : ∀ {state action subject}, Invariant state → Overtaken state subject →
    Overtaken (workflow.step state action) subject
  effect : ∀ {state action subject effect}, Invariant state →
    workflow.Effects state (workflow.step state action) subject effect →
    ∃ key maker checker, maker ≠ checker ∧ workflow.Decides state action key checker true ∧
      Pending state key maker subject effect ∧ ¬Overtaken state subject
  decides : ∀ {state action key checker approve}, Invariant state → workflow.Decides state action key checker approve →
    ¬Decided state key ∧ Decided (workflow.step state action) key
  decided : ∀ {state action key}, Invariant state → Decided state key → Decided (workflow.step state action) key
  rejected : ∀ {state action key checker subject effect}, Invariant state →
    workflow.Decides state action key checker false →
    ¬workflow.Effects state (workflow.step state action) subject effect

variable {workflow start}

theorem state_concat {actions : List α} {action : α} :
    workflow.state start (actions ++ [action]) = workflow.step (workflow.state start actions) action := run_concat

namespace Lawful

variable {Invariant : σ → Prop} {Pending : σ → Key → Actor → Subject → Effect → Prop}
  {Overtaken : σ → Subject → Prop} {Decided : σ → Key → Prop} {actions : List α} {key : Key} {maker : Actor}
  {subject : Subject} {effect : Effect}

theorem invariant_state (h : workflow.Lawful Invariant Pending Overtaken Decided) (hstart : Invariant start)
    (actions : List α) : Invariant (workflow.state start actions) :=
  run_invariant hstart h.step actions

/-- What is pending was proposed, and its subject is unchanged or it is overtaken. -/
theorem proposed_since (h : workflow.Lawful Invariant Pending Overtaken Decided) (hstart : Invariant start)
    (hnone : ∀ key maker subject effect, ¬Pending start key maker subject effect)
    (hpending : Pending (workflow.state start actions) key maker subject effect) :
    workflow.ProposedSince start actions key maker subject effect ∨
    Overtaken (workflow.state start actions) subject := by
  induction actions using List.reverseRecOn with
  | nil => exact absurd hpending (hnone key maker subject effect)
  | append_singleton actions action ih =>
    have hinvariant := h.invariant_state hstart actions
    rw [state_concat] at hpending ⊢
    obtain hproposes | ⟨hbefore, hview⟩ := h.pending hinvariant hpending
    · refine Or.inl ⟨actions, action, [], rfl, hproposes, fun between rest hsplit => ?_⟩
      obtain ⟨rfl, rfl⟩ := List.append_eq_nil_iff.mp hsplit.symm
      rfl
    · obtain ⟨earlier, proposal, later, rfl, hproposes, hsince⟩ | hovertaken := ih hbefore
      · obtain hview | hovertaken := hview
        · refine Or.inl ⟨earlier, proposal, later ++ [action], by simp, hproposes, fun between rest hsplit => ?_⟩
          rw [state_concat, hview]
          obtain rfl | ⟨rest, last, rfl⟩ := List.eq_nil_or_concat rest
          · rw [List.append_nil] at hsplit
            rw [← hsplit, ← List.cons_append, ← List.append_assoc, state_concat, hview]
          · rw [List.concat_eq_append, ← List.append_assoc] at hsplit
            exact hsince between rest (List.append_inj_left' hsplit rfl)
        · exact Or.inr hovertaken
      · exact Or.inr (h.overtaken hinvariant hovertaken)

theorem decided_after (h : workflow.Lawful Invariant Pending Overtaken Decided) (hstart : Invariant start)
    {before : List α} (after : List α) (hdecided : Decided (workflow.state start before) key) :
    Decided (workflow.state start (before ++ after)) key := by
  induction after using List.reverseRecOn with
  | nil => rwa [List.append_nil]
  | append_singleton after action ih =>
    rw [← List.append_assoc, state_concat]
    exact h.decided (h.invariant_state hstart _) ih

/-- A lawful workflow that starts without proposals is governed in every run. -/
theorem governed (h : workflow.Lawful Invariant Pending Overtaken Decided) (hstart : Invariant start)
    (hnone : ∀ key maker subject effect, ¬Pending start key maker subject effect) (actions : List α) :
    workflow.Governed start actions where
  approved := by
    intro before action after subject effect _ heffect
    rw [state_concat] at heffect
    obtain ⟨key, maker, checker, hdiffer, hdecides, hpending, hcurrent⟩ :=
      h.effect (h.invariant_state hstart before) heffect
    obtain hsince | hovertaken := h.proposed_since hstart hnone hpending
    · exact ⟨key, maker, checker, hdiffer, hdecides, hsince⟩
    · exact absurd hovertaken hcurrent
  decided_once := by
    intro before action between later after key checker other approve again _ hfirst hsecond
    obtain ⟨-, hdecided⟩ := h.decides (h.invariant_state hstart before) hfirst
    rw [← state_concat] at hdecided
    have hlater := h.decided_after hstart between hdecided
    rw [List.append_assoc, List.singleton_append] at hlater
    exact (h.decides (h.invariant_state hstart _) hsecond).1 hlater
  rejected := by
    intro before action after key checker _ hdecides subject effect
    rw [state_concat]
    exact h.rejected (h.invariant_state hstart before) hdecides

end Lawful

end Workflow

end four_eyes
