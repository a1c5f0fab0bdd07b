import RwaControlPlane.Library.Checked
import RwaControlPlane.Library.Runs
import Mathlib.Data.List.Basic

open checked runs

namespace related

variable {ε α β γ δ σ : Type}

/-- Outcomes that fail in the same way, or succeed with related results. -/
def Related (relation : α → β → Prop) : Except ε α → Except ε β → Prop
  | .ok first, .ok second => relation first second
  | .error failure, .error other => failure = other
  | _, _ => False

variable {relation : α → β → Prop} {first : Except ε α} {second : Except ε β}

theorem Related.imp {weaker : α → β → Prop} (h : Related relation first second)
    (himp : ∀ value other, relation value other → weaker value other) : Related weaker first second := by
  cases first <;> cases second
  · exact h
  · exact h
  · exact h
  · exact himp _ _ h

theorem Related.refl (outcome : Except ε α) : Related (fun first second => first = second) outcome outcome := by
  cases outcome <;> rfl

/-- Outcomes that are seen alike. -/
theorem related_of_map_eq {view : α → γ} {glance : β → γ} (h : first.map view = second.map glance) :
    Related (fun value other => view value = glance other) first second := by
  cases first <;> cases second
  · exact Except.error.inj h
  · cases h
  · cases h
  · exact Except.ok.inj h

/-- What follows related outcomes is related. -/
theorem Related.bind {next : α → Except ε γ} {other : β → Except ε δ} {result : γ → δ → Prop}
    (h : Related relation first second)
    (hnext : ∀ value later, relation value later → Related result (next value) (other later)) :
    Related result (first >>= next) (second >>= other) := by
  cases first <;> cases second
  · exact h
  · exact h.elim
  · exact h.elim
  · exact hnext _ _ h

theorem Related.pure {value : α} {other : β} (h : relation value other) :
    Related relation (Pure.pure value : Except ε α) (Pure.pure other) := h

/-- Checks of equivalent conditions go alike. -/
theorem related_throwIf {condition other : Prop} [Decidable condition] [Decidable other] {failure : ε}
    (h : condition ↔ other) : Related (fun _ _ => True) (throwIf condition failure) (throwIf other failure) := by
  by_cases hcondition : condition
  · rw [throwIf, if_pos hcondition, throwIf, if_pos (h.mp hcondition)]
    rfl
  · rw [throwIf, if_neg hcondition, throwIf, if_neg (mt h.mpr hcondition)]
    trivial

/-- What follows checks that go alike may use that neither condition holds. -/
theorem related_throwIf_bind {condition other : Prop} [Decidable condition] [Decidable other] {failure : ε}
    {next : Unit → Except ε γ} {later : Unit → Except ε δ} {result : γ → δ → Prop} (h : condition ↔ other)
    (hnext : ¬condition → Related result (next ()) (later ())) :
    Related result (throwIf condition failure >>= next) (throwIf other failure >>= later) := by
  by_cases hcondition : condition
  · rw [throwIf, if_pos hcondition, throwIf, if_pos (h.mp hcondition)]
    rfl
  · rw [throwIf, if_neg hcondition, throwIf, if_neg (mt h.mpr hcondition)]
    exact hnext hcondition

/-- Options that are both empty, or hold related values. -/
def Both (relation : α → β → Prop) : Option α → Option β → Prop
  | some first, some second => relation first second
  | none, none => True
  | _, _ => False

theorem related_require {value : Option α} {other : Option β} {failure : ε} (h : Both relation value other) :
    Related relation (require value failure) (require other failure) := by
  cases value <;> cases other
  · rfl
  · exact h.elim
  · exact h.elim
  · exact h

/-- Actions that look alike keep two runs related. -/
theorem run_related {τ : Type} {step : σ → α → σ} {other : τ → β → τ} {states : σ → τ → Prop} {view : α → γ}
    {glance : β → γ} (hstep : ∀ {state : σ} {counterpart : τ} {action : α} {later : β}, states state counterpart →
      view action = glance later → states (step state action) (other counterpart later))
    {start : σ} {origin : τ} {actions : List α} {counterparts : List β} (hstart : states start origin)
    (h : actions.map view = counterparts.map glance) :
    states (run step start actions) (run other origin counterparts) := by
  induction actions generalizing start origin counterparts with
  | nil =>
    obtain rfl : counterparts = [] := by simpa using h.symm
    exact hstart
  | cons action rest ih =>
    cases counterparts with
    | nil => cases h
    | cons counterpart remaining =>
      rw [List.map_cons, List.map_cons, List.cons.injEq] at h
      rw [run_cons, run_cons]
      exact ih (hstep hstart h.1) h.2

section Rows

variable {change : α → γ} {counterpart : β → γ} {rows : List α} {others : List β}

/-- Rows that look alike are found alike. -/
theorem both_find {condition : α → Bool} {selects : β → Bool} {alike : γ → Bool}
    (h : rows.map change = others.map counterpart) (hcondition : ∀ row, condition row = alike (change row))
    (hselects : ∀ row, selects row = alike (counterpart row)) :
    Both (fun row other => change row = counterpart other) (rows.find? condition) (others.find? selects) := by
  have hfirst : (rows.find? condition).map change = (rows.map change).find? alike := by
    rw [List.find?_map]
    congr 2
    funext row
    exact hcondition row
  have hsecond : (others.find? selects).map counterpart = (others.map counterpart).find? alike := by
    rw [List.find?_map]
    congr 2
    funext row
    exact hselects row
  rw [h, ← hsecond] at hfirst
  cases hfound : rows.find? condition <;> cases hother : others.find? selects
  · trivial
  · simp [hfound, hother] at hfirst
  · simp [hfound, hother] at hfirst
  · rw [hfound, hother] at hfirst
    exact Option.some.inj hfirst

/-- The only rows of lists that look alike, look alike. -/
theorem both_single (h : rows.map change = others.map counterpart) :
    Both (fun row other => change row = counterpart other) (single rows) (single others) := by
  match rows, others with
  | [], [] => trivial
  | [row], [other] => exact (List.cons.inj h).1
  | _ :: _ :: _, _ :: _ :: _ => trivial
  | [], _ :: _ => cases h
  | _ :: _, [] => cases h
  | [_], _ :: _ :: _ => simp at h
  | _ :: _ :: _, [_] => simp at h

/-- Rows that look alike are selected alike. -/
theorem map_filter_eq {condition : α → Bool} {selects : β → Bool} {alike : γ → Bool}
    (h : rows.map change = others.map counterpart) (hcondition : ∀ row, condition row = alike (change row))
    (hselects : ∀ row, selects row = alike (counterpart row)) :
    (rows.filter condition).map change = (others.filter selects).map counterpart := by
  obtain rfl : condition = alike ∘ change := funext hcondition
  obtain rfl : selects = alike ∘ counterpart := funext hselects
  rw [← List.filter_map, ← List.filter_map, h]

/-- Rows that look alike have the same keys. -/
theorem map_key_eq {δ : Type} {key : α → δ} {other : β → δ} {common : γ → δ}
    (h : rows.map change = others.map counterpart) (hkey : ∀ row, key row = common (change row))
    (hother : ∀ row, other row = common (counterpart row)) : rows.map key = others.map other := by
  obtain rfl : key = common ∘ change := funext hkey
  obtain rfl : other = common ∘ counterpart := funext hother
  rw [← List.map_map, ← List.map_map, h]

theorem exists_mem_iff {holds : α → Prop} {meets : β → Prop} {common : γ → Prop}
    (h : rows.map change = others.map counterpart) (hholds : ∀ row, holds row ↔ common (change row))
    (hmeets : ∀ row, meets row ↔ common (counterpart row)) :
    (∃ row ∈ rows, holds row) ↔ ∃ row ∈ others, meets row := by
  have hrows : (∃ row ∈ rows, holds row) ↔ ∃ value ∈ rows.map change, common value := by
    simp [hholds]
  have hothers : (∃ row ∈ others, meets row) ↔ ∃ value ∈ others.map counterpart, common value := by
    simp [hmeets]
  rw [hrows, hothers, h]

/-- Rows that look alike still do when they are changed alike. -/
theorem map_update_eq {update : α → α} {revise : β → β} {common : γ → γ}
    (h : rows.map change = others.map counterpart) (hupdate : ∀ row, change (update row) = common (change row))
    (hrevise : ∀ row, counterpart (revise row) = common (counterpart row)) :
    (rows.map update).map change = (others.map revise).map counterpart := by
  rw [List.map_map, List.map_map]
  exact map_key_eq h hupdate hrevise

theorem map_concat_eq {row : α} {other : β} (h : rows.map change = others.map counterpart)
    (hrow : change row = counterpart other) : (rows ++ [row]).map change = (others ++ [other]).map counterpart := by
  rw [List.map_append, List.map_append, h, List.map_singleton, List.map_singleton, hrow]

/-- A second look at rows that look alike agrees exactly if it agrees row by row. -/
theorem map_eq_map_iff_of_alike {δ : Type} {look : α → δ} {glance : β → δ} {agrees : α → Prop}
    (h : rows.map change = others.map counterpart)
    (hlook : ∀ row ∈ rows, ∀ other, change row = counterpart other → (look row = glance other ↔ agrees row)) :
    rows.map look = others.map glance ↔ ∀ row ∈ rows, agrees row := by
  induction rows generalizing others with
  | nil =>
    obtain rfl : others = [] := by simpa using h.symm
    simp
  | cons row rest ih =>
    cases others with
    | nil => simp at h
    | cons other remaining =>
      rw [List.map_cons, List.map_cons, List.cons.injEq] at h
      rw [List.map_cons, List.map_cons, List.cons.injEq, List.forall_mem_cons,
        hlook row List.mem_cons_self other h.1,
        ih h.2 fun later hlater => hlook later (List.mem_cons_of_mem row hlater)]

end Rows

end related
