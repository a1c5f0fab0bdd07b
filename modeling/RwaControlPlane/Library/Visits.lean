import Mathlib.Logic.Basic

namespace visits

variable {ε α β γ : Type}

/-- Visit rows in order. A failure that withholds the row skips it, and any other
failure ends the visits. -/
def visitAll (visit : α → Except ε β) (withholds : ε → Bool) : List α → Except ε (List β)
  | [] => .ok []
  | row :: rest =>
    match visit row with
    | .ok item => (visitAll visit withholds rest).map (item :: ·)
    | .error failure => if withholds failure then visitAll visit withholds rest else .error failure

variable {visit : α → Except ε β} {withholds : ε → Bool} {rows : List α}

theorem visitAll_withheld {row : α} {failure : ε} (hvisit : visit row = .error failure)
    (hwithholds : withholds failure = true) : visitAll visit withholds
    (row :: rows) = visitAll visit withholds rows := by
  simp [visitAll, hvisit, hwithholds]

theorem visitAll_failed {row : α} {failure : ε} (hvisit : visit row = .error failure)
    (hwithholds : withholds failure = false) : visitAll visit withholds (row :: rows) = .error failure := by
  simp [visitAll, hvisit, hwithholds]

theorem visitAll_shown {row : α} {item : β} (hvisit : visit row = .ok item) :
    visitAll visit withholds (row :: rows) = (visitAll visit withholds rows).map (item :: ·) := by
  simp [visitAll, hvisit]

theorem visitAll_map {f : γ → α} {keys : List γ} :
    visitAll visit withholds (keys.map f) = visitAll (fun key => visit (f key)) withholds keys := by
  induction keys with
  | nil => rfl
  | cons key rest ih =>
    rw [List.map_cons]
    unfold visitAll
    rw [ih]

/-- Rows that would be withheld need not be visited. -/
theorem visitAll_filter {keep : α → Bool}
    (h : ∀ row ∈ rows, keep row = false → ∃ failure, visit row = .error failure ∧ withholds failure = true) :
    visitAll visit withholds (rows.filter keep) = visitAll visit withholds rows := by
  induction rows with
  | nil => rfl
  | cons row rest ih =>
    have hrest := ih fun other hother => h other (List.mem_cons_of_mem row hother)
    cases hkeep : keep row with
    | true =>
      rw [List.filter_cons_of_pos hkeep]
      unfold visitAll
      rw [hrest]
    | false =>
      obtain ⟨failure, hvisit, hwithholds⟩ := h row List.mem_cons_self hkeep
      rw [List.filter_cons_of_neg (by simp [hkeep]), hrest, visitAll_withheld hvisit hwithholds]

variable {read : α → Except ε γ} {shown : α × γ → Bool} {describe : α × γ → Except ε β}

/-- Every row is read, and those that are shown are described. -/
def readAll (read : α → Except ε γ) (shown : α × γ → Bool) (describe : α × γ → Except ε β) (rows : List α) :
    Except ε (List β) := do
  let contents ← rows.mapM fun row => (read row).map fun content => (row, content)
  (contents.filter shown).mapM describe

/-- The rows behind the first are read apart from it. -/
private theorem readAll_cons_eq_ok_iff {row : α} {items : List β} :
    readAll read shown describe (row :: rows) = .ok items ↔ ∃ content, read row = .ok content ∧
      if shown (row, content) then ∃ item others, describe (row, content) = .ok item ∧
        readAll read shown describe rows = .ok others ∧ items = item :: others
      else readAll read shown describe rows = .ok items := by
  unfold readAll
  rw [List.mapM_cons]
  cases hcontent : read row with
  | error failure => simp [Except.map, bind, Except.bind]
  | ok content =>
    cases hcontents : rows.mapM (fun other => (read other).map fun content => (other, content)) with
    | error failure => simp [Except.map, bind, Except.bind]
    | ok contents =>
      cases hshown : shown (row, content) with
      | false => simp [Except.map, bind, Except.bind, pure, Except.pure, hshown]
      | true =>
        cases hitem : describe (row, content) with
        | error failure => simp [Except.map, bind, Except.bind, pure, Except.pure, hshown, hitem]
        | ok item =>
          cases hothers : (contents.filter shown).mapM describe with
          | error failure => simp [Except.map, bind, Except.bind, pure, Except.pure, hshown, hitem, hothers]
          | ok others =>
            simp only [Except.map, bind, Except.bind, pure, Except.pure, List.filter_cons_of_pos hshown, List.mapM_cons,
              hitem, hothers, Except.ok.injEq, exists_eq_left', hshown, if_true, exists_and_left]
            exact eq_comm

/-- Where a visit reads its row, and withholds exactly what is not shown, the visits
describe the rows that are shown, in their order. -/
theorem visitAll_eq_ok_iff {denied : ε} (hdenied : withholds denied = true)
    (hvisit : ∀ row ∈ rows, ∀ content, read row = .ok content →
      visit row = if shown (row, content) then describe (row, content) else .error denied)
    (hfailed : ∀ row ∈ rows, ∀ failure, read row = .error failure →
      ∃ cause, visit row = .error cause ∧ withholds cause = false)
    (hdescribe : ∀ entry failure, describe entry = .error failure → withholds failure = false) {items : List β} :
    visitAll visit withholds rows = .ok items ↔ readAll read shown describe rows = .ok items := by
  induction rows generalizing items with
  | nil => rfl
  | cons row rest ih =>
    have hrest : ∀ items, visitAll visit withholds rest = .ok items ↔ readAll read shown describe rest = .ok items :=
      fun items => ih (fun other hother => hvisit other (List.mem_cons_of_mem row hother))
        fun other hother => hfailed other (List.mem_cons_of_mem row hother)
    rw [readAll_cons_eq_ok_iff]
    cases hcontent : read row with
    | error failure =>
      obtain ⟨cause, hcause, hthrown⟩ := hfailed row List.mem_cons_self failure hcontent
      rw [visitAll_failed hcause hthrown]
      simp
    | ok content =>
      have hrow := hvisit row List.mem_cons_self content hcontent
      simp only [Except.ok.injEq, exists_eq_left']
      cases hshown : shown (row, content) with
      | false =>
        rw [hshown, if_neg (by simp)] at hrow
        rw [visitAll_withheld hrow hdenied, if_neg (by simp)]
        exact hrest items
      | true =>
        rw [hshown, if_pos rfl] at hrow
        rw [if_pos rfl]
        cases hitem : describe (row, content) with
        | error failure =>
          rw [visitAll_failed (hrow.trans hitem) (hdescribe _ failure hitem)]
          simp
        | ok item =>
          rw [visitAll_shown (hrow.trans hitem)]
          simp only [← hrest, Except.ok.injEq]
          cases visitAll visit withholds rest with
          | error failure => simp [Except.map]
          | ok others => simp [Except.map, eq_comm]

end visits
