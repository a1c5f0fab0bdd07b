import Mathlib.Algebra.Order.Group.Defs
import Mathlib.Data.List.Count

namespace fixed_window

variable {κ T : Type*}

/-- An admission of a key at a time, and when the window that counts it was started. -/
structure Admission (κ T : Type*) where
  key : κ
  time : T
  startedAt : T
deriving DecidableEq

variable [DecidableEq κ] [AddCommGroup T] [LinearOrder T] [IsOrderedAddMonoid T]

/-- Number of admissions of a key in a window. -/
def inWindow (log : List (Admission κ T)) (key : κ) (startedAt : T) : Nat :=
  log.countP fun admission => admission.key = key ∧ admission.startedAt = startedAt

/-- Number of admissions of a key in a half-open interval. -/
def inInterval (log : List (Admission κ T)) (key : κ) (start stop : T) : Nat :=
  log.countP fun admission => admission.key = key ∧ start ≤ admission.time ∧ admission.time < stop

/-- Two windows are the same, or one of them has ended when the other starts. -/
def Apart (width first second : T) : Prop :=
  first = second ∨ first + width ≤ second ∨ second + width ≤ first

/-- Every admission is in its window, and the windows of a key are apart. -/
structure Windowed (width : T) (log : List (Admission κ T)) : Prop where
  within : ∀ admission ∈ log, admission.startedAt ≤ admission.time ∧ admission.time < admission.startedAt + width
  apart : ∀ first ∈ log, ∀ second ∈ log, first.key = second.key → Apart width first.startedAt second.startedAt

variable {width start : T} {log : List (Admission κ T)} {key : κ} {limit : Nat}

omit [DecidableEq κ] [AddCommGroup T] [IsOrderedAddMonoid T] in
/-- Admissions that are all counted in one window are as many as the window admits. -/
private theorem countP_le_of_one_window [DecidableEq κ] (hlimit : ∀ key startedAt, inWindow log key startedAt ≤ limit)
    {selected : Admission κ T → Bool}
    (hone : ∀ first ∈ log, ∀ second ∈ log, selected first = true → selected second = true →
      first.key = second.key ∧ first.startedAt = second.startedAt) : log.countP selected ≤ limit := by
  by_cases hany : ∃ admission ∈ log, selected admission = true
  · obtain ⟨admission, hmem, hselected⟩ := hany
    refine le_trans (List.countP_mono_left fun other hother hchosen => ?_) (hlimit admission.key admission.startedAt)
    obtain ⟨hkey, hstarted⟩ := hone other hother admission hmem hchosen hselected
    exact decide_eq_true ⟨hkey, hstarted⟩
  · have hzero : log.countP selected = 0 := by
      rw [List.countP_eq_zero]
      exact fun admission hmem hselected => hany ⟨admission, hmem, hselected⟩
    rw [hzero]
    exact Nat.zero_le _

/-- An interval of the width of a window meets two windows of a key at most: one that
was started by its beginning, and one that is started later. -/
theorem inInterval_le (h : Windowed width log) (hlimit : ∀ key startedAt, inWindow log key startedAt ≤ limit) :
    inInterval log key start (start + width) ≤ 2 * limit := by
  have hsplit := List.countP_eq_countP_filter_add log
    (fun admission => decide (admission.key = key ∧ start ≤ admission.time ∧ admission.time < start + width))
    (fun admission => decide (admission.startedAt ≤ start))
  rw [List.countP_filter, List.countP_filter] at hsplit
  rw [inInterval, hsplit, Nat.two_mul]
  refine Nat.add_le_add (countP_le_of_one_window hlimit ?_) (countP_le_of_one_window hlimit ?_)
  · -- both windows were started by the beginning and end after it
    intro first hfirst second hsecond hchosen hchosen'
    simp only [Bool.and_eq_true, decide_eq_true_eq] at hchosen hchosen'
    obtain ⟨⟨hkey, htime, -⟩, hstarted⟩ := hchosen
    obtain ⟨⟨hkey', htime', -⟩, hstarted'⟩ := hchosen'
    refine ⟨hkey.trans hkey'.symm, ?_⟩
    obtain hsame | hbefore | hafter := h.apart first hfirst second hsecond (hkey.trans hkey'.symm)
    · exact hsame
    · have hlate := lt_of_le_of_lt htime (h.within first hfirst).2
      exact absurd (lt_of_lt_of_le hlate (le_trans hbefore hstarted')) (lt_irrefl _)
    · have hlate := lt_of_le_of_lt htime' (h.within second hsecond).2
      exact absurd (lt_of_lt_of_le hlate (le_trans hafter hstarted)) (lt_irrefl _)
  · -- both windows are started in the interval, after its beginning
    intro first hfirst second hsecond hchosen hchosen'
    simp only [Bool.and_eq_true, decide_eq_true_eq, Bool.not_eq_true', decide_eq_false_iff_not, not_le]
      at hchosen hchosen'
    obtain ⟨⟨hkey, -, htime⟩, hstarted⟩ := hchosen
    obtain ⟨⟨hkey', -, htime'⟩, hstarted'⟩ := hchosen'
    refine ⟨hkey.trans hkey'.symm, ?_⟩
    obtain hsame | hbefore | hafter := h.apart first hfirst second hsecond (hkey.trans hkey'.symm)
    · exact hsame
    · have hearly := lt_of_le_of_lt (h.within second hsecond).1 htime'
      exact absurd (lt_of_lt_of_le (add_lt_add_left hstarted width) hbefore) (not_lt.mpr hearly.le)
    · have hearly := lt_of_le_of_lt (h.within first hfirst).1 htime
      exact absurd (lt_of_lt_of_le (add_lt_add_left hstarted' width) hafter) (not_lt.mpr hearly.le)

end fixed_window
