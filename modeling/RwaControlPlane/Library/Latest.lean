import Mathlib.Data.List.Sort

namespace latest

variable {α : Type*}

/-- A row that no other row is later than. -/
def IsLatest (time : α → Int) (rows : List α) (row : α) : Prop :=
  row ∈ rows ∧ ∀ other ∈ rows, time other ≤ time row

variable {time : α → Int} {rows : List α} {row : α}

/-- Sorting by time, last first, puts a latest row in front. -/
theorem isLatest_head {r : α → α → Prop} [DecidableRel r]
    (hr : ∀ first second, r first second ↔ time second ≤ time first)
    (h : (rows.insertionSort r).head? = some row) : IsLatest time rows row := by
  have htotal : Std.Total r := ⟨fun first second => by rw [hr, hr]; exact le_total _ _⟩
  have htrans : IsTrans α r := ⟨fun _ _ _ h h' => (hr _ _).mpr (((hr _ _).mp h').trans ((hr _ _).mp h))⟩
  have hsorted := List.pairwise_insertionSort r rows
  have hmem (other : α) : other ∈ rows.insertionSort r ↔ other ∈ rows := List.mem_insertionSort r
  obtain ⟨rest, hrest⟩ : ∃ rest, rows.insertionSort r = row :: rest := List.head?_eq_some_iff.mp h
  rw [hrest] at hsorted hmem
  refine ⟨(hmem row).mp List.mem_cons_self, fun other hother => ?_⟩
  obtain rfl | hlater := List.mem_cons.mp ((hmem other).mpr hother)
  · exact le_refl _
  · exact (hr row other).mp ((List.pairwise_cons.mp hsorted).1 other hlater)

/-- Sorting finds a row when there is one. -/
theorem head_insertionSort_eq_none_iff {r : α → α → Prop} [DecidableRel r] :
    (rows.insertionSort r).head? = none ↔ rows = [] := by
  rw [List.head?_eq_none_iff, ← List.length_eq_zero_iff, List.length_insertionSort, List.length_eq_zero_iff]

/-- The latest of the rows that are kept is the latest of all rows exactly when a
latest row is kept. -/
theorem isLatest_iff_of_filter {keep : α → Bool} (h : IsLatest time (rows.filter keep) row) :
    IsLatest time rows row ↔ ∃ top, IsLatest time rows top ∧ keep top = true := by
  obtain ⟨hmem, hkept⟩ := List.mem_filter.mp h.1
  constructor
  · exact fun hlatest => ⟨row, hlatest, hkept⟩
  · rintro ⟨top, ⟨htop, hall⟩, hkeep⟩
    refine ⟨hmem, fun other hother => (hall other hother).trans ?_⟩
    exact h.2 top (List.mem_filter.mpr ⟨htop, hkeep⟩)

end latest
