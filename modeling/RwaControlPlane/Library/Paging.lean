import RwaControlPlane.Library.JsJson

namespace paging

section Order

variable {α : Type} {κ : Type*} [LinearOrder κ]

/-- `ORDER BY key` -/
def inOrder (key : α → κ) (rows : List α) : List α :=
  rows.insertionSort fun first second => key first ≤ key second

/-- Rows in the strictly increasing order of their keys. -/
def Ordered (key : α → κ) (rows : List α) : Prop :=
  rows.Pairwise fun first second => key first < key second

variable {key : α → κ} {rows : List α}

@[simp] theorem mem_inOrder {row : α} : row ∈ inOrder key rows ↔ row ∈ rows :=
  List.mem_insertionSort _

@[simp] theorem length_inOrder : (inOrder key rows).length = rows.length :=
  List.length_insertionSort _ _

theorem inOrder_perm : (inOrder key rows).Perm rows :=
  List.perm_insertionSort _ _

theorem filter_inOrder {keep : α → Bool} : (inOrder key rows).filter keep = inOrder key (rows.filter keep) :=
  js_value.filter_insertionSort (fun first second => le_total (key first) (key second))
    fun first second third => @le_trans κ _ (key first) (key second) (key third)

theorem ordered_inOrder (hkeys : (rows.map key).Nodup) : Ordered key (inOrder key rows) := by
  have htotal : Std.Total fun first second : α => key first ≤ key second :=
    ⟨fun first second => le_total (key first) (key second)⟩
  have htrans : IsTrans α fun first second => key first ≤ key second :=
    ⟨fun first second third => @le_trans κ _ (key first) (key second) (key third)⟩
  have hsorted := List.pairwise_insertionSort (fun first second : α => key first ≤ key second) rows
  have hperm : (inOrder key rows).Perm rows := inOrder_perm
  have hdistinct := List.pairwise_map.mp ((hperm.map key).nodup_iff.mpr hkeys)
  exact (hsorted.and hdistinct).imp fun h => lt_of_le_of_ne h.1 h.2

/-- Rows that are in order already stay as they are. -/
theorem Ordered.inOrder_eq (h : Ordered key rows) : inOrder key rows = rows := by
  have hsorted : rows.Pairwise fun first second => key first ≤ key second := h.imp le_of_lt
  exact hsorted.insertionSort_eq

theorem Ordered.filter {keep : α → Bool} (h : Ordered key rows) : Ordered key (rows.filter keep) :=
  List.Pairwise.filter keep h

/-- The rows up to a bound are those up to a smaller one and those between the
two. -/
theorem Ordered.split {lower upper : κ} (h : Ordered key rows) (hle : lower ≤ upper) :
    rows.filter (fun row => key row ≤ upper) = rows.filter (fun row => key row ≤ lower) ++
      rows.filter (fun row => lower < key row ∧ key row ≤ upper) := by
  induction rows with
  | nil => rfl
  | cons row rest ih =>
    obtain ⟨hrow, hrest⟩ := List.pairwise_cons.mp h
    by_cases hlow : key row ≤ lower
    · have hupper : key row ≤ upper := hlow.trans hle
      have hnot : ¬lower < key row := not_lt.mpr hlow
      simp [hlow, hupper, hnot, ih hrest]
    · have habove : ∀ later ∈ row :: rest, lower < key later := by
        intro later hlater
        obtain rfl | hmem := List.mem_cons.mp hlater
        · exact not_le.mp hlow
        · exact (not_le.mp hlow).trans (hrow later hmem)
      have hnone : (row :: rest).filter (fun row => key row ≤ lower) = [] := by
        rw [List.filter_eq_nil_iff]
        intro later hlater
        simpa using habove later hlater
      rw [hnone, List.nil_append]
      refine List.filter_congr fun later hlater => ?_
      simp [habove later hlater]

end Order

section Page

variable {α : Type} {key : α → Int} {rows : List α} {batch : Nat}

/-- After a full page the rows that remain are those above its last row. -/
theorem Ordered.rest_of_page {last : α} (h : Ordered key rows) (hlast : (rows.take batch).getLast? = some last) :
    rows.drop batch = rows.filter fun row => key last + 1 ≤ key row := by
  obtain ⟨page, hpage⟩ := List.getLast?_eq_some_iff.mp hlast
  have hrows : rows = page ++ [last] ++ rows.drop batch := by rw [← hpage, List.take_append_drop]
  generalize rows.drop batch = rest at hrows
  subst hrows
  obtain ⟨hfirst, -, hcross⟩ := List.pairwise_append.mp h
  obtain ⟨-, -, hbefore⟩ := List.pairwise_append.mp hfirst
  rw [List.filter_append, List.filter_append]
  have hpage_none : page.filter (fun row => key last + 1 ≤ key row) = [] := by
    rw [List.filter_eq_nil_iff]
    intro row hrow
    have := hbefore row hrow last (by simp)
    simp only [decide_eq_true_eq]
    omega
  have hrest_all : rest.filter (fun row => key last + 1 ≤ key row) = rest := by
    rw [List.filter_eq_self]
    intro row hrow
    have := hcross last (by simp) row hrow
    simp only [decide_eq_true_eq]
    omega
  have hlast_out : ¬key last + 1 ≤ key last := by omega
  simp only [hpage_none, hrest_all, List.filter_singleton, hlast_out, decide_false, List.nil_append]
  rfl

end Page

end paging
