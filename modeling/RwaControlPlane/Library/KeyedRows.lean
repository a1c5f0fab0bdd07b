import Mathlib.Data.List.Nodup
import Mathlib.Data.List.Pairwise

namespace keyed_rows

variable {α β κ : Type*}

/-- A new key keeps the keys without repetition. -/
theorem nodup_concat {key : α → κ} {rows : List α} {row : α} (hrows : (rows.map key).Nodup)
    (hfresh : key row ∉ rows.map key) : ((rows ++ [row]).map key).Nodup := by
  rw [List.map_append]
  refine List.nodup_append.mpr ⟨hrows, List.nodup_singleton _, ?_⟩
  rintro existing hexisting _ hnew rfl
  rw [List.map_cons, List.map_nil, List.mem_singleton] at hnew
  exact hfresh (hnew ▸ hexisting)

/-- Two new keys that an index accepted one after another keep it without
repetition. -/
theorem nodup_append_pair {key : α → κ} {rows : List α} {first second : α} (hfirst : key first ∉ rows.map key)
    (hsecond : key second ∉ (rows ++ [first]).map key) (hrows : (rows.map key).Nodup) :
    ((rows ++ [first, second]).map key).Nodup := by
  have hpair := nodup_concat (nodup_concat hrows hfirst) hsecond
  rwa [List.append_assoc, List.singleton_append] at hpair

/-- Rows with a property stay when every row is rewritten to one that has it. -/
theorem exists_mem_map {rows : List α} {property : α → Prop} (change : α → α) (h : ∃ row ∈ rows, property row)
    (hchange : ∀ row, property row → property (change row)) : ∃ row ∈ rows.map change, property row := by
  obtain ⟨row, hrow, hproperty⟩ := h
  exact ⟨change row, List.mem_map_of_mem hrow, hchange row hproperty⟩

/-- Rows with a property stay when rows are inserted. -/
theorem exists_mem_append {rows more : List α} {property : α → Prop} (h : ∃ row ∈ rows, property row) :
    ∃ row ∈ rows ++ more, property row := by
  obtain ⟨row, hrow, hproperty⟩ := h
  exact ⟨row, List.mem_append_left more hrow, hproperty⟩

/-- Rewriting rows keeps what a condition selects, when it neither rewrites a
selected row nor lets a row change sides. -/
theorem filter_map_of_fixed {rows : List α} {change : α → α} {condition : α → Bool}
    (hsame : ∀ row, condition (change row) = condition row) (hfixed : ∀ row, condition row = true → change row = row) :
    (rows.map change).filter condition = rows.filter condition := by
  induction rows with
  | nil => rfl
  | cons row rows ih =>
    rw [List.map_cons, List.filter_cons, List.filter_cons, hsame, ih]
    by_cases hselected : condition row = true
    · rw [if_pos hselected, if_pos hselected, hfixed row hselected]
    · rw [if_neg hselected, if_neg hselected]

/-- Rewriting rows rewrites what a condition selects, when it lets no row change
sides. -/
theorem filter_map_of_same {rows : List α} {change : α → α} {condition : α → Bool}
    (hsame : ∀ row, condition (change row) = condition row) :
    (rows.map change).filter condition = (rows.filter condition).map change := by
  rw [List.filter_map]
  congr 1
  apply List.filter_congr
  intro row _
  exact hsame row

/-- Rewriting rows rewrites the row that a condition finds, when it lets no row
change sides. -/
theorem find_map_of_same {rows : List α} {change : α → α} {condition : α → Bool}
    (hsame : ∀ row, condition (change row) = condition row) :
    (rows.map change).find? condition = (rows.find? condition).map change := by
  rw [List.find?_map]
  congr 2
  funext row
  exact hsame row

section Update

variable [DecidableEq κ] {rows : List α} {key : α → κ} {wanted other : κ} {change : α → α}

/-- An update of the rows with one key changes the row that is found under it,
and no other. -/
theorem find_update (hkey : ∀ row, key (change row) = key row) :
    (rows.map fun row => if key row = wanted then change row else row).find? (fun row => key row = other) =
      if other = wanted then (rows.find? fun row => key row = other).map change
      else rows.find? fun row => key row = other := by
  rw [find_map_of_same fun row => by split <;> simp [hkey]]
  cases hfound : rows.find? (fun row => key row = other) with
  | none => simp
  | some row =>
    have hother : key row = other := by simpa using List.find?_some hfound
    by_cases h : other = wanted
    · simp [h, hother]
    · simp [h, hother]

/-- An update of the rows with one key changes what is selected under it, and
nothing else. -/
theorem filter_update (hkey : ∀ row, key (change row) = key row) :
    (rows.map fun row => if key row = wanted then change row else row).filter (fun row => key row = other) =
      if other = wanted then (rows.filter fun row => key row = other).map change
      else rows.filter fun row => key row = other := by
  rw [filter_map_of_same fun row => by split <;> simp [hkey]]
  have hother : ∀ row ∈ rows.filter (fun row => key row = other), key row = other := fun row hrow => by
    simpa using (List.mem_filter.mp hrow).2
  by_cases h : other = wanted
  · rw [if_pos h]
    exact List.map_congr_left fun row hrow => if_pos ((hother row hrow).trans h)
  · rw [if_neg h]
    exact (List.map_congr_left fun row hrow => if_neg ((hother row hrow).trans_ne h)).trans (List.map_id' _)

end Update

/-- A row that a condition does not select is not found among more rows. -/
theorem find_append_of_absent {rows more : List α} {condition : α → Bool}
    (habsent : ∀ row ∈ more, condition row = false) : (rows ++ more).find? condition = rows.find? condition := by
  have hmore : more.find? condition = none := List.find?_eq_none.mpr fun row hrow => by simp [habsent row hrow]
  rw [List.find?_append, hmore, Option.or_none]

/-- Rows that a condition does not select do not change what it selects. -/
theorem filter_append_of_absent {rows more : List α} {condition : α → Bool}
    (habsent : ∀ row ∈ more, condition row = false) : (rows ++ more).filter condition = rows.filter condition := by
  have hmore : more.filter condition = [] := List.filter_eq_nil_iff.mpr fun row hrow => by simp [habsent row hrow]
  rw [List.filter_append, hmore, List.append_nil]

section Children

variable {rows : List α} {key : α → κ} {children : α → List β} {condition : β → Bool}

/-- A condition that selects the children of one key finds nothing when no row
has that key. -/
theorem filter_flatMap_of_absent {wanted : κ} (habsent : wanted ∉ rows.map key)
    (hcondition : ∀ row ∈ rows, ∀ child ∈ children row, condition child = true → key row = wanted) :
    (rows.flatMap children).filter condition = [] := by
  rw [List.filter_eq_nil_iff]
  intro child hchild hselected
  obtain ⟨row, hrow, hmem⟩ := List.mem_flatMap.mp hchild
  exact habsent (List.mem_map.mpr ⟨row, hrow, hcondition row hrow child hmem hselected⟩)

/-- A condition that selects the children of the row with one key finds exactly
the children of that row. -/
theorem filter_flatMap_of_mem (hkeys : (rows.map key).Nodup) {wanted : α} (hwanted : wanted ∈ rows)
    (hcondition : ∀ row ∈ rows, ∀ child ∈ children row, (condition child = true ↔ key row = key wanted)) :
    (rows.flatMap children).filter condition = children wanted := by
  induction rows with
  | nil => cases hwanted
  | cons row rows ih =>
    rw [List.map_cons, List.nodup_cons] at hkeys
    rw [List.flatMap_cons, List.filter_append]
    have hrest := fun other hother => hcondition other (List.mem_cons_of_mem row hother)
    by_cases hrow : row = wanted
    · subst hrow
      have hall : (children row).filter condition = children row :=
        List.filter_eq_self.mpr fun child hchild =>
          (hcondition row List.mem_cons_self child hchild).mpr rfl
      have hnone : (rows.flatMap children).filter condition = [] :=
        filter_flatMap_of_absent hkeys.1 fun other hother child hchild hselected =>
          (hrest other hother child hchild).mp hselected
      rw [hall, hnone, List.append_nil]
    · have hmem : wanted ∈ rows := (List.mem_cons.mp hwanted).resolve_left (Ne.symm hrow)
      have hnone : (children row).filter condition = [] := by
        rw [List.filter_eq_nil_iff]
        intro child hchild hselected
        have hkey := (hcondition row List.mem_cons_self child hchild).mp hselected
        exact hkeys.1 (hkey ▸ List.mem_map_of_mem hmem)
      rw [hnone, List.nil_append]
      exact ih hkeys.2 hmem hrest

end Children

section Split

variable [DecidableEq κ] {rows : List α} {key : α → κ} {children : α → List β} {wanted : α}

/-- Rows split at one of them, where their keys are not repeated. -/
theorem split_of_mem (hkeys : (rows.map key).Nodup) (hwanted : wanted ∈ rows) :
    ∃ before after, rows = before ++ wanted :: after ∧
      rows.filter (fun row => key row ≠ key wanted) = before ++ after ∧
      ∀ change : α → α, rows.map (fun row => if key row = key wanted then change row else row) =
        before ++ change wanted :: after := by
  obtain ⟨before, after, rfl⟩ := List.append_of_mem hwanted
  rw [List.map_append, List.map_cons] at hkeys
  obtain ⟨-, hrest, hdisjoint⟩ := List.nodup_append.mp hkeys
  have hbefore : ∀ row ∈ before, key row ≠ key wanted := fun row hrow =>
    hdisjoint (key row) (List.mem_map_of_mem hrow) (key wanted) List.mem_cons_self
  have hafter : ∀ row ∈ after, key row ≠ key wanted := fun row hrow heq =>
    (List.nodup_cons.mp hrest).1 (heq ▸ List.mem_map_of_mem hrow)
  refine ⟨before, after, rfl, ?_, fun change => ?_⟩
  · rw [List.filter_append, List.filter_cons_of_neg (by simp), List.filter_eq_self.mpr (by simpa using hbefore),
      List.filter_eq_self.mpr (by simpa using hafter)]
  · have hkeep : ∀ kept : List α, (∀ row ∈ kept, key row ≠ key wanted) →
        kept.map (fun row => if key row = key wanted then change row else row) = kept := by
      intro kept hkept
      conv_rhs => rw [← List.map_id kept]
      exact List.map_congr_left fun row hrow => if_neg (hkept row hrow)
    rw [List.map_append, List.map_cons, if_pos rfl, hkeep before hbefore, hkeep after hafter]

/-- All children are those of one row and those of the others. -/
theorem flatMap_perm_of_mem (hkeys : (rows.map key).Nodup) (hwanted : wanted ∈ rows) :
    (children wanted ++ (rows.filter fun row => key row ≠ key wanted).flatMap children).Perm
      (rows.flatMap children) := by
  obtain ⟨before, after, hsplit, hothers, -⟩ := split_of_mem hkeys hwanted
  rw [hothers, hsplit, List.flatMap_append, List.flatMap_append, List.flatMap_cons]
  exact List.perm_append_comm_assoc _ _ _

/-- A child that is added to one row is added to all children. -/
theorem flatMap_update_perm (hkeys : (rows.map key).Nodup) (hwanted : wanted ∈ rows) {change : α → α} {child : β}
    (hchange : children (change wanted) = children wanted ++ [child]) :
    ((rows.map fun row => if key row = key wanted then change row else row).flatMap children).Perm
      (child :: rows.flatMap children) := by
  obtain ⟨before, after, hsplit, -, hupdate⟩ := split_of_mem hkeys hwanted
  rw [hupdate change, hsplit, List.flatMap_append, List.flatMap_append, List.flatMap_cons, List.flatMap_cons, hchange,
    List.append_assoc, List.singleton_append, ← List.append_assoc, ← List.append_assoc]
  exact List.perm_middle

end Split

/-- Rows whose children are not repeated share no child. -/
theorem eq_of_common_child {rows : List α} {children : α → List β} (hnodup : (rows.flatMap children).Nodup)
    {first second : α} (hfirst : first ∈ rows) (hsecond : second ∈ rows) {child : β} (hchild : child ∈ children first)
    (hchild' : child ∈ children second) : first = second := by
  by_contra hne
  have hsymm : Std.Symm (Function.onFun List.Disjoint children) :=
    ⟨fun _ _ hdisjoint _ hleft hright => hdisjoint hright hleft⟩
  have hdisjoint := (List.nodup_flatMap.mp hnodup).2.forall hfirst hsecond hne
  exact hdisjoint hchild hchild'

/-- The rows with the key of a row are that row alone. -/
theorem filter_key_of_mem [DecidableEq κ] {rows : List α} {key : α → κ} (hkeys : (rows.map key).Nodup) {wanted : α}
    (hwanted : wanted ∈ rows) : rows.filter (fun row => key row = key wanted) = [wanted] := by
  have h := @filter_flatMap_of_mem _ _ _ rows key (fun row => [row]) (fun row => key row = key wanted) hkeys wanted
    hwanted (by simp)
  simpa using h

/-- The row that is found under the key of a row is that row. -/
theorem find_key_of_mem [DecidableEq κ] {rows : List α} {key : α → κ} (hkeys : (rows.map key).Nodup) {wanted : α}
    (hwanted : wanted ∈ rows) : rows.find? (fun row => key row = key wanted) = some wanted := by
  cases hfound : rows.find? (fun row => key row = key wanted) with
  | none => exact absurd (List.find?_eq_none.mp hfound wanted hwanted) (by simp)
  | some row =>
    have hkey : key row = key wanted := by simpa using List.find?_some hfound
    rw [List.inj_on_of_nodup_map hkeys (List.mem_of_find?_eq_some hfound) hwanted hkey]

end keyed_rows
