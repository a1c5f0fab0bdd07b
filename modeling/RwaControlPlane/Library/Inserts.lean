import Mathlib.Data.List.Nodup
import RwaControlPlane.Library.Checked

open checked

namespace inserts

variable {ε σ α κ : Type} {insert : σ → α → Except ε σ} {present : σ → α → Prop} {items : List α} {start final : σ}

/-- What a loop has inserted is there after it. -/
theorem present_of_foldlM
    (hinserted : ∀ item state next, insert state item = .ok next → present next item)
    (hkept : ∀ item state next other, insert state item = .ok next → present state other → present next other)
    (h : items.foldlM insert start = .ok final) : ∀ item ∈ items, present final item := by
  induction items generalizing start with
  | nil => simp
  | cons item rest ih =>
    rw [List.foldlM_cons] at h
    obtain ⟨next, hnext, hrest⟩ := bind_eq_ok_iff.mp h
    refine List.forall_mem_cons.mpr ⟨?_, ih hrest⟩
    exact foldlM_preserves (fun other _ state after hstate hafter => hkept other state after item hafter hstate)
      (hinserted item start next hnext) hrest

/-- A loop whose items are all there changes nothing. -/
theorem foldlM_of_present (hagain : ∀ item ∈ items, present start item → insert start item = .ok start)
    (hpresent : ∀ item ∈ items, present start item) : items.foldlM insert start = .ok start := by
  induction items with
  | nil => rfl
  | cons item rest ih =>
    rw [List.foldlM_cons, hagain item List.mem_cons_self (hpresent item List.mem_cons_self)]
    exact ih (fun other hother => hagain other (List.mem_cons_of_mem item hother))
      fun other hother => hpresent other (List.mem_cons_of_mem item hother)

section Pure

variable {ensure : σ → α → σ}

theorem present_of_foldl (hinserted : ∀ item state, present (ensure state item) item)
    (hkept : ∀ item state other, present state other → present (ensure state item) other) :
    ∀ item ∈ items, present (items.foldl ensure start) item := by
  induction items generalizing start with
  | nil => simp
  | cons item rest ih =>
    refine List.forall_mem_cons.mpr ⟨?_, ih⟩
    rw [List.foldl_cons]
    generalize hnext : ensure start item = next
    have hpresent : present next item := hnext ▸ hinserted item start
    clear hnext ih
    induction rest generalizing next with
    | nil => exact hpresent
    | cons other rest ih => exact ih (ensure next other) (hkept other next item hpresent)

theorem foldl_of_present (hagain : ∀ item ∈ items, ensure start item = start) : items.foldl ensure start = start := by
  induction items with
  | nil => rfl
  | cons item rest ih =>
    rw [List.foldl_cons, hagain item List.mem_cons_self]
    exact ih fun other hother => hagain other (List.mem_cons_of_mem item hother)

end Pure

section Fresh

variable {consistent : σ → Prop} {keys : σ → List κ} {key : α → κ} {fits : α → Prop}

/-- A loop over items with keys of their own, none of which is there, succeeds exactly if
every item fits. -/
theorem foldlM_isOk_iff
    (hfits : ∀ item ∈ items, ∀ state, consistent state → key item ∉ keys state →
      ((∃ next, insert state item = .ok next) ↔ fits item))
    (hnext : ∀ item ∈ items, ∀ state next, consistent state → key item ∉ keys state → insert state item = .ok next →
      consistent next ∧ keys next = keys state ++ [key item])
    (hkeys : (items.map key).Nodup) (hfresh : ∀ item ∈ items, key item ∉ keys start) (hstart : consistent start) :
    ((∃ final, items.foldlM insert start = .ok final) ↔ ∀ item ∈ items, fits item) ∧
      ∀ final, items.foldlM insert start = .ok final → consistent final ∧ keys final = keys start ++ items.map key := by
  induction items generalizing start with
  | nil =>
    refine ⟨by simp [pure, Except.pure], fun final h => ?_⟩
    obtain rfl := pure_eq_ok_iff.mp h
    exact ⟨hstart, by simp⟩
  | cons item rest ih =>
    rw [List.map_cons, List.nodup_cons] at hkeys
    have hunused := hfresh item List.mem_cons_self
    have hrest {next : σ} (hinserted : insert start item = .ok next) :=
      @ih next (fun other hother => hfits other (List.mem_cons_of_mem item hother))
        (fun other hother => hnext other (List.mem_cons_of_mem item hother)) hkeys.2
        (fun other hother hmem => by
          obtain ⟨-, hsame⟩ := hnext item List.mem_cons_self start next hstart hunused hinserted
          rw [hsame, List.mem_append, List.mem_singleton] at hmem
          obtain hold | hnew := hmem
          · exact hfresh other (List.mem_cons_of_mem item hother) hold
          · exact hkeys.1 (hnew ▸ List.mem_map_of_mem hother))
        (hnext item List.mem_cons_self start next hstart hunused hinserted).1
    constructor
    · rw [List.forall_mem_cons, ← hfits item List.mem_cons_self start hstart hunused]
      constructor
      · rintro ⟨final, h⟩
        rw [List.foldlM_cons] at h
        obtain ⟨next, hinserted, h⟩ := bind_eq_ok_iff.mp h
        exact ⟨⟨next, hinserted⟩, (hrest hinserted).1.mp ⟨final, h⟩⟩
      · rintro ⟨⟨next, hinserted⟩, hothers⟩
        obtain ⟨final, h⟩ := (hrest hinserted).1.mpr hothers
        exact ⟨final, by rw [List.foldlM_cons]; exact bind_eq_ok_iff.mpr ⟨next, hinserted, h⟩⟩
    · intro final h
      rw [List.foldlM_cons] at h
      obtain ⟨next, hinserted, h⟩ := bind_eq_ok_iff.mp h
      obtain ⟨hconsistent, hfinal⟩ := (hrest hinserted).2 final h
      obtain ⟨-, hsame⟩ := hnext item List.mem_cons_self start next hstart hunused hinserted
      refine ⟨hconsistent, ?_⟩
      rw [hfinal, hsame, List.map_cons, List.append_assoc]
      rfl

end Fresh

section Keyed

variable [DecidableEq κ] {key : α → κ} {rows asked : List α} {item : α}

/-- Add a row unless one has its key. -/
def insertNew (key : α → κ) (rows : List α) (item : α) : List α :=
  if key item ∈ rows.map key then rows else rows ++ [item]

theorem insertNew_nodup (h : (rows.map key).Nodup) : ((insertNew key rows item).map key).Nodup := by
  unfold insertNew
  split
  · exact h
  · next hfresh =>
    rw [List.map_append, List.map_singleton]
    refine List.Nodup.append h (List.nodup_singleton _) ?_
    exact List.disjoint_singleton.mpr hfresh

theorem insertAll_nodup (h : (rows.map key).Nodup) : ((asked.foldl (insertNew key) rows).map key).Nodup := by
  induction asked generalizing rows with
  | nil => exact h
  | cons item rest ih => exact ih (insertNew_nodup h)

/-- A row that is there was there or was asked for. -/
theorem mem_of_insertAll {row : α} (h : row ∈ asked.foldl (insertNew key) rows) : row ∈ rows ++ asked := by
  induction asked generalizing rows with
  | nil => simpa using h
  | cons item rest ih =>
    have hmem := ih h
    unfold insertNew at hmem
    split at hmem
    · simp only [List.mem_append, List.mem_cons] at hmem ⊢
      tauto
    · simpa using hmem

private theorem find?_insertNew {value : κ} :
    (insertNew key rows item).find? (fun row => decide (key row = value)) =
      (rows ++ [item]).find? (fun row => decide (key row = value)) := by
  unfold insertNew
  split
  · next hknown =>
    rw [List.find?_append]
    cases hfound : rows.find? (fun row => decide (key row = value)) with
    | some row => rfl
    | none =>
      have hne : key item ≠ value := by
        rintro rfl
        obtain ⟨row, hrow, hsame⟩ := List.mem_map.mp hknown
        exact List.find?_eq_none.mp hfound row hrow (by simpa using hsame)
      simp [hne]
  · rfl

/-- Of the rows that were asked for, the first of its key is there. -/
theorem find?_insertAll {value : κ} :
    (asked.foldl (insertNew key) rows).find? (fun row => decide (key row = value)) =
      (rows ++ asked).find? (fun row => decide (key row = value)) := by
  induction asked generalizing rows with
  | nil => simp
  | cons item rest ih =>
    rw [List.foldl_cons, ih, List.find?_append, find?_insertNew, ← List.find?_append, List.append_assoc]
    rfl

end Keyed

end inserts
