import Mathlib.Algebra.BigOperators.Group.List.Basic
import Mathlib.Data.List.Nodup
import Mathlib.Algebra.Ring.Int.Defs

namespace js_map

variable {κ ν : Type}

/-- The insertion-ordered map of JavaScript. No key has two entries. -/
@[ext] structure JsMap (κ ν : Type) where
  entries : List (κ × ν)
  nodup : (entries.map Prod.fst).Nodup
deriving DecidableEq

def empty : JsMap κ ν := ⟨[], List.nodup_nil⟩

instance : Inhabited (JsMap κ ν) := ⟨empty⟩

variable [DecidableEq κ]

/-- Value of a key in a list of entries. -/
def lookup (key : κ) : List (κ × ν) → Option ν
  | [] => none
  | entry :: rest => if entry.1 = key then some entry.2 else lookup key rest

/-- Entries after an assignment: an old key keeps its place, a new one is last. -/
def assign (key : κ) (value : ν) : List (κ × ν) → List (κ × ν)
  | [] => [(key, value)]
  | entry :: rest => if entry.1 = key then (key, value) :: rest else entry :: assign key value rest

private theorem mem_keys_assign {key other : κ} {value : ν} {entries : List (κ × ν)} :
    other ∈ (assign key value entries).map Prod.fst ↔ other = key ∨ other ∈ entries.map Prod.fst := by
  induction entries with
  | nil => simp [assign]
  | cons entry rest ih =>
    by_cases hkey : entry.1 = key
    · simp [assign, hkey]
    · simp only [assign, if_neg hkey, List.map_cons, List.mem_cons, ih]
      tauto

private theorem nodup_assign {key : κ} {value : ν} {entries : List (κ × ν)} (h : (entries.map Prod.fst).Nodup) :
    ((assign key value entries).map Prod.fst).Nodup := by
  induction entries with
  | nil => simp [assign]
  | cons entry rest ih =>
    rw [List.map_cons, List.nodup_cons] at h
    by_cases hkey : entry.1 = key
    · rw [hkey] at h
      simpa [assign, hkey] using h
    · simp only [assign, if_neg hkey, List.map_cons, List.nodup_cons, mem_keys_assign, not_or]
      exact ⟨⟨hkey, h.1⟩, ih h.2⟩

def JsMap.get (map : JsMap κ ν) (key : κ) : Option ν := lookup key map.entries

def JsMap.has (map : JsMap κ ν) (key : κ) : Bool := (map.get key).isSome

def JsMap.set (map : JsMap κ ν) (key : κ) (value : ν) : JsMap κ ν :=
  ⟨assign key value map.entries, nodup_assign map.nodup⟩

def JsMap.values (map : JsMap κ ν) : List ν := map.entries.map Prod.snd

/-- Sum of a quantity over all entries. -/
def JsMap.total (map : JsMap κ ν) (weight : κ → ν → Int) : Int :=
  (map.entries.map fun entry => weight entry.1 entry.2).sum

omit [DecidableEq κ] in
@[simp] theorem total_empty {weight : κ → ν → Int} : (empty : JsMap κ ν).total weight = 0 := rfl

variable {map : JsMap κ ν} {key other : κ} {value : ν}

@[simp] theorem get_empty : (empty : JsMap κ ν).get key = none := rfl

private theorem lookup_assign {entries : List (κ × ν)} :
    lookup other (assign key value entries) = if other = key then some value else lookup other entries := by
  induction entries with
  | nil => simp [assign, lookup, eq_comm]
  | cons entry rest ih =>
    by_cases hkey : entry.1 = key
    · by_cases hother : other = key
      · simp [assign, lookup, hkey, hother]
      · have hne : ¬key = other := fun h => hother h.symm
        simp [assign, lookup, hkey, hother, hne]
    · by_cases hentry : entry.1 = other
      · have hother : ¬other = key := fun h => hkey (hentry.trans h)
        simp [assign, lookup, hentry, hother]
      · simp [assign, lookup, hkey, hentry, ih]

theorem get_set : (map.set key value).get other = if other = key then some value else map.get other :=
  lookup_assign

@[simp] theorem get_set_self : (map.set key value).get key = some value := by
  rw [get_set, if_pos rfl]

theorem get_set_of_ne (h : other ≠ key) : (map.set key value).get other = map.get other := by
  rw [get_set, if_neg h]

private theorem assign_assign {entries : List (κ × ν)} {first : ν} :
    assign key value (assign key first entries) = assign key value entries := by
  induction entries with
  | nil => simp [assign]
  | cons entry rest ih =>
    by_cases hkey : entry.1 = key
    · simp [assign, hkey]
    · simp [assign, hkey, ih]

/-- The last assignment of a key counts. -/
@[simp] theorem set_set {first : ν} : (map.set key first).set key value = map.set key value :=
  JsMap.ext assign_assign

private theorem assign_lookup {entries : List (κ × ν)} (h : lookup key entries = some value) :
    assign key value entries = entries := by
  induction entries with
  | nil => cases h
  | cons entry rest ih =>
    by_cases hkey : entry.1 = key
    · rw [lookup, if_pos hkey] at h
      rw [assign, if_pos hkey, ← hkey, ← Option.some.inj h]
    · rw [lookup, if_neg hkey] at h
      rw [assign, if_neg hkey, ih h]

/-- An assignment changes nothing exactly when the key has that value. -/
theorem set_eq_self_iff : map.set key value = map ↔ map.get key = some value := by
  constructor
  · intro h
    rw [← h]
    exact get_set_self
  · intro h
    exact JsMap.ext (assign_lookup h)

theorem has_eq_false_iff : map.has key = false ↔ map.get key = none := by
  rw [JsMap.has, Option.isSome_eq_false_iff, Option.isNone_iff_eq_none]

private theorem mem_iff_lookup {entries : List (κ × ν)} (h : (entries.map Prod.fst).Nodup) :
    (key, value) ∈ entries ↔ lookup key entries = some value := by
  induction entries with
  | nil => simp [lookup]
  | cons entry rest ih =>
    rw [List.map_cons, List.nodup_cons] at h
    obtain ⟨first, second⟩ := entry
    by_cases hkey : first = key
    · subst hkey
      have hrest : (first, value) ∉ rest := fun hmem => h.1 (List.mem_map.mpr ⟨_, hmem, rfl⟩)
      simp [lookup, hrest, eq_comm]
    · have hne : ¬key = first := fun heq => hkey heq.symm
      simp [lookup, hkey, hne, ih h.2]

theorem mem_entries : (key, value) ∈ map.entries ↔ map.get key = some value :=
  mem_iff_lookup map.nodup

theorem mem_values : value ∈ map.values ↔ ∃ key, map.get key = some value := by
  simp only [JsMap.values, List.mem_map, Prod.exists, exists_eq_right, mem_entries]

private theorem sum_assign {weight : κ → ν → Int} {entries : List (κ × ν)} :
    ((assign key value entries).map fun entry => weight entry.1 entry.2).sum =
      (entries.map fun entry => weight entry.1 entry.2).sum + weight key value -
        ((lookup key entries).map (weight key)).getD 0 := by
  induction entries with
  | nil => simp [assign, lookup]
  | cons entry rest ih =>
    by_cases hkey : entry.1 = key
    · subst hkey
      simp only [assign, lookup, if_true, List.map_cons, List.sum_cons, Option.map_some, Option.getD_some]
      omega
    · simp only [assign, lookup, if_neg hkey, List.map_cons, List.sum_cons, ih]
      omega

/-- An assignment changes a sum by the new entry less the entry it replaces. -/
theorem total_set {weight : κ → ν → Int} :
    (map.set key value).total weight = map.total weight + weight key value - ((map.get key).map (weight key)).getD 0 :=
  sum_assign

end js_map
