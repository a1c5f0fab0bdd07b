import RwaControlPlane.Library.Runs

namespace digest_chain

section Parts

variable {α : Type*} {separator : α}

/-- The parts after the first stand behind a separator each. -/
theorem intercalate_cons {first : List α} {rest : List (List α)} :
    [separator].intercalate (first :: rest) = first ++ rest.flatMap (separator :: ·) := by
  induction rest generalizing first with
  | nil => simp
  | cons next rest ih => rw [List.intercalate_cons_cons, ih, List.flatMap_cons, List.append_assoc]; rfl

/-- Parts without the separator are read back from their text. -/
theorem intercalate_inj [DecidableEq α] {first second : List (List α)} (hfirst : ∀ part ∈ first, separator ∉ part)
    (hsecond : ∀ part ∈ second, separator ∉ part) (hne : first ≠ []) (hne' : second ≠ [])
    (h : [separator].intercalate first = [separator].intercalate second) : first = second := by
  rw [← List.splitOn_intercalate separator hfirst hne, h, List.splitOn_intercalate separator hsecond hne']

end Parts

variable {δ ι : Type*}

section Chain

variable (digestOf : Option δ → ι → δ) (admits : Option δ → ι → Prop)

/-- The links of a chain and its last digest. A link may be admitted only after some
digests. -/
inductive Chain : List ι → Option δ → Prop
  | nil : Chain [] none
  | concat {history : List ι} {previous : Option δ} {link : ι} (hhistory : Chain history previous)
      (hadmits : admits previous link) : Chain (history ++ [link]) (some (digestOf previous link))

end Chain

variable {digestOf : Option δ → ι → δ} {admits : Option δ → ι → Prop} {history : List ι} {digest : Option δ}

/-- The last digest of a chain determines all of its links, where a digest determines
the one before it and its link. -/
theorem Chain.injective
    (hdigest : ∀ {previous other link next}, admits previous link → admits other next →
      digestOf previous link = digestOf other next → previous = other ∧ link = next)
    {other : List ι} (h : Chain digestOf admits history digest) (hother : Chain digestOf admits other digest) :
    history = other := by
  induction h generalizing other with
  | nil =>
    generalize hlast : none = last at hother
    cases hother with
    | nil => rfl
    | concat => cases hlast
  | @concat history previous link hhistory hadmits ih =>
    generalize hlast : some (digestOf previous link) = last at hother
    cases hother with
    | nil => cases hlast
    | @concat before earlier next hbefore hnext =>
      obtain ⟨rfl, rfl⟩ := hdigest hadmits hnext (Option.some.inj hlast)
      rw [ih hbefore]

section Linked

variable {α : Type*} {previousOf : α → Option δ} {digestOf : α → δ} {rows later : List α} {row : α}

/-- Each row names the digest of the row before it, and the first one names
none. -/
def Linked (previousOf : α → Option δ) (digestOf : α → δ) (rows : List α) : Prop :=
  ∀ before row after, rows = before ++ row :: after → previousOf row = before.getLast?.map digestOf

theorem linked_nil : Linked previousOf digestOf [] := by
  intro before row after h
  simp at h

theorem Linked.concat (h : Linked previousOf digestOf rows) (hrow : previousOf row = rows.getLast?.map digestOf) :
    Linked previousOf digestOf (rows ++ [row]) := by
  intro before next after hsplit
  obtain ⟨rfl, rfl⟩ | ⟨rest, hrest⟩ := runs.split_concat hsplit
  · exact hrow
  · exact h before next rest hrest

theorem Linked.of_append (h : Linked previousOf digestOf (rows ++ later)) : Linked previousOf digestOf rows := by
  intro before row after hsplit
  exact h before row (after ++ later) (by rw [hsplit, List.append_assoc, List.cons_append])

/-- Where digests are not repeated, no two rows name the same one. -/
theorem Linked.nodup_previous (h : Linked previousOf digestOf rows) (hdigests : (rows.map digestOf).Nodup) :
    (rows.map previousOf).Nodup := by
  induction rows using List.reverseRecOn with
  | nil => exact List.nodup_nil
  | append_singleton rows row ih =>
    rw [List.map_append, List.nodup_append] at hdigests
    have hrow := h rows row [] rfl
    rw [List.map_append, List.nodup_append]
    refine ⟨ih h.of_append hdigests.1, by simp, ?_⟩
    intro previous hprevious same hsame heq
    obtain ⟨earlier, hearlier, rfl⟩ := List.mem_map.mp hprevious
    obtain rfl : same = previousOf row := by simpa using hsame
    obtain ⟨before, after, rfl⟩ := List.append_of_mem hearlier
    -- the last row of all would already stand before one of them
    have hfirst := h.of_append before earlier after rfl
    obtain ⟨last, hlast⟩ : ∃ last, (before ++ earlier :: after).getLast? = some last :=
      Option.ne_none_iff_exists'.mp (by simp)
    rw [heq, hrow, hlast, Option.map_some] at hfirst
    obtain ⟨other, hother, hdigest⟩ := Option.map_eq_some_iff.mp hfirst.symm
    have hmem : last ∈ earlier :: after := by
      rw [List.getLast?_append, Option.or_of_isSome (by simp)] at hlast
      exact List.mem_of_getLast? hlast
    have hnodup := hdigests.1
    rw [List.map_append, List.nodup_append] at hnodup
    exact hnodup.2.2 _ (List.mem_map_of_mem (List.mem_of_getLast? hother)) _ (List.mem_map_of_mem hmem) hdigest

end Linked

end digest_chain
