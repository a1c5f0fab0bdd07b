import Mathlib.Data.List.Count

namespace leases

variable {ρ ω ε : Type}

/-- A grant of a resource to a holder. Its ending is missing while it is open. -/
structure Grant (ρ ω ε : Type) where
  resource : ρ
  holder : ω
  ending : Option ε
deriving DecidableEq

/-- What closing makes of a grant. -/
def closed [DecidableEq ρ] (resources : List ρ) (ending : ε) (grant : Grant ρ ω ε) : Grant ρ ω ε :=
  if grant.resource ∈ resources ∧ grant.ending.isNone then { grant with ending := some ending } else grant

/-- Close the open grants of some resources. -/
def close [DecidableEq ρ] (resources : List ρ) (ending : ε) (log : List (Grant ρ ω ε)) : List (Grant ρ ω ε) :=
  log.map (closed resources ending)

/-- Grant a resource. -/
def issue (resource : ρ) (holder : ω) (log : List (Grant ρ ω ε)) : List (Grant ρ ω ε) :=
  log ++ [{ resource, holder, ending := none }]

/-- The grant at a position is an open one. -/
def OpenAt (log : List (Grant ρ ω ε)) (position : Nat) (resource : ρ) (holder : ω) : Prop :=
  log[position]? = some { resource, holder, ending := none }

/-- An open grant is the last one of its resource. -/
def LastOpen (log : List (Grant ρ ω ε)) : Prop :=
  ∀ position resource holder, OpenAt log position resource holder →
    ∀ (later : Nat) (grant : Grant ρ ω ε), log[later]? = some grant → grant.resource = resource → later ≤ position

/-- Number of grants of a resource whose ending is one of those that count. -/
def endings [DecidableEq ρ] (counts : ε → Bool) (resource : ρ) (log : List (Grant ρ ω ε)) : Nat :=
  log.countP fun grant => grant.resource = resource && grant.ending.any counts

variable {log : List (Grant ρ ω ε)} {position other : Nat} {resource granted : ρ} {holder owner : ω}

theorem lastOpen_nil : LastOpen ([] : List (Grant ρ ω ε)) := by
  intro position resource holder h
  cases h

/-- A resource has one open grant at most. -/
theorem LastOpen.unique (hlast : LastOpen log) (h : OpenAt log position resource holder)
    (hother : OpenAt log other resource owner) : other = position ∧ owner = holder := by
  have hle := hlast position resource holder h other _ hother rfl
  have hge := hlast other resource owner hother position _ h rfl
  obtain rfl : other = position := by omega
  unfold OpenAt at h hother
  rw [h] at hother
  simp only [Option.some.injEq, Grant.mk.injEq] at hother
  exact ⟨rfl, hother.2.1.symm⟩

/-- A log splits at an open grant, with no other open grant of its resource. -/
theorem OpenAt.split (h : OpenAt log position resource holder) (hlast : LastOpen log) :
    ∃ before after, log = before ++ { resource, holder, ending := none } :: after ∧
      (∀ grant ∈ before, grant.resource = resource → grant.ending ≠ none) ∧
      ∀ grant ∈ after, grant.resource ≠ resource := by
  obtain ⟨hlt, hat⟩ := List.getElem?_eq_some_iff.mp h
  refine ⟨log.take position, log.drop (position + 1), ?_, ?_, ?_⟩
  · rw [← hat, List.getElem_cons_drop, List.take_append_drop]
  · intro grant hgrant hresource hending
    obtain ⟨earlier, hearlier, rfl⟩ := List.mem_iff_getElem.mp hgrant
    rw [List.length_take] at hearlier
    rw [List.getElem_take] at hresource hending
    have hopen : OpenAt log earlier resource log[earlier].holder := by
      refine List.getElem?_eq_some_iff.mpr ⟨by omega, ?_⟩
      cases hgrant : log[earlier] with
      | mk itsResource itsHolder itsEnding =>
        rw [hgrant] at hresource hending
        subst hresource hending
        rfl
    have := (hlast.unique h hopen).1
    omega
  · intro grant hgrant hresource
    obtain ⟨later, hlater, rfl⟩ := List.mem_iff_getElem.mp hgrant
    rw [List.length_drop] at hlater
    rw [List.getElem_drop] at hresource
    have hle := hlast position resource holder h (position + 1 + later) _
      (List.getElem?_eq_some_iff.mpr ⟨by omega, rfl⟩) hresource
    omega

section Issue

theorem getElem?_issue {grant : Grant ρ ω ε} :
    (issue granted owner log)[position]? = some grant ↔
      log[position]? = some grant ∨
        position = log.length ∧ grant = { resource := granted, holder := owner, ending := none } := by
  unfold issue
  rcases Nat.lt_trichotomy position log.length with hlt | rfl | hgt
  · rw [List.getElem?_append_left hlt]
    constructor
    · exact Or.inl
    · rintro (h | ⟨h, -⟩)
      · exact h
      · omega
  · simp [eq_comm]
  · have hnone : log[position]? = none := List.getElem?_eq_none (by omega)
    have hlonger : (log ++ [({ resource := granted, holder := owner, ending := none } : Grant ρ ω ε)])[position]? =
        none := List.getElem?_eq_none (by simp; omega)
    rw [hnone, hlonger]
    constructor
    · intro h
      cases h
    · rintro (h | ⟨h, -⟩)
      · cases h
      · omega

theorem openAt_issue :
    OpenAt (issue granted owner log) position resource holder ↔
      OpenAt log position resource holder ∨ position = log.length ∧ resource = granted ∧ holder = owner := by
  unfold OpenAt
  rw [getElem?_issue]
  simp

/-- A resource that is free can be granted. -/
theorem LastOpen.issue (hlast : LastOpen log)
    (hfree : ∀ position holder, ¬OpenAt log position granted holder) : LastOpen (issue granted owner log) := by
  intro position resource holder hopen later grant hlater hresource
  rw [openAt_issue] at hopen
  rw [getElem?_issue] at hlater
  obtain hold | ⟨rfl, rfl, rfl⟩ := hopen
  · obtain hlater | ⟨rfl, rfl⟩ := hlater
    · exact hlast position resource holder hold later grant hlater hresource
    · subst hresource
      exact absurd hold (hfree position holder)
  · obtain hlater | ⟨rfl, -⟩ := hlater
    · exact Nat.le_of_lt (List.getElem?_eq_some_iff.mp hlater).1
    · exact Nat.le_refl _

@[simp] theorem endings_issue [DecidableEq ρ] {counts : ε → Bool} :
    endings counts resource (issue granted owner log) = endings counts resource log := by
  simp [endings, issue, List.countP_append]

end Issue

section Close

variable [DecidableEq ρ] {resources : List ρ} {ending : ε}

theorem getElem?_close : (close resources ending log)[position]? = (log[position]?).map (closed resources ending) :=
  List.getElem?_map

@[simp] theorem length_close : (close resources ending log).length = log.length := List.length_map _

@[simp] theorem closed_resource {grant : Grant ρ ω ε} : (closed resources ending grant).resource = grant.resource := by
  unfold closed
  split <;> rfl

@[simp] theorem closed_holder {grant : Grant ρ ω ε} : (closed resources ending grant).holder = grant.holder := by
  unfold closed
  split <;> rfl

theorem closed_eq_open_iff {grant : Grant ρ ω ε} :
    closed resources ending grant = { resource, holder, ending := none } ↔
      grant = { resource, holder, ending := none } ∧ resource ∉ resources := by
  obtain ⟨itsResource, itsHolder, itsEnding⟩ := grant
  unfold closed
  split
  · next h =>
    simp only [Grant.mk.injEq, reduceCtorEq, and_false, false_iff, not_and, not_not]
    rintro ⟨rfl, -, -⟩
    exact h.1
  · next h =>
    simp only [Grant.mk.injEq]
    constructor
    · rintro ⟨rfl, rfl, rfl⟩
      exact ⟨⟨rfl, rfl, rfl⟩, fun hmem => h ⟨hmem, rfl⟩⟩
    · exact And.left

theorem openAt_close :
    OpenAt (close resources ending log) position resource holder ↔
      OpenAt log position resource holder ∧ resource ∉ resources := by
  unfold OpenAt
  rw [getElem?_close, Option.map_eq_some_iff]
  constructor
  · rintro ⟨grant, hgrant, hclosed⟩
    obtain ⟨rfl, hresource⟩ := closed_eq_open_iff.mp hclosed
    exact ⟨hgrant, hresource⟩
  · rintro ⟨hgrant, hresource⟩
    exact ⟨_, hgrant, closed_eq_open_iff.mpr ⟨rfl, hresource⟩⟩

/-- The ended grants after a closing are those from before and the closed ones. -/
theorem mem_close_of_ended {grant : Grant ρ ω ε} {reason : ε} (hending : grant.ending = some reason) :
    grant ∈ close resources ending log ↔
      grant ∈ log ∨ reason = ending ∧ grant.resource ∈ resources ∧
        ∃ position, OpenAt log position grant.resource grant.holder := by
  obtain ⟨resource, holder, itsEnding⟩ := grant
  obtain rfl : itsEnding = some reason := hending
  simp only [close, List.mem_map, OpenAt, ← List.mem_iff_getElem?]
  constructor
  · rintro ⟨old, hold, hclosed⟩
    unfold closed at hclosed
    split at hclosed
    · next h =>
      obtain ⟨itsResource, itsHolder, itsEnding⟩ := old
      simp only [Grant.mk.injEq, Option.some.injEq] at hclosed
      obtain ⟨rfl, rfl, rfl⟩ := hclosed
      obtain rfl : itsEnding = none := Option.isNone_iff_eq_none.mp h.2
      exact Or.inr ⟨rfl, h.1, hold⟩
    · exact Or.inl (hclosed ▸ hold)
  · rintro (hold | ⟨rfl, hmem, hold⟩)
    · exact ⟨_, hold, if_neg fun h => by cases h.2⟩
    · exact ⟨_, hold, if_pos ⟨hmem, rfl⟩⟩

theorem LastOpen.close (hlast : LastOpen log) : LastOpen (close resources ending log) := by
  intro position resource holder hopen later grant hlater hresource
  rw [getElem?_close, Option.map_eq_some_iff] at hlater
  obtain ⟨old, hold, rfl⟩ := hlater
  rw [closed_resource] at hresource
  exact hlast position resource holder (openAt_close.mp hopen).1 later old hold hresource

/-- Closing changes no count of a resource that has no open grant among the closed
ones. -/
theorem endings_close_of_closed {counts : ε → Bool}
    (hclosed : ∀ grant ∈ log, grant.resource = resource → grant.ending = none → resource ∉ resources) :
    endings counts resource (close resources ending log) = endings counts resource log := by
  simp only [endings, close, List.countP_map]
  refine List.countP_congr fun grant hgrant => ?_
  simp only [Function.comp_apply, closed]
  split
  · next h =>
    have hother : grant.resource ≠ resource := fun heq =>
      hclosed grant hgrant heq (Option.isNone_iff_eq_none.mp h.2) (heq ▸ h.1)
    simp [hother]
  · rfl

/-- The ending of an open grant is counted once. -/
theorem endings_close_of_open {counts : ε → Bool} (h : OpenAt log position resource holder) (hlast : LastOpen log)
    (hmem : resource ∈ resources) :
    endings counts resource (close resources ending log) =
      endings counts resource log + if counts ending then 1 else 0 := by
  obtain ⟨before, after, rfl, hbefore, hafter⟩ := h.split hlast
  have hfirst : endings counts resource (close resources ending before) = endings counts resource before :=
    endings_close_of_closed fun grant hgrant hresource hending => absurd hending (hbefore grant hgrant hresource)
  have hrest : endings counts resource (close resources ending after) = endings counts resource after :=
    endings_close_of_closed fun grant hgrant hresource => absurd hresource (hafter grant hgrant)
  simp only [endings, close, List.map_append, List.map_cons, List.countP_append, List.countP_cons] at hfirst hrest ⊢
  rw [hfirst, hrest]
  cases hcounts : counts ending with
  | false => simp [closed, hmem, hcounts]
  | true =>
    simp only [closed, hmem, hcounts, Option.isNone_none, and_self, if_true, Option.any_some, decide_true,
      Bool.and_self, Option.any_none, Bool.and_false, Bool.false_eq_true, if_false]
    omega

end Close

end leases
