import RwaControlPlane.Catalog.PendingProposals
import RwaControlPlane.Library.FourEyes

open checked four_eyes keyed_rows

namespace rwa.catalog

/-- An institution as a tenant onboards it. -/
abbrev Onboarded := String × String

def TenantInstitution.key (row : TenantInstitution) : Onboarded := (row.tenantId, row.institutionId)

/-- The state of an institution whose proposal is approved. -/
def ReviewDecision.onboardingStatus : ReviewDecision → OnboardingStatus
  | approve => .approved
  | reject => .rejected

/-- A round of an institution has one proposal, which asks for its approval or its
rejection. -/
def onboardingReviews (service : ProductCatalogService) :
    Workflow Database Action (Onboarded × Nat) Onboarded OnboardingStatus String (Option TenantInstitution) where
  step := step service
  Proposes db action key makerRef onboarded effect := ∃ input review round next,
    action.call = .proposeInstitutionReview onboarded.1 makerRef (some onboarded.2) input ∧
      proposeInstitutionReview onboarded.1 makerRef (some onboarded.2) input db = .ok (round, next) ∧
      key = (onboarded, round) ∧ reviewInput input = .ok review ∧ effect = review.decision.onboardingStatus
  Decides db action key checkerRef approve := ∃ tenantId institutionId input review proposal state next,
    action.call = .decideInstitutionReview tenantId checkerRef (some institutionId) input ∧
      decideInstitutionReview tenantId checkerRef (some institutionId) input db = .ok (state, next) ∧
      pendingReview (db.onboardingOf tenantId institutionId) = some proposal ∧
      key = ((tenantId, institutionId), proposal.approvalRound) ∧ reviewInput input = .ok review ∧
      (approve = true ↔ review.decision = .approve)
  Effects before after onboarded effect := ∃ changed ∈ after.tenantInstitutions, changed ∉ before.tenantInstitutions ∧
    changed.key = onboarded ∧ changed.onboardingStatus ≠ .dueDiligence ∧ effect = changed.onboardingStatus
  view db onboarded := db.tenantInstitutions.find? (·.key = onboarded)

section Rounds

variable {rows : List OnboardingApproval} {row : OnboardingApproval}

theorem le_lastRound (h : row ∈ rows) : row.approvalRound ≤ lastRound rows :=
  le_foldl_max (Or.inl (List.mem_map_of_mem h))

theorem lastRound_concat : lastRound (rows ++ [row]) = max (lastRound rows) row.approvalRound := by
  rw [lastRound, List.map_append, List.foldl_append]
  rfl

/-- A proposal that no checker has decided in its round. -/
structure Unchecked (rows : List OnboardingApproval) (row : OnboardingApproval) : Prop where
  mem : row ∈ rows
  maker : row.role = .maker
  unchecked : ∀ other ∈ rows, other.approvalRound = row.approvalRound → other.role ≠ .checker

theorem pendingReview_unchecked (h : pendingReview rows = some row) : Unchecked rows row := by
  have hmem := List.mem_of_head? h
  rw [List.mem_insertionSort, List.mem_filter, Bool.and_eq_true, Bool.not_eq_true', List.any_eq_false] at hmem
  obtain ⟨hrow, hmaker, hunchecked⟩ := hmem
  refine ⟨hrow, by simpa using hmaker, fun other hother hround hrole => hunchecked other hother ?_⟩
  simp [hround, hrole]

/-- Rounds count from one, and only the last one can be undecided. -/
structure InRounds (rows : List OnboardingApproval) : Prop where
  positive : ∀ row ∈ rows, 0 < row.approvalRound
  last : ∀ row, Unchecked rows row → row.approvalRound = lastRound rows

theorem inRounds_nil : InRounds [] := ⟨nofun, fun _ h => absurd h.mem List.not_mem_nil⟩

/-- A proposal starts the next round, once the last one is decided. -/
theorem InRounds.maker (h : InRounds rows) (hround : row.approvalRound = lastRound rows + 1)
    (hchecked : 0 < lastRound rows → ∃ other ∈ rows, other.approvalRound = lastRound rows ∧ other.role = .checker) :
    InRounds (rows ++ [row]) := by
  refine ⟨fun other hother => ?_, fun other hother => ?_⟩
  · obtain hold | hnew := List.mem_append.mp hother
    · exact h.positive other hold
    · rw [List.mem_singleton.mp hnew]
      omega
  · rw [lastRound_concat, hround, max_eq_right (Nat.le_succ _)]
    obtain hold | hnew := List.mem_append.mp hother.mem
    · have hpositive := h.positive other hold
      have hle := le_lastRound hold
      obtain ⟨checker, hmem, hsame, hchecker⟩ := hchecked (by omega)
      have hlast := h.last other ⟨hold, hother.maker, fun before hbefore => hother.unchecked before
        (List.mem_append_left _ hbefore)⟩
      exact absurd hchecker (hother.unchecked checker (List.mem_append_left _ hmem) (by omega))
    · rw [List.mem_singleton.mp hnew, hround]

/-- A decision ends a round. -/
theorem InRounds.checker (h : InRounds rows) (hrole : row.role = .checker) {proposal : OnboardingApproval}
    (hproposal : proposal ∈ rows) (hround : row.approvalRound = proposal.approvalRound) : InRounds (rows ++ [row]) := by
  have hle := le_lastRound hproposal
  have hpositive := h.positive proposal hproposal
  refine ⟨fun other hother => ?_, fun other hother => ?_⟩
  · obtain hold | hnew := List.mem_append.mp hother
    · exact h.positive other hold
    · rw [List.mem_singleton.mp hnew]
      omega
  · rw [lastRound_concat, hround, max_eq_left hle]
    obtain hold | hnew := List.mem_append.mp hother.mem
    · exact h.last other ⟨hold, hother.maker, fun before hbefore => hother.unchecked before
        (List.mem_append_left _ hbefore)⟩
    · have hmaker := hother.maker
      rw [List.mem_singleton.mp hnew, hrole] at hmaker
      cases hmaker

end Rounds

section Operations

variable {service : ProductCatalogService} {db next : Database}

/-- The tables of onboarding are as they were. -/
structure SameOnboarding (db next : Database) : Prop where
  institutions : next.tenantInstitutions = db.tenantInstitutions
  approvals : next.onboardingApprovals = db.onboardingApprovals

theorem assertReviewable_ok {tenantId institutionId : String} {done : Unit} :
    db.assertReviewable tenantId institutionId = .ok done ↔ ∃ row ∈ db.tenantInstitutions,
      row.key = (tenantId, institutionId) ∧ row.onboardingStatus = .dueDiligence := by
  simp [Database.assertReviewable, TenantInstitution.key, and_assoc]

theorem registerInstitution_onboarding {tenantId : String} {input : InstitutionInput} {clock : Int}
    {institution : Institution} (h : registerInstitution service tenantId input clock db = .ok (institution, next)) :
    ∃ row : TenantInstitution, row.key ∉ db.tenantInstitutions.map TenantInstitution.key ∧
      row.onboardingStatus = .dueDiligence ∧ next.tenantInstitutions = db.tenantInstitutions ++ [row] ∧
      next.onboardingApprovals = db.onboardingApprovals := by
  simp only [registerInstitution, bind_eq_ok_iff, throwIf_eq_ok_iff, exists_unit, pure_eq_ok_iff, Prod.mk.injEq] at h
  obtain ⟨⟨row, reference⟩, -, -, -, hfresh, rfl, rfl⟩ := h
  exact ⟨⟨tenantId, row.id, .dueDiligence, reference⟩, hfresh, rfl, rfl, rfl⟩

theorem proposeInstitutionReview_spec {tenantId actorRef : String} {institutionId : Option String} {input : ReviewInput}
    {round : Nat} (h : proposeInstitutionReview tenantId actorRef institutionId input db = .ok (round, next)) :
    ∃ id review, institutionId = some id ∧ reviewInput input = .ok review ∧
      (∃ row ∈ db.tenantInstitutions, row.key = (tenantId, id) ∧ row.onboardingStatus = .dueDiligence) ∧
      round = lastRound (db.onboardingOf tenantId id) + 1 ∧
      (0 < lastRound (db.onboardingOf tenantId id) → ∃ row ∈ db.onboardingOf tenantId id,
        row.approvalRound = lastRound (db.onboardingOf tenantId id) ∧ row.role = .checker) ∧
      next.tenantInstitutions = db.tenantInstitutions ∧
      next.onboardingApprovals = db.onboardingApprovals ++
        [⟨tenantId, id, round, .maker, actorRef, review.decision, review.reason⟩] := by
  simp only [proposeInstitutionReview, bind_eq_ok_iff, throwIf_eq_ok_iff, exists_unit, pure_eq_ok_iff,
    requireString_eq_ok_iff, assertReviewable_ok, Prod.mk.injEq, not_and, Decidable.not_not] at h
  obtain ⟨id, ⟨rfl, -⟩, review, hreview, -, hreviewable, hlast, -, rfl, rfl⟩ := h
  exact ⟨id, review, rfl, hreview, hreviewable, rfl, hlast, rfl, rfl⟩

theorem decideInstitutionReview_spec {tenantId actorRef : String} {institutionId : Option String} {input : ReviewInput}
    {state : OnboardingStatus}
    (h : decideInstitutionReview tenantId actorRef institutionId input db = .ok (state, next)) :
    ∃ id review proposal, institutionId = some id ∧ reviewInput input = .ok review ∧
      pendingReview (db.onboardingOf tenantId id) = some proposal ∧ proposal.actorRef ≠ actorRef ∧
      next.onboardingApprovals = db.onboardingApprovals ++
        [⟨tenantId, id, proposal.approvalRound, .checker, actorRef, review.decision, review.reason⟩] ∧
      next.tenantInstitutions = if review.decision = .approve then
        db.tenantInstitutions.map fun row =>
          if row.key = (tenantId, id) then { row with onboardingStatus := proposal.decision.onboardingStatus } else row
        else db.tenantInstitutions := by
  simp only [decideInstitutionReview, bind_eq_ok_iff, throwIf_eq_ok_iff, require_eq_ok_iff, exists_unit,
    requireString_eq_ok_iff] at h
  obtain ⟨id, ⟨rfl, -⟩, review, hreview, -, proposal, hproposal, hdiffer, -, h⟩ := h
  cases hdecision : review.decision with
  | approve =>
    simp only [hdecision, pure_eq_ok_iff, Prod.mk.injEq] at h
    obtain ⟨-, rfl⟩ := h
    refine ⟨id, review, proposal, rfl, hreview, hproposal, hdiffer, by rw [hdecision], ?_⟩
    rw [if_pos hdecision]
    refine List.map_congr_left fun row _ => ?_
    simp only [TenantInstitution.key, Prod.mk.injEq]
    cases proposal.decision <;> rfl
  | reject =>
    simp only [hdecision, pure_eq_ok_iff, Prod.mk.injEq] at h
    obtain ⟨-, rfl⟩ := h
    refine ⟨id, review, proposal, rfl, hreview, hproposal, hdiffer, by rw [hdecision], ?_⟩
    rw [if_neg (by simp [hdecision])]

/-- Every other call leaves onboarding alone. -/
theorem step_onboarding (action : Action) :
    SameOnboarding db (step service db action) ∨
    (∃ tenantId input institution, action.call = .registerInstitution tenantId input ∧
      registerInstitution service tenantId input action.clock db = .ok (institution, step service db action)) ∨
    (∃ tenantId actorRef institutionId input round,
      action.call = .proposeInstitutionReview tenantId actorRef institutionId input ∧
        proposeInstitutionReview tenantId actorRef institutionId input db = .ok (round, step service db action)) ∨
    ∃ tenantId actorRef institutionId input state,
      action.call = .decideInstitutionReview tenantId actorRef institutionId input ∧
        decideInstitutionReview tenantId actorRef institutionId input db = .ok (state, step service db action) := by
  cases hperformed : perform service action db with
  | error failure =>
    rw [step, respond, commit, hperformed]
    exact Or.inl ⟨rfl, rfl⟩
  | ok outcome =>
    obtain ⟨reply, next⟩ := outcome
    have hstep : step service db action = next := by rw [step, respond, commit, hperformed]
    rw [hstep]
    obtain ⟨now, clock, call⟩ := action
    cases call with
    | provisionTenant input =>
      obtain ⟨_, h, -⟩ := (@map_eq_ok_iff _ _ _ _ Reply.tenant _).mp hperformed
      simp only [provisionTenant, bind_eq_ok_iff, throwIf_eq_ok_iff, exists_unit, pure_eq_ok_iff, Prod.mk.injEq] at h
      obtain ⟨_, -, -, -, -, rfl⟩ := h
      exact Or.inl ⟨rfl, rfl⟩
    | registerInstitution tenantId input =>
      obtain ⟨institution, h, -⟩ := (@map_eq_ok_iff _ _ _ _ Reply.institution _).mp hperformed
      exact Or.inr (Or.inl ⟨tenantId, input, institution, rfl, h⟩)
    | registerInstitutionSigningKey tenantId institutionId input =>
      obtain ⟨_, h, -⟩ := (@map_eq_ok_iff _ _ _ _ Reply.signingKey _).mp hperformed
      simp only [registerInstitutionSigningKey, bind_eq_ok_iff, throwIf_eq_ok_iff, exists_unit, pure_eq_ok_iff,
        Prod.mk.injEq] at h
      obtain ⟨_, -, _, -, -, -, -, rfl⟩ := h
      exact Or.inl ⟨rfl, rfl⟩
    | revokeInstitutionSigningKey tenantId institutionId keyId reason =>
      obtain ⟨revoked, h, -⟩ :=
        (@map_eq_ok_iff _ _ _ _ (fun value : String × String => Reply.revoked value.1 value.2) _).mp hperformed
      obtain ⟨-, -, hrevoked⟩ := revokeInstitutionSigningKey_ok h
      rw [hrevoked.next]
      exact Or.inl ⟨rfl, rfl⟩
    | proposeInstitutionReview tenantId actorRef institutionId input =>
      obtain ⟨round, h, -⟩ := (@map_eq_ok_iff _ _ _ _ Reply.reviewProposed _).mp hperformed
      exact Or.inr (Or.inr (Or.inl ⟨tenantId, actorRef, institutionId, input, round, rfl, h⟩))
    | decideInstitutionReview tenantId actorRef institutionId input =>
      obtain ⟨state, h, -⟩ := (@map_eq_ok_iff _ _ _ _ Reply.reviewDecided _).mp hperformed
      exact Or.inr (Or.inr (Or.inr ⟨tenantId, actorRef, institutionId, input, state, rfl, h⟩))
    | createProduct tenantId actorRef input =>
      obtain ⟨_, h, -⟩ := (@map_eq_ok_iff _ _ _ _ Reply.product _).mp hperformed
      simp only [createProduct, bind_eq_ok_iff, throwIf_eq_ok_iff, exists_unit, pure_eq_ok_iff, Prod.mk.injEq] at h
      obtain ⟨-, _, -, -, _, -, -, -, _, hsnapshot, -, rfl⟩ := h
      obtain ⟨⟨_, rfl⟩, -⟩ := view_snapshot hsnapshot
      exact Or.inl ⟨rfl, rfl⟩
    | assignRole tenantId actorRef productId role institutionId =>
      obtain ⟨_, h, -⟩ := (@map_eq_ok_iff _ _ _ _ Reply.roleAssigned _).mp hperformed
      simp only [assignRole, bind_eq_ok_iff, throwIf_eq_ok_iff, exists_unit, pure_eq_ok_iff, Prod.mk.injEq] at h
      obtain ⟨_, -, _, -, -, _, -, -, -, -, -, -, _, hsnapshot, -, rfl⟩ := h
      obtain ⟨⟨_, rfl⟩, -⟩ := view_snapshot hsnapshot
      exact Or.inl ⟨rfl, rfl⟩
    | attachActivationEvidence tenantId actorRef productId input =>
      obtain ⟨_, h, -⟩ := (@map_eq_ok_iff _ _ _ _ Reply.evidence _).mp hperformed
      simp only [attachActivationEvidence, bind_eq_ok_iff, throwIf_eq_ok_iff, exists_unit, pure_eq_ok_iff,
        require_eq_ok_iff, Prod.mk.injEq] at h
      obtain ⟨_, -, _, -, -, _, -, -, _, -, -, -, _, -, -, _, -, -, _, hsnapshot, -, rfl⟩ := h
      obtain ⟨⟨_, rfl⟩, -⟩ := view_snapshot hsnapshot
      exact Or.inl ⟨rfl, rfl⟩
    | proposeActivation tenantId actorRef productId reason =>
      obtain ⟨_, h, -⟩ := (@map_eq_ok_iff _ _ _ _ Reply.activationProposed _).mp hperformed
      simp only [proposeActivation, bind_eq_ok_iff, throwIf_eq_ok_iff, exists_unit, pure_eq_ok_iff, Prod.mk.injEq] at h
      obtain ⟨_, -, _, -, _, -, -, -, -, _, hinserted, _, hsnapshot, -, rfl⟩ := h
      obtain ⟨rfl, -⟩ := view_insertActivationApproval hinserted
      obtain ⟨⟨_, rfl⟩, -⟩ := view_snapshot hsnapshot
      exact Or.inl ⟨rfl, rfl⟩
    | decideActivation tenantId actorRef productId input =>
      obtain ⟨_, h, -⟩ := (@map_eq_ok_iff _ _ _ _ Reply.activationDecided _).mp hperformed
      simp only [decideActivation, bind_eq_ok_iff, throwIf_eq_ok_iff, exists_unit] at h
      obtain ⟨_, -, review, -, _, -, -, _, -, -, _, hinserted, h⟩ := h
      obtain ⟨rfl, -⟩ := view_insertActivationApproval hinserted
      cases hdecision : review.decision with
      | approve =>
        simp only [hdecision, bind_eq_ok_iff, exists_unit, pure_eq_ok_iff, Prod.mk.injEq] at h
        obtain ⟨-, _, hsnapshot, -, rfl⟩ := h
        obtain ⟨⟨_, rfl⟩, -⟩ := view_snapshot hsnapshot
        exact Or.inl ⟨rfl, rfl⟩
      | reject =>
        simp only [hdecision, bind_eq_ok_iff, pure_eq_ok_iff, Prod.mk.injEq] at h
        obtain ⟨_, hsnapshot, -, rfl⟩ := h
        obtain ⟨⟨_, rfl⟩, -⟩ := view_snapshot hsnapshot
        exact Or.inl ⟨rfl, rfl⟩
    | setProductStatus productId status actorRef =>
      obtain ⟨_, h, -⟩ := (@map_eq_ok_iff _ _ _ _ Reply.productStatus _).mp hperformed
      simp only [setProductStatus, bind_eq_ok_iff, throwIf_eq_ok_iff, exists_unit, pure_eq_ok_iff, require_eq_ok_iff,
        Prod.mk.injEq] at h
      obtain ⟨-, -, _, -, -, -, rfl⟩ := h
      exact Or.inl ⟨rfl, rfl⟩

end Operations

/-- What holds of onboarding in every reachable state. -/
structure OnboardingSound (db : Database) : Prop where
  keys : (db.tenantInstitutions.map TenantInstitution.key).Nodup
  known : ∀ approval ∈ db.onboardingApprovals, ∃ row ∈ db.tenantInstitutions,
    row.key = (approval.tenantId, approval.institutionId)
  rounds : ∀ tenantId institutionId, InRounds (db.onboardingOf tenantId institutionId)

theorem onboardingSound_migrated : OnboardingSound Database.migrated :=
  ⟨List.nodup_nil, fun _ happroval => absurd happroval List.not_mem_nil, fun _ _ => inRounds_nil⟩

/-- An undecided proposal of an institution. -/
def PendingOnboarding (db : Database) (key : Onboarded × Nat) (makerRef : String) (onboarded : Onboarded)
    (effect : OnboardingStatus) : Prop :=
  key.1 = onboarded ∧ ∃ proposal, Unchecked (db.onboardingOf onboarded.1 onboarded.2) proposal ∧
    proposal.approvalRound = key.2 ∧ proposal.actorRef = makerRef ∧ effect = proposal.decision.onboardingStatus

def DecidedOnboarding (db : Database) (key : Onboarded × Nat) : Prop :=
  ∃ row ∈ db.onboardingOf key.1.1 key.1.2, row.approvalRound = key.2 ∧ row.role = .checker

section Invariants

variable {service : ProductCatalogService} {db next : Database} {row : OnboardingApproval}

theorem onboardingOf_append_self {tenantId institutionId : String}
    (hnext : next.onboardingApprovals = db.onboardingApprovals ++ [row])
    (hrow : (row.tenantId, row.institutionId) = (tenantId, institutionId)) :
    next.onboardingOf tenantId institutionId = db.onboardingOf tenantId institutionId ++ [row] := by
  obtain ⟨rfl, rfl⟩ := Prod.mk.inj hrow
  rw [Database.onboardingOf, hnext, List.filter_append]
  simp [Database.onboardingOf]

theorem onboardingOf_append_other {tenantId institutionId : String}
    (hnext : next.onboardingApprovals = db.onboardingApprovals ++ [row])
    (hrow : (row.tenantId, row.institutionId) ≠ (tenantId, institutionId)) :
    next.onboardingOf tenantId institutionId = db.onboardingOf tenantId institutionId := by
  rw [Database.onboardingOf, hnext, List.filter_append]
  have hother : ¬(row.tenantId = tenantId ∧ row.institutionId = institutionId) := fun h => hrow (by rw [h.1, h.2])
  simpa [Database.onboardingOf] using hother

theorem onboardingOf_congr (h : next.onboardingApprovals = db.onboardingApprovals) (tenantId institutionId : String) :
    next.onboardingOf tenantId institutionId = db.onboardingOf tenantId institutionId := by
  rw [Database.onboardingOf, h, Database.onboardingOf]

theorem decided_keys {tenantId actorRef : String} {institutionId : Option String} {input : ReviewInput}
    {state : OnboardingStatus}
    (h : decideInstitutionReview tenantId actorRef institutionId input db = .ok (state, next)) :
    next.tenantInstitutions.map TenantInstitution.key = db.tenantInstitutions.map TenantInstitution.key := by
  obtain ⟨_, _, _, -, -, -, -, -, hinstitutions⟩ := decideInstitutionReview_spec h
  rw [hinstitutions]
  split
  · rw [List.map_map]
    refine List.map_congr_left fun row _ => ?_
    rw [Function.comp_apply]
    split <;> rfl
  · rfl

private theorem known_of_keys (h : OnboardingSound db)
    (hkeys : ∀ key, key ∈ db.tenantInstitutions.map TenantInstitution.key →
      key ∈ next.tenantInstitutions.map TenantInstitution.key)
    {approval : OnboardingApproval} (happroval : approval ∈ db.onboardingApprovals) :
    ∃ row ∈ next.tenantInstitutions, row.key = (approval.tenantId, approval.institutionId) := by
  obtain ⟨row, hrow, hkey⟩ := h.known approval happroval
  exact List.mem_map.mp (hkeys _ (hkey ▸ List.mem_map_of_mem hrow))

theorem onboardingSound_step (action : Action) (h : OnboardingSound db) : OnboardingSound (step service db action) := by
  obtain hsame | ⟨tenantId, input, institution, -, hregistered⟩ | ⟨tenantId, actorRef, institutionId, input, round, -,
    hproposed⟩ | ⟨tenantId, actorRef, institutionId, input, state, -, hdecided⟩ := @step_onboarding service db action
  · refine ⟨?_, ?_, fun tenantId institutionId => ?_⟩
    · rw [hsame.institutions]
      exact h.keys
    · rw [hsame.institutions, hsame.approvals]
      exact h.known
    · rw [onboardingOf_congr hsame.approvals]
      exact h.rounds tenantId institutionId
  · obtain ⟨row, hfresh, -, hinstitutions, happrovals⟩ := registerInstitution_onboarding hregistered
    refine ⟨?_, fun approval happroval => ?_, fun tenantId institutionId => ?_⟩
    · rw [hinstitutions]
      exact nodup_concat h.keys hfresh
    · rw [happrovals] at happroval
      refine known_of_keys h (fun key hkey => ?_) happroval
      rw [hinstitutions, List.map_append]
      exact List.mem_append_left _ hkey
    · rw [onboardingOf_congr happrovals]
      exact h.rounds tenantId institutionId
  · obtain ⟨id, review, -, -, ⟨reviewed, hreviewed, hkey, -⟩, hround, hchecked, hinstitutions, happrovals⟩ :=
      proposeInstitutionReview_spec hproposed
    refine ⟨?_, fun approval happroval => ?_, fun other otherId => ?_⟩
    · rw [hinstitutions]
      exact h.keys
    · rw [happrovals] at happroval
      rw [hinstitutions]
      obtain hold | hnew := List.mem_append.mp happroval
      · exact h.known approval hold
      · rw [List.mem_singleton.mp hnew]
        exact ⟨reviewed, hreviewed, hkey⟩
    · by_cases hown : (tenantId, id) = (other, otherId)
      · rw [onboardingOf_append_self happrovals hown]
        obtain ⟨rfl, rfl⟩ := Prod.mk.inj hown
        exact (h.rounds _ _).maker hround hchecked
      · rw [onboardingOf_append_other happrovals hown]
        exact h.rounds other otherId
  · obtain ⟨id, review, proposal, -, -, hproposal, -, happrovals, hinstitutions⟩ :=
      decideInstitutionReview_spec hdecided
    have hkeys := decided_keys hdecided
    have hunchecked := pendingReview_unchecked hproposal
    refine ⟨?_, fun approval happroval => ?_, fun other otherId => ?_⟩
    · rw [hkeys]
      exact h.keys
    · rw [happrovals] at happroval
      obtain hold | hnew := List.mem_append.mp happroval
      · exact known_of_keys h (fun key hkey => hkeys ▸ hkey) hold
      · obtain ⟨hstored, hof⟩ := List.mem_filter.mp hunchecked.mem
        simp only [Bool.and_eq_true, decide_eq_true_eq] at hof
        have hknown := known_of_keys h (fun key hkey => hkeys ▸ hkey) hstored
        rw [hof.1, hof.2] at hknown
        rwa [List.mem_singleton.mp hnew]
    · by_cases hown : (tenantId, id) = (other, otherId)
      · rw [onboardingOf_append_self happrovals hown]
        obtain ⟨rfl, rfl⟩ := Prod.mk.inj hown
        exact (h.rounds _ _).checker rfl hunchecked.mem rfl
      · rw [onboardingOf_append_other happrovals hown]
        exact h.rounds other otherId

theorem Unchecked.of_append {rows more : List OnboardingApproval} (h : Unchecked (rows ++ more) row)
    (hrow : row ∈ rows) : Unchecked rows row :=
  ⟨hrow, h.maker, fun other hother => h.unchecked other (List.mem_append_left _ hother)⟩

private theorem view_same {onboarded : Onboarded} (hkeys : (db.tenantInstitutions.map TenantInstitution.key).Nodup)
    (hnext : (next.tenantInstitutions.map TenantInstitution.key).Nodup)
    (h : ∃ row ∈ db.tenantInstitutions, row.key = onboarded ∧ row ∈ next.tenantInstitutions) :
    (onboardingReviews service).view next onboarded = (onboardingReviews service).view db onboarded := by
  obtain ⟨row, hrow, rfl, hkept⟩ := h
  exact (find_key_of_mem hnext hkept).trans (find_key_of_mem hkeys hrow).symm

/-- A proposal that is pending after a step was made by it, or was pending before for
the same state of its institution. -/
theorem onboarding_pending {action : Action} {key : Onboarded × Nat} {makerRef : String} {onboarded : Onboarded}
    {effect : OnboardingStatus} (h : OnboardingSound db)
    (hpending : PendingOnboarding (step service db action) key makerRef onboarded effect) :
    (onboardingReviews service).Proposes db action key makerRef onboarded effect ∨
      PendingOnboarding db key makerRef onboarded effect ∧
        (onboardingReviews service).view (step service db action) onboarded =
          (onboardingReviews service).view db onboarded := by
  have hnext := (@onboardingSound_step service db action h).keys
  obtain ⟨hkey, proposal, hunchecked, hround, hactor, heffect⟩ := hpending
  have hbefore : Unchecked (db.onboardingOf onboarded.1 onboarded.2) proposal →
      PendingOnboarding db key makerRef onboarded effect := fun hold => ⟨hkey, proposal, hold, hround, hactor, heffect⟩
  have hknown : Unchecked (db.onboardingOf onboarded.1 onboarded.2) proposal →
      ∃ row ∈ db.tenantInstitutions, row.key = onboarded := by
    intro hold
    obtain ⟨hstored, hof⟩ := List.mem_filter.mp hold.mem
    simp only [Bool.and_eq_true, decide_eq_true_eq] at hof
    obtain ⟨row, hrow, hkeyed⟩ := h.known proposal hstored
    exact ⟨row, hrow, hkeyed.trans (Prod.ext hof.1 hof.2)⟩
  obtain hsame | ⟨tenantId, input, institution, -, hregistered⟩ | ⟨tenantId, actorRef, institutionId,
    input, round, hcall,
    hproposed⟩ | ⟨tenantId, actorRef, institutionId, input, state, -, hdecided⟩ := @step_onboarding service db action
  · rw [onboardingOf_congr hsame.approvals] at hunchecked
    refine Or.inr ⟨hbefore hunchecked, ?_⟩
    change (step service db action).tenantInstitutions.find? _ = _
    rw [hsame.institutions]
    rfl
  · obtain ⟨row, -, -, hinstitutions, happrovals⟩ := registerInstitution_onboarding hregistered
    rw [onboardingOf_congr happrovals] at hunchecked
    obtain ⟨existing, hexisting, hkeyed⟩ := hknown hunchecked
    exact Or.inr ⟨hbefore hunchecked, view_same h.keys hnext ⟨existing, hexisting, hkeyed,
      hinstitutions ▸ List.mem_append_left _ hexisting⟩⟩
  · obtain ⟨id, review, rfl, hreview, -, hnextRound, -, hinstitutions, happrovals⟩ :=
      proposeInstitutionReview_spec hproposed
    have hview : (onboardingReviews service).view (step service db action) onboarded =
        (onboardingReviews service).view db onboarded := by
      change (step service db action).tenantInstitutions.find? _ = _
      rw [hinstitutions]
      rfl
    by_cases hown : (tenantId, id) = onboarded
    · rw [onboardingOf_append_self happrovals hown] at hunchecked
      obtain hold | hnew := List.mem_append.mp hunchecked.mem
      · exact Or.inr ⟨hbefore (hunchecked.of_append hold), hview⟩
      · subst hown
        rw [List.mem_singleton.mp hnew] at hround hactor heffect
        simp only at hactor
        subst hactor
        exact Or.inl ⟨input, review, round, _, hcall, hproposed, Prod.ext hkey hround.symm, hreview, heffect⟩
    · rw [onboardingOf_append_other happrovals hown] at hunchecked
      exact Or.inr ⟨hbefore hunchecked, hview⟩
  · obtain ⟨id, review, decided, -, -, hdecidedProposal, -, happrovals, hinstitutions⟩ :=
      decideInstitutionReview_spec hdecided
    have hown : (tenantId, id) ≠ onboarded := by
      rintro rfl
      rw [onboardingOf_append_self happrovals rfl] at hunchecked
      obtain hold | hnew := List.mem_append.mp hunchecked.mem
      · -- Both proposals are of the last round, which the decision has ended.
        have hlast := (h.rounds tenantId id).last proposal (hunchecked.of_append hold)
        have hlast' := (h.rounds tenantId id).last decided (pendingReview_unchecked hdecidedProposal)
        exact hunchecked.unchecked _ (List.mem_append_right _ (List.mem_singleton_self _)) (hlast'.trans hlast.symm) rfl
      · have hmaker := hunchecked.maker
        rw [List.mem_singleton.mp hnew] at hmaker
        cases hmaker
    rw [onboardingOf_append_other happrovals hown] at hunchecked
    obtain ⟨existing, hexisting, hkeyed⟩ := hknown hunchecked
    refine Or.inr ⟨hbefore hunchecked, view_same h.keys hnext ⟨existing, hexisting, hkeyed, ?_⟩⟩
    rw [hinstitutions]
    split
    · exact List.mem_map.mpr ⟨existing, hexisting, if_neg fun heq => hown (heq.symm.trans hkeyed)⟩
    · exact hexisting

/-- An institution is approved or rejected by the approval of a pending proposal
alone. -/
theorem onboarding_effect {action : Action} {onboarded : Onboarded} {effect : OnboardingStatus}
    (heffect : (onboardingReviews service).Effects db (step service db action) onboarded effect) :
    ∃ key makerRef checkerRef, makerRef ≠ checkerRef ∧
      (onboardingReviews service).Decides db action key checkerRef true ∧
      PendingOnboarding db key makerRef onboarded effect := by
  obtain ⟨changed, hchanged, hnew, rfl, hstatus, rfl⟩ := heffect
  obtain hsame | ⟨tenantId, input, institution, -, hregistered⟩ | ⟨tenantId, actorRef, institutionId, input, round, -,
    hproposed⟩ | ⟨tenantId, actorRef, institutionId, input, state, hcall, hdecided⟩ :=
      @step_onboarding service db action
  · exact absurd (hsame.institutions ▸ hchanged) hnew
  · obtain ⟨row, -, hdiligence, hinstitutions, -⟩ := registerInstitution_onboarding hregistered
    rw [hinstitutions] at hchanged
    obtain hold | hadded := List.mem_append.mp hchanged
    · exact absurd hold hnew
    · rw [List.mem_singleton.mp hadded] at hstatus
      exact absurd hdiligence hstatus
  · obtain ⟨_, _, -, -, -, -, -, hinstitutions, -⟩ := proposeInstitutionReview_spec hproposed
    exact absurd (hinstitutions ▸ hchanged) hnew
  · obtain ⟨id, review, proposal, rfl, hreview, hproposal, hdiffer, -, hinstitutions⟩ :=
      decideInstitutionReview_spec hdecided
    rw [hinstitutions] at hchanged
    split at hchanged
    · next happrove =>
      obtain ⟨row, hrow, rfl⟩ := List.mem_map.mp hchanged
      by_cases hkey : row.key = (tenantId, id)
      · rw [if_pos hkey]
        refine ⟨((tenantId, id), proposal.approvalRound), proposal.actorRef, actorRef, hdiffer,
          ⟨tenantId, id, input, review, proposal, state, _, hcall, hdecided, hproposal, rfl, hreview,
            by simp [happrove]⟩,
          hkey.symm, proposal, ?_, rfl, rfl, rfl⟩
        obtain ⟨htenant, hid⟩ := Prod.mk.inj hkey
        change Unchecked (db.onboardingOf row.tenantId row.institutionId) proposal
        rw [htenant, hid]
        exact pendingReview_unchecked hproposal
      · rw [if_neg hkey] at hnew
        exact absurd hrow hnew
    · exact absurd hchanged hnew

end Invariants

/-- Reviews of institutions follow the rules of a workflow. -/
theorem onboardingReviews_lawful (service : ProductCatalogService) :
    (onboardingReviews service).Lawful OnboardingSound PendingOnboarding (fun _ _ => False) DecidedOnboarding where
  step _ action h := onboardingSound_step action h
  pending := by
    intro db action key makerRef onboarded effect h hpending
    obtain hproposes | ⟨hbefore, hview⟩ := onboarding_pending h hpending
    · exact Or.inl hproposes
    · exact Or.inr ⟨hbefore, Or.inl hview⟩
  overtaken _ hovertaken := hovertaken
  effect := by
    intro db action onboarded effect _ heffect
    obtain ⟨key, makerRef, checkerRef, hdiffer, hdecides, hpending⟩ := onboarding_effect heffect
    exact ⟨key, makerRef, checkerRef, hdiffer, hdecides, hpending, not_false⟩
  decides := by
    rintro db action key checkerRef approve h ⟨tenantId, institutionId, input, review, proposal, state, next, hcall,
      hdecided, hproposal, rfl, -, -⟩
    have hunchecked := pendingReview_unchecked hproposal
    refine ⟨fun ⟨row, hrow, hround, hrole⟩ => hunchecked.unchecked row hrow hround hrole, ?_⟩
    obtain ⟨id, _, own, heq, -, hown, -, happrovals, -⟩ := decideInstitutionReview_spec hdecided
    cases heq
    rw [hproposal] at hown
    cases hown
    have hstep : step service db action = next := by
      rw [step, respond, commit, perform, hcall]
      simp only [hdecided, Except.map]
    change DecidedOnboarding (step service db action) _
    rw [hstep, DecidedOnboarding, onboardingOf_append_self happrovals rfl]
    exact ⟨_, List.mem_append_right _ (List.mem_singleton_self _), rfl, rfl⟩
  decided := by
    rintro db action key h ⟨row, hrow, hround, hrole⟩
    obtain ⟨hstored, hof⟩ := List.mem_filter.mp hrow
    refine ⟨row, List.mem_filter.mpr ⟨?_, hof⟩, hround, hrole⟩
    change row ∈ (step service db action).onboardingApprovals
    obtain hsame | ⟨_, _, _, -, hregistered⟩ | ⟨_, _, _, _, _, -, hproposed⟩ | ⟨_, _, _, _, _, -, hdecided⟩ :=
      @step_onboarding service db action
    · rwa [hsame.approvals]
    · obtain ⟨_, -, -, -, happrovals⟩ := registerInstitution_onboarding hregistered
      rwa [happrovals]
    · obtain ⟨_, _, -, -, -, -, -, -, happrovals⟩ := proposeInstitutionReview_spec hproposed
      rw [happrovals]
      exact List.mem_append_left _ hstored
    · obtain ⟨_, _, _, -, -, -, -, happrovals, -⟩ := decideInstitutionReview_spec hdecided
      rw [happrovals]
      exact List.mem_append_left _ hstored
  rejected := by
    rintro db action key checkerRef onboarded effect _ ⟨tenantId, institutionId, input, review, _, _, _, hcall, -, -, -,
      hreview, hreject⟩ heffect
    obtain ⟨_, _, _, -, ⟨_, _, _, review', _, _, _, hcall', -, -, -, hreview', happrove⟩, -⟩ :=
      onboarding_effect heffect
    rw [hcall] at hcall'
    cases hcall'
    rw [hreview] at hreview'
    cases hreview'
    exact absurd (hreject.mpr (happrove.mp rfl)) (by decide)

end rwa.catalog
