import RwaControlPlane.Catalog.PendingProposals

open checked keyed_rows js_value runs
open rwa.gate (ProductStatus)

namespace rwa.catalog

variable {service : ProductCatalogService} {db next : Database} {productId : String}

/-- A checker approves a proposal. -/
structure Approves (service : ProductCatalogService) (db : Database) (decision : Action) (productId : String)
    (proposal : ActivationApproval) : Prop where
  accepted : Accepted service db decision
  approves : ∃ tenantId actorRef input reason,
    decision.call = .decideActivation tenantId actorRef (some productId) input ∧
    reviewInput input = .ok ⟨.approve, reason⟩
  proposal : db.pendingActivation productId = some proposal

/-- The call that records a proposal. -/
def RecordsProposal (service : ProductCatalogService) (productId : String) (proposal : ActivationApproval)
    (db : Database) (action : Action) : Prop :=
  proposal ∉ db.approvalsOf productId ∧ proposal ∈ (step service db action).approvalsOf productId

/-- A call attaches evidence to a product. -/
def AttachesTo (service : ProductCatalogService) (productId : String) (db : Database) (action : Action) : Prop :=
  Accepted service db action ∧
    ∃ tenantId actorRef input, action.call = .attachActivationEvidence tenantId actorRef (some productId) input

/-- The evidence that satisfies each requirement of a product. -/
def Database.evidenceInForce (db : Database) (productId : String) : List (String × Option String) :=
  (db.requirementsOf productId).map fun row => (row.requirementCode, row.evidenceId)

/-- The roles and the evidence of a product are the same in two states. -/
structure SameConfiguration (db next : Database) (productId : String) : Prop where
  roles : next.rolesOf productId = db.rolesOf productId
  evidence : next.evidenceInForce productId = db.evidenceInForce productId

/-- Whenever a proposal is approved in a run, the roles and the evidence are those
in force when it was made. -/
def FourEyes (service : ProductCatalogService) (actions : List Action) : Prop :=
  ∀ before decision after productId proposal, actions = before ++ decision :: after →
    Approves service (run service before) decision productId proposal →
    (∃ earlier action later, before = earlier ++ action :: later ∧
      RecordsProposal service productId proposal (run service earlier) action) ∧
    ∀ earlier action later, before = earlier ++ action :: later →
      RecordsProposal service productId proposal (run service earlier) action →
      SameConfiguration (run service (earlier ++ [action])) (run service before) productId

/-- Evidence is attached to a product between a proposal and its approval. -/
def AttachesBetween (service : ProductCatalogService) (actions : List Action) : Prop :=
  ∃ before decision after productId proposal earlier action later, actions = before ++ decision :: after ∧
    Approves service (run service before) decision productId proposal ∧ before = earlier ++ action :: later ∧
    RecordsProposal service productId proposal (run service earlier) action ∧
    OccursAfter (step service) Database.migrated (AttachesTo service productId) (earlier ++ [action]) later

section Rows

/-- A requirement stays as it is or loses its evidence. -/
def Faded (row changed : EvidenceRequirement) : Prop :=
  changed = row ∨ changed = { row with status := .missing, evidenceId := none }

theorem faded_refl (rows : List EvidenceRequirement) : List.Forall₂ Faded rows rows :=
  List.forall₂_same.mpr fun _ _ => Or.inl rfl

theorem Faded.trans {first second third : EvidenceRequirement} (h : Faded first second) (hnext : Faded second third) :
    Faded first third := by
  rcases hnext with rfl | rfl
  · exact h
  · rcases h with rfl | rfl <;> exact Or.inr rfl

theorem faded_trans {first second third : List EvidenceRequirement} (h : List.Forall₂ Faded first second)
    (hnext : List.Forall₂ Faded second third) : List.Forall₂ Faded first third := by
  induction h generalizing third with
  | nil =>
    cases hnext
    exact .nil
  | cons hhead _ ih =>
    cases hnext with
    | cons hhead' htail => exact .cons (hhead.trans hhead') (ih htail)

theorem faded_missed {view : ProductView} {signed : EvidenceRequirement → Bool} :
    List.Forall₂ Faded view.requirements (view.missed signed).requirements := by
  rw [ProductView.missed, List.forall₂_map_right_iff]
  refine List.forall₂_same.mpr fun row _ => ?_
  split
  · exact Or.inr rfl
  · exact Or.inl rfl

/-- Requirements that are all satisfied have not faded. -/
theorem eq_of_faded {rows changed : List EvidenceRequirement} (h : List.Forall₂ Faded rows changed)
    (hsatisfied : ∀ row ∈ changed, row.status = .satisfied) : changed = rows := by
  induction h with
  | nil => rfl
  | cons hhead _ ih =>
    rcases hhead with rfl | rfl
    · rw [ih fun row hrow => hsatisfied row (List.mem_cons_of_mem _ hrow)]
    · have hmissing := hsatisfied _ List.mem_cons_self
      cases hmissing

theorem mem_of_faded {rows changed : List EvidenceRequirement} (h : List.Forall₂ Faded rows changed)
    {row : EvidenceRequirement} (hrow : row ∈ changed) : ∃ before ∈ rows, Faded before row := by
  induction h with
  | nil => cases hrow
  | cons hhead _ ih =>
    rcases List.mem_cons.mp hrow with rfl | hrest
    · exact ⟨_, List.mem_cons_self, hhead⟩
    · obtain ⟨before, hbefore, hfaded⟩ := ih hrest
      exact ⟨before, List.mem_cons_of_mem _ hbefore, hfaded⟩

theorem codes_of_faded {rows changed : List EvidenceRequirement} (h : List.Forall₂ Faded rows changed) :
    changed.map (·.requirementCode) = rows.map (·.requirementCode) := by
  induction h with
  | nil => rfl
  | cons hhead _ ih =>
    rw [List.map_cons, List.map_cons, ih]
    rcases hhead with rfl | rfl <;> rfl

end Rows

/-- A product that exists is not created. -/
theorem ne_absent {product : Product} (hproduct : db.findProduct productId = some product) :
    db.view productId ≠ ProductView.absent := by
  intro habsent
  have hnone : db.findProduct productId = none := congrArg ProductView.product habsent
  rw [hproduct] at hnone
  cases hnone

/-- What a call does to the requirements of a product that exists. -/
theorem CallEnds.requirements {now clock : Int} {call : Call} (h : CallEnds db now clock call next)
    (hconsistent : db.Consistent) {product : Product} (hproduct : db.findProduct productId = some product) :
    List.Forall₂ Faded (db.requirementsOf productId) (next.requirementsOf productId) ∨
    ∃ tenantId actorRef input row product configuration template requirement key,
      call = .attachActivationEvidence tenantId actorRef (some productId) input ∧
      Attaches db next tenantId actorRef productId now row product configuration template requirement key := by
  have hkept : ∀ {changed : ProductView}, next.view productId = changed →
      changed.requirements = db.requirementsOf productId →
      List.Forall₂ Faded (db.requirementsOf productId) (next.requirementsOf productId) := by
    intro changed hview hrequirements
    have hnext : next.requirementsOf productId = db.requirementsOf productId :=
      (congrArg ProductView.requirements hview).trans hrequirements
    rw [hnext]
    exact faded_refl _
  obtain hsame | htouches := h.touches hconsistent productId
  · exact Or.inl (hkept hsame rfl)
  cases htouches with
  | revoked _ hview =>
    refine Or.inl ?_
    change List.Forall₂ Faded _ (next.view productId).requirements
    rw [hview]
    exact @faded_missed (db.view productId) _
  | created _ habsent => exact absurd habsent (ne_absent hproduct)
  | assigned assigns =>
    obtain ⟨status, -, hview⟩ := assigns.own
    exact Or.inl (hkept hview ProductView.recorded_requirements)
  | attached attaches => exact Or.inr ⟨_, _, _, _, _, _, _, _, _, rfl, attaches⟩
  | proposed proposes => exact Or.inl (hkept proposes.own ProductView.recorded_requirements)
  | @decided _ _ _ review _ _ _ _ decides =>
    obtain ⟨_, hview⟩ := decides.own
    refine Or.inl (hkept hview (ProductView.recorded_requirements.trans ?_))
    cases review.decision <;> rfl
  | statusSet sets => exact Or.inl (hkept sets.own rfl)

/-- What a call does to the roles of a product that exists. -/
theorem CallEnds.roles {now clock : Int} {call : Call} (h : CallEnds db now clock call next)
    (hconsistent : db.Consistent) {product : Product} (hproduct : db.findProduct productId = some product) :
    next.rolesOf productId = db.rolesOf productId ∨
    ∃ tenantId actorRef role institutionId product configuration template,
      call = .assignRole tenantId actorRef (some productId) role (some institutionId) ∧
      Assigns db next tenantId actorRef productId role institutionId clock product configuration template := by
  have hkept : ∀ {changed : ProductView}, next.view productId = changed → changed.roles = db.rolesOf productId →
      next.rolesOf productId = db.rolesOf productId :=
    fun hview hroles => (congrArg ProductView.roles hview).trans hroles
  obtain hsame | htouches := h.touches hconsistent productId
  · exact Or.inl (hkept hsame rfl)
  cases htouches with
  | revoked _ hview => exact Or.inl (hkept hview rfl)
  | created _ habsent => exact absurd habsent (ne_absent hproduct)
  | assigned assigns => exact Or.inr ⟨_, _, _, _, _, _, _, rfl, assigns⟩
  | attached attaches => exact Or.inl (hkept attaches.own ProductView.recorded_roles)
  | proposed proposes => exact Or.inl (hkept proposes.own ProductView.recorded_roles)
  | @decided _ _ _ review _ _ _ _ decides =>
    obtain ⟨_, hview⟩ := decides.own
    refine Or.inl (hkept hview (ProductView.recorded_roles.trans ?_))
    cases review.decision <;> rfl
  | statusSet sets => exact Or.inl (hkept sets.own rfl)

/-- No call removes an approval. -/
theorem CallEnds.approvals {now clock : Int} {call : Call} (h : CallEnds db now clock call next)
    (hconsistent : db.Consistent) {row : ActivationApproval} (hrow : row ∈ db.approvalsOf productId) :
    row ∈ next.approvalsOf productId := by
  change row ∈ (next.view productId).approvals
  change row ∈ (db.view productId).approvals at hrow
  obtain hsame | htouches := h.touches hconsistent productId
  · rwa [hsame]
  cases htouches with
  | revoked _ hview => rwa [hview]
  | created _ habsent =>
    rw [habsent] at hrow
    cases hrow
  | assigned assigns =>
    obtain ⟨status, -, hview⟩ := assigns.own
    rwa [hview, ProductView.recorded_approvals]
  | attached attaches => rwa [attaches.own, ProductView.recorded_approvals]
  | proposed proposes =>
    rw [proposes.own, ProductView.recorded_approvals]
    exact List.mem_append_left _ hrow
  | @decided _ _ _ review _ _ _ _ decides =>
    obtain ⟨_, hview⟩ := decides.own
    rw [hview, ProductView.recorded_approvals]
    cases review.decision <;> exact List.mem_append_left _ hrow
  | statusSet sets => rwa [sets.own]

/-- No call removes evidence. -/
theorem CallEnds.evidence {now clock : Int} {call : Call} (h : CallEnds db now clock call next) :
    ∃ added, next.evidence = db.evidence ++ added := by
  have hsame : next.evidence = db.evidence → ∃ added, next.evidence = db.evidence ++ added :=
    fun heq => ⟨[], by rw [heq, List.append_nil]⟩
  cases h with
  | onboarded _ same _ => exact hsame same.evidence
  | revoked revoked => exact hsame revoked.evidence
  | created creates => exact hsame creates.evidence
  | assigned assigns => exact hsame assigns.evidence
  | attached attaches => exact ⟨_, attaches.evidence⟩
  | proposed proposes => exact hsame proposes.evidence
  | decided _ decides => exact hsame decides.evidence
  | statusSet sets => exact hsame sets.evidence

theorem step_approvals {row : ActivationApproval} (action : Action) (hconsistent : db.Consistent)
    (hrow : row ∈ db.approvalsOf productId) : row ∈ (step service db action).approvalsOf productId := by
  obtain ⟨-, hsame⟩ | ⟨-, hends⟩ := @step_cases service db action
  · rwa [hsame]
  · exact hends.approvals hconsistent hrow

theorem step_evidence (action : Action) : ∃ added, (step service db action).evidence = db.evidence ++ added := by
  obtain ⟨-, hsame⟩ | ⟨-, hends⟩ := @step_cases service db action
  · exact ⟨[], by rw [hsame, List.append_nil]⟩
  · exact hends.evidence

theorem run_concat_eq (actions : List Action) (action : Action) :
    run service (actions ++ [action]) = step service (run service actions) action := run_concat

/-- Approvals of a state of a run are there in every later one. -/
theorem run_approvals {row : ActivationApproval} (before after : List Action)
    (hrow : row ∈ (run service before).approvalsOf productId) :
    row ∈ (run service (before ++ after)).approvalsOf productId := by
  induction after using List.reverseRecOn with
  | nil => rwa [List.append_nil]
  | append_singleton after action ih =>
    rw [← List.append_assoc, run_concat_eq]
    exact step_approvals action (run_consistent _) ih

theorem run_evidence (before after : List Action) {row : ActivationEvidence}
    (hrow : row ∈ (run service before).evidence) :
    row ∈ (run service (before ++ after)).evidence := by
  induction after using List.reverseRecOn with
  | nil => rwa [List.append_nil]
  | append_singleton after action ih =>
    rw [← List.append_assoc, run_concat_eq]
    obtain ⟨added, hadded⟩ := @step_evidence service (run service (before ++ after)) action
    rw [hadded]
    exact List.mem_append_left _ ih

/-- A product is pending with a proposal that is not decided. -/
structure Database.Awaits (db : Database) (productId : String) (proposal : ActivationApproval) : Prop where
  status : (db.view productId).configurationStatus = some .activationPending
  pending : (db.view productId).pending = [proposal]

theorem Database.Awaits.found {proposal : ActivationApproval} (h : db.Awaits productId proposal)
    (hconsistent : db.Consistent) : ∃ product, db.findProduct productId = some product := by
  rcases hconsistent.products productId with habsent | ⟨product, _, _, hconfigured⟩
  · have hstatus := h.status
    rw [habsent] at hstatus
    cases hstatus
  · exact ⟨product, hconfigured.joined.foundProduct⟩

/-- A product comes to wait for a decision only by the proposal, and its roles
stay while it waits. -/
theorem CallEnds.awaits {now clock : Int} {call : Call} {proposal : ActivationApproval}
    (h : CallEnds db now clock call next) (hconsistent : db.Consistent)
    (hsingle : (db.view productId).pending.length ≤ 1) (hnext : next.Awaits productId proposal) :
    (db.Awaits productId proposal ∧ next.rolesOf productId = db.rolesOf productId) ∨
      proposal ∉ db.approvalsOf productId := by
  obtain ⟨hstatus, hpending⟩ := hnext
  obtain hsame | htouches := h.touches hconsistent productId
  · rw [hsame] at hstatus hpending
    exact Or.inl ⟨⟨hstatus, hpending⟩, congrArg ProductView.roles hsame⟩
  cases htouches with
  | revoked _ hview =>
    rw [hview] at hstatus hpending
    refine Or.inl ⟨⟨?_, hpending⟩, congrArg ProductView.roles hview⟩
    obtain ⟨changed, hchanged, hstate⟩ := Option.map_eq_some_iff.mp hstatus
    obtain ⟨configuration, hconfiguration, rfl⟩ := Option.map_eq_some_iff.mp hchanged
    refine Option.map_eq_some_iff.mpr ⟨configuration, hconfiguration, ?_⟩
    split at hstate
    · cases hstate
    · exact hstate
  | created hown _ creates =>
    rw [hown, creates.own (creates.absent hconsistent), ProductView.configurationStatus,
      ProductView.recorded_configuration] at hstatus
    cases hstatus
  | assigned assigns =>
    obtain ⟨status, hrole, hview⟩ := assigns.own
    rw [hview, @ProductView.configurationStatus_recorded _ (db.view productId) _ _ _ _ _ _
      assigns.joined.foundConfiguration rfl, Option.some.injEq] at hstatus
    rcases roleStatus_cases with hcases | hcases <;> rw [← hrole, hstatus] at hcases <;> cases hcases
  | attached attaches =>
    rw [attaches.own, ProductView.pending_congr ProductView.recorded_approvals] at hpending
    rw [attaches.own, ProductView.configurationStatus, ProductView.recorded_configuration, ProductView.bumped,
      Option.map_map] at hstatus
    refine Or.inl ⟨⟨hstatus, hpending⟩, (congrArg ProductView.roles attaches.own).trans ?_⟩
    exact ProductView.recorded_roles
  | proposed proposes =>
    rw [proposes.one_pending] at hpending
    obtain rfl := List.head_eq_of_cons_eq hpending
    refine Or.inr fun hmem => ?_
    have hlt := lt_activationRound hmem
    rw [← proposes.nextRound] at hlt
    exact lt_irrefl _ hlt
  | decided decides =>
    rw [decides.none_pending hsingle] at hpending
    cases hpending
  | statusSet sets =>
    rw [sets.own] at hstatus hpending
    exact Or.inl ⟨⟨hstatus, hpending⟩, congrArg ProductView.roles sets.own⟩

/-- The call that has made the proposal that a product waits with. -/
theorem awaits_recorded {before : List Action} {proposal : ActivationApproval}
    (h : (run service before).Awaits productId proposal) :
    ∃ earlier action later, before = earlier ++ action :: later ∧
      RecordsProposal service productId proposal (run service earlier) action := by
  induction before using List.reverseRecOn with
  | nil =>
    have hstatus := h.status
    cases hstatus
  | append_singleton before action ih =>
    rw [run_concat_eq] at h
    have hextend : (run service before).Awaits productId proposal → ∃ earlier recording later,
        before ++ [action] = earlier ++ recording :: later ∧
        RecordsProposal service productId proposal (run service earlier) recording := by
      intro hawaits
      obtain ⟨earlier, recording, later, rfl, hrecords⟩ := ih hawaits
      exact ⟨earlier, recording, later ++ [action], by simp, hrecords⟩
    obtain ⟨-, hsame⟩ | ⟨-, hends⟩ := @step_cases service (run service before) action
    · exact hextend (hsame ▸ h)
    · rcases hends.awaits (run_consistent before) (run_single before productId) h with ⟨hawaits, -⟩ | hfresh
      · exact hextend hawaits
      · have hmem : proposal ∈ ((step service (run service before) action).view productId).pending :=
          h.pending ▸ List.mem_cons_self
        exact ⟨before, action, [], rfl, hfresh, (List.mem_filter.mp hmem).1⟩

/-- What has become of a product that waits for a decision since it was
proposed: its roles are the same, and so is its evidence unless some is
attached. -/
structure WaitsSince (service : ProductCatalogService) (productId : String) (earlier later : List Action) : Prop where
  roles : (run service (earlier ++ later)).rolesOf productId = (run service earlier).rolesOf productId
  faded : ¬OccursAfter (step service) Database.migrated (AttachesTo service productId) earlier later →
    List.Forall₂ Faded ((run service earlier).requirementsOf productId)
      ((run service (earlier ++ later)).requirementsOf productId)
  fresh : OccursAfter (step service) Database.migrated (AttachesTo service productId) earlier later →
    ∃ code ∈ ((run service (earlier ++ later)).requirementsOf productId).map (·.requirementCode),
      ∀ row ∈ (run service (earlier ++ later)).requirementsOf productId, row.requirementCode = code →
        ∀ id, row.evidenceId = some id → id ∉ (run service earlier).evidence.map (·.id)

theorem waitsSince_nil {earlier : List Action} : WaitsSince service productId earlier [] := by
  refine ⟨by rw [List.append_nil], fun _ => ?_, fun hoccurs => absurd hoccurs not_occursAfter_nil⟩
  rw [List.append_nil]
  exact faded_refl _

/-- Evidence that is attached is new to its requirement. -/
theorem Attaches.fresh_requirement {tenantId actorRef : String} {now : Int} {row : ActivationEvidence}
    {product : Product}
    {configuration : ProductConfiguration} {template : ProductTemplate} {requirement : EvidenceRequirement}
    {key : SigningKey}
    (h : Attaches db next tenantId actorRef productId now row product configuration template requirement key)
    {known : List String} (hknown : ∀ id ∈ known, id ∈ db.evidence.map (·.id)) :
    ∃ code ∈ (next.requirementsOf productId).map (·.requirementCode), ∀ changed ∈ next.requirementsOf productId,
      changed.requirementCode = code → ∀ id, changed.evidenceId = some id → id ∉ known := by
  have hrequirements : next.requirementsOf productId =
      ((db.view productId).satisfied row.requirementCode row.id).requirements :=
    (congrArg ProductView.requirements h.own).trans ProductView.recorded_requirements
  have hfound : requirement ∈ db.requirementsOf productId ∧ requirement.requirementCode = row.requirementCode := by
    have hselected := List.find?_some h.foundRequirement
    simp only [Bool.and_eq_true, decide_eq_true_eq] at hselected
    exact ⟨List.mem_filter.mpr ⟨List.mem_of_find?_eq_some h.foundRequirement, decide_eq_true hselected.1⟩, hselected.2⟩
  rw [hrequirements]
  refine ⟨row.requirementCode, ?_, ?_⟩
  · exact List.mem_map.mpr ⟨_, List.mem_map.mpr ⟨requirement, hfound.1, rfl⟩, by rw [if_pos hfound.2]; exact hfound.2⟩
  · intro changed hchanged hcode id hid hmem
    obtain ⟨before, -, rfl⟩ := List.mem_map.mp hchanged
    by_cases hown : before.requirementCode = row.requirementCode
    · rw [if_pos hown] at hid
      obtain rfl := Option.some.inj hid
      exact h.fresh (hknown _ hmem)
    · rw [if_neg hown] at hcode
      exact hown hcode

/-- A step of a product that keeps waiting. -/
theorem WaitsSince.concat {earlier later : List Action} {action : Action} {proposal : ActivationApproval}
    (h : WaitsSince service productId earlier later)
    (hrecorded : proposal ∈ (run service (earlier ++ later)).approvalsOf productId)
    (hnext : (run service (earlier ++ (later ++ [action]))).Awaits productId proposal) :
    (run service (earlier ++ later)).Awaits productId proposal ∧
      WaitsSince service productId earlier (later ++ [action]) := by
  have hconsistent := @run_consistent service (earlier ++ later)
  have hrun : run service (earlier ++ (later ++ [action])) = step service (run service (earlier ++ later)) action := by
    rw [← List.append_assoc, run_concat_eq]
  rw [hrun] at hnext
  have hconcat : OccursAfter (step service) Database.migrated (AttachesTo service productId) earlier
    (later ++ [action]) ↔
      OccursAfter (step service) Database.migrated (AttachesTo service productId) earlier later ∨
        AttachesTo service productId (run service (earlier ++ later)) action := occursAfter_concat
  obtain ⟨hrefused, hsame⟩ | ⟨haccepted, hends⟩ := @step_cases service (run service (earlier ++ later)) action
  · rw [hsame] at hnext hrun
    have hkept : ¬OccursAfter (step service) Database.migrated (AttachesTo service productId) earlier
      (later ++ [action]) ↔
        ¬OccursAfter (step service) Database.migrated (AttachesTo service productId) earlier later := by
      rw [hconcat, or_iff_left fun hattaches => hrefused hattaches.1]
    refine ⟨hnext, ⟨hrun ▸ h.roles, fun hnone => hrun ▸ h.faded (hkept.mp hnone), fun hsome => ?_⟩⟩
    rw [hrun]
    exact h.fresh (not_not.mp (mt hkept.mpr (not_not.mpr hsome)))
  · rcases hends.awaits hconsistent (run_single _ productId) hnext with ⟨hawaits, hroles⟩ | hfresh
    · obtain ⟨product, hproduct⟩ := hawaits.found hconsistent
      by_cases hattach : AttachesTo service productId (run service (earlier ++ later)) action
      · refine ⟨hawaits, ⟨by rw [hrun, hroles, h.roles], fun hnone => absurd (hconcat.mpr (Or.inr hattach)) hnone,
          fun _ => ?_⟩⟩
        rw [hrun]
        obtain ⟨-, tenantId, actorRef, input, hcall⟩ := hattach
        rw [hcall] at hends
        cases hends with
        | onboarded honboards => exact False.elim honboards
        | attached attaches =>
          refine attaches.fresh_requirement fun id hid => ?_
          obtain ⟨row, hrow, rfl⟩ := List.mem_map.mp hid
          exact List.mem_map_of_mem (run_evidence earlier later hrow)
      · have hfaded : List.Forall₂ Faded ((run service (earlier ++ later)).requirementsOf productId)
            ((step service (run service (earlier ++ later)) action).requirementsOf productId) := by
          rcases hends.requirements hconsistent hproduct with hfaded | ⟨tenantId, actorRef, input, _, _, _, _,
            _, _, hcall, -⟩
          · exact hfaded
          · exact absurd ⟨haccepted, tenantId, actorRef, input, hcall⟩ hattach
        rw [or_iff_left hattach] at hconcat
        refine ⟨hawaits, ⟨by rw [hrun, hroles, h.roles], fun hnone => ?_, fun hsome => ?_⟩⟩
        · rw [hrun]
          exact faded_trans (h.faded (mt hconcat.mpr hnone)) hfaded
        · rw [hrun]
          obtain ⟨code, hcode, hids⟩ := h.fresh (hconcat.mp hsome)
          refine ⟨code, codes_of_faded hfaded ▸ hcode, fun row hrow hown id hid => ?_⟩
          obtain ⟨before, hbefore, rfl | rfl⟩ := mem_of_faded hfaded hrow
          · exact hids _ hbefore hown id hid
          · cases hid
    · exact absurd hrecorded hfresh

/-- A product that waits for a decision has waited since it was proposed. -/
theorem waitsSince {earlier later : List Action} {proposal : ActivationApproval}
    (hrecorded : proposal ∈ (run service earlier).approvalsOf productId)
    (h : (run service (earlier ++ later)).Awaits productId proposal) : WaitsSince service productId earlier later := by
  induction later using List.reverseRecOn with
  | nil => exact waitsSince_nil
  | append_singleton later action ih =>
    have hstored := run_approvals earlier later hrecorded
    obtain ⟨-, hsame⟩ | ⟨-, hends⟩ := @step_cases service (run service (earlier ++ later)) action
    · have hawaits : (run service (earlier ++ later)).Awaits productId proposal := by
        rwa [← List.append_assoc, run_concat_eq, hsame] at h
      exact ((ih hawaits).concat hstored h).2
    · have hnext := h
      rw [← List.append_assoc, run_concat_eq] at hnext
      rcases hends.awaits (run_consistent _) (run_single _ productId) hnext with ⟨hawaits, -⟩ | hfresh
      · exact ((ih hawaits).concat hstored h).2
      · exact absurd hstored hfresh

/-- An approval is of a product that is ready. -/
theorem Approves.ready {decision : Action} {proposal : ActivationApproval}
    (h : Approves service db decision productId proposal) :
    ∃ tenantId product configuration template, Joined db tenantId productId product configuration template ∧
      product.status = .draft ∧ configuration.configurationStatus = .activationPending ∧
      Ready db tenantId productId template.requiredRoles decision.clock := by
  obtain ⟨tenantId, actorRef, input, reason, hcall, hreview⟩ := h.approves
  obtain ⟨hrefused, -⟩ | ⟨-, hends⟩ := @step_cases service db decision
  · exact absurd h.accepted hrefused
  · rw [hcall] at hends
    generalize step service db decision = next at hends
    cases hends with
    | onboarded honboards => exact False.elim honboards
    | @decided _ _ _ _ review _ product configuration template _ hreviewed decides =>
      obtain rfl := Except.ok.inj (hreview.symm.trans hreviewed)
      exact ⟨tenantId, product, configuration, template, decides.joined, decides.draft, decides.pending,
        decides.ready rfl⟩

/-- The product whose activation is approved waits for it, and its requirements
are satisfied by evidence. -/
theorem Approves.awaits {decision : Action} {proposal : ActivationApproval}
    (h : Approves service db decision productId proposal) (hconsistent : db.Consistent)
    (hsingle : (db.view productId).pending.length ≤ 1) :
    db.Awaits productId proposal ∧ ∀ row ∈ db.requirementsOf productId, row.status = .satisfied ∧
      ∃ evidence, row.evidenceId.bind db.findEvidence = some evidence ∧ decision.clock < evidence.expiresAt ∧
        evidence.verificationStatus = .verified := by
  obtain ⟨tenantId, product, configuration, template, hjoined, -, hstatus, hready⟩ := h.ready
  refine ⟨⟨Option.map_eq_some_iff.mpr ⟨configuration, hjoined.foundConfiguration, hstatus⟩,
    pending_of_pendingActivation hsingle h.proposal⟩, fun row hrow => ?_⟩
  exact lacksEvidence_eq_false (hready.evidence row hrow ((hconsistent.configured hjoined).mandatory row hrow))

/-- In every run the roles and the evidence that are approved are those that were
proposed, exactly if no evidence is attached to a product between its proposal
and the approval. -/
theorem four_eyes_iff (actions : List Action) : FourEyes service actions ↔ ¬AttachesBetween service actions := by
  constructor
  · rintro hfour ⟨before, decision, after, productId, proposal, earlier, action, later, rfl, happroves, rfl, hrecords,
      hoccurs⟩
    have hsame := (hfour _ decision after productId proposal rfl happroves).2 earlier action later rfl hrecords
    obtain ⟨hawaits, hsatisfied⟩ := happroves.awaits (run_consistent _) (run_single _ productId)
    have heq : earlier ++ action :: later = (earlier ++ [action]) ++ later := by simp
    rw [heq] at hawaits hsatisfied hsame
    have hstored : proposal ∈ (run service (earlier ++ [action])).approvalsOf productId := by
      rw [run_concat_eq]
      exact hrecords.2
    obtain ⟨code, hcode, hids⟩ := (waitsSince hstored hawaits).fresh hoccurs
    obtain ⟨row, hrow, rfl⟩ := List.mem_map.mp hcode
    obtain ⟨-, evidence, hevidence, -⟩ := hsatisfied row hrow
    obtain ⟨id, hid, -⟩ := Option.bind_eq_some_iff.mp hevidence
    have hforce : (row.requirementCode, row.evidenceId) ∈
        (run service (earlier ++ [action])).evidenceInForce productId :=
      hsame.evidence ▸ List.mem_map_of_mem hrow
    obtain ⟨given, hgiven, hpair⟩ := List.mem_map.mp hforce
    have hgivenId : given.evidenceId = some id := (congrArg Prod.snd hpair).trans hid
    refine hids row hrow rfl id hid ?_
    rcases (@run_consistent service (earlier ++ [action])).products productId with habsent | ⟨_, _, _, hconfigured⟩
    · have hnone : (run service (earlier ++ [action])).requirementsOf productId = [] :=
        congrArg ProductView.requirements habsent
      rw [hnone] at hgiven
      cases hgiven
    · rcases hconfigured.evidenced given hgiven with ⟨stored, key, hsatisfies⟩ | ⟨-, hmissing⟩
      · have hstoredId : stored.id = id := Option.some.inj (hsatisfies.evidenceId.symm.trans hgivenId)
        exact List.mem_map.mpr ⟨stored, hsatisfies.stored, hstoredId⟩
      · rw [hmissing] at hgivenId
        cases hgivenId
  · rintro hnone before decision after productId proposal rfl happroves
    obtain ⟨hawaits, hsatisfied⟩ := happroves.awaits (run_consistent _) (run_single _ productId)
    refine ⟨awaits_recorded hawaits, ?_⟩
    rintro earlier action later rfl hrecords
    have hoccurs : ¬OccursAfter (step service) Database.migrated (AttachesTo service productId)
      (earlier ++ [action]) later :=
      fun hoccurs => hnone ⟨_, decision, after, productId, proposal, earlier, action, later, rfl,
        happroves, rfl, hrecords, hoccurs⟩
    have heq : earlier ++ action :: later = (earlier ++ [action]) ++ later := by simp
    rw [heq] at hawaits hsatisfied ⊢
    have hstored : proposal ∈ (run service (earlier ++ [action])).approvalsOf productId := by
      rw [run_concat_eq]
      exact hrecords.2
    have hsince := waitsSince hstored hawaits
    have hrows := eq_of_faded (hsince.faded hoccurs) fun row hrow => (hsatisfied row hrow).1
    exact ⟨hsince.roles,
      congrArg (List.map fun row : EvidenceRequirement => (row.requirementCode, row.evidenceId)) hrows⟩

theorem accepted_iff {action : Action} :
    Accepted service db action ↔ (perform service action db).toOption.isSome = true := by
  unfold Accepted
  cases perform service action db with
  | error failure => simp [Except.toOption]
  | ok outcome => exact iff_of_true ⟨outcome.1, outcome.2, rfl⟩ rfl

section Sample

/-- Evidence is replaced between the proposal and the approval of an
activation. -/
def sampleReplacement : List Action :=
  sampleConfiguration ++ sampleSubmission ++
  [sampleProposal, sampleEvidence "bank-one" "legal_opinion" "evidence-9"]

/-- The checker approves evidence that the maker has not proposed. -/
theorem replaced_evidence_is_approved : ¬FourEyes sampleService (sampleReplacement ++ [sampleDecision]) := by
  intro h
  have hsplit : sampleReplacement = (sampleConfiguration ++ sampleSubmission) ++ sampleProposal ::
      [sampleEvidence "bank-one" "legal_opinion" "evidence-9"] := rfl
  have hfacts : (perform sampleService sampleDecision (run sampleService sampleReplacement)).toOption.isSome = true ∧
      (run sampleService sampleReplacement).pendingActivation "credit-one" =
        some ⟨"credit-one", 1, .maker, "maker", .activate, "complete"⟩ ∧
      (run sampleService (sampleConfiguration ++ sampleSubmission)).approvalsOf "credit-one" = [] ∧
      (step sampleService (run sampleService (sampleConfiguration ++ sampleSubmission)) sampleProposal).approvalsOf
        "credit-one" = [⟨"credit-one", 1, .maker, "maker", .activate, "complete"⟩] ∧
      (run sampleService sampleReplacement).evidenceInForce "credit-one" ≠
        (run sampleService (sampleConfiguration ++ sampleSubmission ++ [sampleProposal])).evidenceInForce
          "credit-one" := by
    decide +kernel
  obtain ⟨haccepted, hpending, hbefore, hafter, hdiffers⟩ := hfacts
  have happroves : Approves sampleService (run sampleService sampleReplacement) sampleDecision "credit-one"
      ⟨"credit-one", 1, .maker, "maker", .activate, "complete"⟩ :=
    ⟨accepted_iff.mpr haccepted, ⟨"sandbox-hk", "checker", sampleReview, "complete", rfl, rfl⟩, hpending⟩
  have hrecords : RecordsProposal sampleService "credit-one" ⟨"credit-one", 1, .maker, "maker", .activate, "complete"⟩
      (run sampleService (sampleConfiguration ++ sampleSubmission)) sampleProposal := by
    unfold RecordsProposal
    rw [hbefore, hafter]
    exact ⟨List.not_mem_nil, List.mem_cons_self⟩
  have hsame := (h sampleReplacement sampleDecision [] "credit-one" _ rfl happroves).2 _ _ _ hsplit hrecords
  exact hdiffers hsame.evidence

end Sample

end rwa.catalog
