import RwaControlPlane.Catalog.FourEyes

open checked keyed_rows js_value runs
open rwa.gate (ProductStatus)

namespace rwa.catalog

variable {service : ProductCatalogService} {db next : Database} {productId role : String}

/-- The institutions that hold a role of a product. -/
def Database.holders (db : Database) (productId role : String) : List String :=
  ((db.rolesOf productId).filter (·.role = role)).map (·.institutionId)

/-- A requirement is satisfied by verified evidence that has not expired, and
comes from the only institution that holds the responsible role. -/
def Database.Sourced (db : Database) (productId : String) (clock : Int) (row : EvidenceRequirement) : Prop :=
  row.status = .satisfied ∧ ∃ evidence ∈ db.evidence, row.evidenceId = some evidence.id ∧
    evidence.verificationStatus = .verified ∧ clock < evidence.expiresAt ∧
    db.holders productId row.responsibleRole = [evidence.sourceInstitutionId]

/-- Whenever a product becomes active in a run, its mandatory requirements have
evidence of the institutions that are responsible. -/
def SourcesAssigned (service : ProductCatalogService) (actions : List Action) : Prop :=
  ∀ before decision after productId proposal, actions = before ++ decision :: after →
    Approves service (run service before) decision productId proposal →
    ∀ row ∈ (run service before).requirementsOf productId, row.mandatory = true →
      (run service before).Sourced productId decision.clock row

/-- A call assigns a role of a product to an institution. -/
def AssignsTo (service : ProductCatalogService) (productId role : String) (db : Database) (action : Action)
    (institutionId : String) : Prop :=
  Accepted service db action ∧
    ∃ tenantId actorRef, action.call = .assignRole tenantId actorRef (some productId) role (some institutionId)

/-- The call that records evidence. -/
def RecordsEvidence (service : ProductCatalogService) (evidence : ActivationEvidence) (db : Database)
    (action : Action) :
    Prop :=
  evidence ∉ db.evidence ∧ evidence ∈ (step service db action).evidence

/-- The last assignment of a role, since the evidence that is approved for it was
recorded, is to another institution than its source. -/
def ReassignedSince (service : ProductCatalogService) (actions : List Action) : Prop :=
  ∃ before decision after productId proposal, actions = before ++ decision :: after ∧
    Approves service (run service before) decision productId proposal ∧
    ∃ row ∈ (run service before).requirementsOf productId, row.mandatory = true ∧
      ∃ evidence earlier action later institutionId, row.evidenceId = some evidence.id ∧
        before = earlier ++ action :: later ∧ RecordsEvidence service evidence (run service earlier) action ∧
        LastAfter (step service) Database.migrated (AssignsTo service productId row.responsibleRole)
          (earlier ++ [action])
          later (some institutionId) ∧
        institutionId ≠ evidence.sourceInstitutionId

/-- The role that is responsible for each requirement of a product. -/
def Database.duties (db : Database) (productId : String) : List (String × String) :=
  (db.requirementsOf productId).map fun row => (row.requirementCode, row.responsibleRole)

section Calls

variable {now clock : Int} {call : Call}

/-- No call removes a product. -/
theorem CallEnds.found (h : CallEnds db now clock call next) (hfound : productId ∈ db.products.map (·.id)) :
    productId ∈ next.products.map (·.id) := by
  cases h with
  | onboarded _ same _ => rwa [same.products]
  | @revoked _ institutionId keyId _ _ revoked =>
    have hids : next.products.map (·.id) = db.products.map (·.id) := by
      rw [revoked.next]
      refine map_key_of_same fun row => ?_
      split <;> rfl
    rwa [hids]
  | created creates =>
    rw [creates.products, List.map_append]
    exact List.mem_append_left _ hfound
  | assigned assigns => rwa [assigns.base.productIds]
  | attached attaches => rwa [attaches.base.productIds]
  | proposed proposes => rwa [proposes.base.productIds]
  | decided _ decides => rwa [decides.base.productIds]
  | statusSet sets => rwa [sets.base.productIds]

theorem findProduct_of_mem (h : productId ∈ db.products.map (·.id)) :
    ∃ product, db.findProduct productId = some product := by
  obtain ⟨product, hmem, rfl⟩ := List.mem_map.mp h
  exact Option.isSome_iff_exists.mp (List.find?_isSome.mpr ⟨product, hmem, decide_eq_true rfl⟩)

theorem mem_of_findProduct {product : Product} (h : db.findProduct productId = some product) :
    productId ∈ db.products.map (·.id) :=
  List.mem_map.mpr ⟨product, List.mem_of_find?_eq_some h, by simpa using List.find?_some h⟩

/-- The roles that are responsible for the requirements of a product stay. -/
theorem CallEnds.duties (h : CallEnds db now clock call next) (hconsistent : db.Consistent)
    (hfound : productId ∈ db.products.map (·.id)) : next.duties productId = db.duties productId := by
  obtain ⟨product, hproduct⟩ := findProduct_of_mem hfound
  rcases h.requirements hconsistent hproduct with hfaded | ⟨_, _, _, row, _, _, _, _, _, -, attaches⟩
  · unfold Database.duties
    generalize db.requirementsOf productId = rows at hfaded
    generalize next.requirementsOf productId = changed at hfaded
    induction hfaded with
    | nil => rfl
    | cons hhead _ ih =>
      rw [List.map_cons, List.map_cons, ih]
      rcases hhead with rfl | rfl <;> rfl
  · have hrequirements : next.requirementsOf productId =
        ((db.view productId).satisfied row.requirementCode row.id).requirements :=
      (congrArg ProductView.requirements attaches.own).trans ProductView.recorded_requirements
    rw [Database.duties, hrequirements, ProductView.satisfied, List.map_map]
    refine List.map_congr_left fun given _ => ?_
    dsimp only [Function.comp]
    split <;> rfl

/-- An assignment makes the institution the only one that holds the role. -/
theorem Assigns.holders {tenantId actorRef institutionId : String} {product : Product}
    {configuration : ProductConfiguration} {template : ProductTemplate}
    (h : Assigns db next tenantId actorRef productId role institutionId clock product configuration template)
    (other : String) :
    next.holders productId other = if other = role then [institutionId] else db.holders productId other := by
  obtain ⟨status, -, hview⟩ := h.own
  have hroles : next.rolesOf productId = ((db.view productId).reassigned productId role institutionId clock).roles :=
    (congrArg ProductView.roles hview).trans ProductView.recorded_roles
  rw [Database.holders, hroles, ProductView.reassigned, List.filter_append, List.filter_filter]
  by_cases hother : other = role
  · subst hother
    rw [if_pos rfl]
    have hnone :
        (db.view productId).roles.filter (fun row => decide (row.role = other) && decide (row.role ≠ other)) = [] :=
      List.filter_eq_nil_iff.mpr fun row _ => by simp
    rw [hnone]
    simp
  · rw [if_neg hother]
    have hkept : (db.view productId).roles.filter (fun row => decide (row.role = other) && decide (row.role ≠ role)) =
        (db.view productId).roles.filter (·.role = other) := by
      refine List.filter_congr fun row _ => ?_
      by_cases hrole : row.role = other
      · simp [hrole, hother]
      · simp [hrole]
    rw [hkept]
    simp [Ne.symm hother, Database.holders]

/-- Only the assignment of a role changes who holds it. -/
theorem CallEnds.holders (h : CallEnds db now clock call next) (hconsistent : db.Consistent)
    (hfound : productId ∈ db.products.map (·.id)) :
    next.holders productId role = db.holders productId role ∨
    ∃ tenantId actorRef institutionId,
      call = .assignRole tenantId actorRef (some productId) role (some institutionId) ∧
      next.holders productId role = [institutionId] := by
  obtain ⟨product, hproduct⟩ := findProduct_of_mem hfound
  rcases h.roles hconsistent hproduct with hroles | ⟨tenantId, actorRef, given, institutionId, _, _, _, hcall, assigns⟩
  · exact Or.inl (by rw [Database.holders, hroles, Database.holders])
  · by_cases hrole : role = given
    · subst hrole
      exact Or.inr ⟨tenantId, actorRef, institutionId, hcall, by rw [assigns.holders, if_pos rfl]⟩
    · exact Or.inl (by rw [assigns.holders, if_neg hrole])

/-- At most one institution holds a role. -/
theorem CallEnds.holders_single (h : CallEnds db now clock call next) (hconsistent : db.Consistent)
    (hsingle : ∀ productId role, (db.holders productId role).length ≤ 1) (productId role : String) :
    (next.holders productId role).length ≤ 1 := by
  by_cases hfound : productId ∈ db.products.map (·.id)
  · rcases h.holders hconsistent hfound with hsame | ⟨_, _, _, -, hholders⟩
    · rw [hsame]
      exact hsingle productId role
    · rw [hholders]
      exact le_rfl
  · have hkept : next.rolesOf productId = db.rolesOf productId → (next.holders productId role).length ≤ 1 := by
      intro hroles
      rw [Database.holders, hroles]
      exact hsingle productId role
    obtain hsame | htouches := h.touches hconsistent productId
    · exact hkept (congrArg ProductView.roles hsame)
    cases htouches with
    | revoked _ hview => exact hkept (congrArg ProductView.roles hview)
    | @created _ _ _ product hown _ creates =>
      have hroles : next.rolesOf product.id = [⟨product.id, "issuer", product.issuerId, clock, none⟩] :=
        (congrArg ProductView.roles (creates.own (creates.absent hconsistent))).trans ProductView.recorded_roles
      rw [hown, Database.holders, hroles, List.length_map]
      exact List.length_filter_le _ _
    | assigned assigns => exact absurd (mem_of_findProduct assigns.joined.foundProduct) hfound
    | attached attaches => exact absurd (mem_of_findProduct attaches.joined.foundProduct) hfound
    | proposed proposes => exact absurd (mem_of_findProduct proposes.joined.foundProduct) hfound
    | decided decides => exact absurd (mem_of_findProduct decides.joined.foundProduct) hfound
    | statusSet sets => exact absurd (mem_of_findProduct sets.foundProduct) hfound

end Calls

theorem run_holders_single (actions : List Action) (productId role : String) :
    ((run service actions).holders productId role).length ≤ 1 := by
  have h : (run service actions).Consistent ∧
      ∀ productId role, ((run service actions).holders productId role).length ≤ 1 := by
    refine @runs.run_invariant _ _ (step service) Database.migrated
      (fun db => db.Consistent ∧ ∀ productId role, (db.holders productId role).length ≤ 1)
      ⟨migrated_consistent, fun _ _ => Nat.zero_le 1⟩ ?_ actions
    rintro db action ⟨hconsistent, hsingle⟩
    refine ⟨step_consistent action hconsistent, ?_⟩
    obtain ⟨-, hsame⟩ | ⟨-, hends⟩ := @step_cases service db action
    · rwa [hsame]
    · exact hends.holders_single hconsistent hsingle
  exact h.2 productId role

theorem run_found (before after : List Action) (hfound : productId ∈ (run service before).products.map (·.id)) :
    productId ∈ (run service (before ++ after)).products.map (·.id) := by
  induction after using List.reverseRecOn with
  | nil => rwa [List.append_nil]
  | append_singleton after action ih =>
    rw [← List.append_assoc, run_concat_eq]
    obtain ⟨-, hsame⟩ | ⟨-, hends⟩ := @step_cases service (run service (before ++ after)) action
    · rwa [hsame]
    · exact hends.found ih

theorem run_duties (before after : List Action) (hfound : productId ∈ (run service before).products.map (·.id)) :
    (run service (before ++ after)).duties productId = (run service before).duties productId := by
  induction after using List.reverseRecOn with
  | nil => rw [List.append_nil]
  | append_singleton after action ih =>
    rw [← List.append_assoc, run_concat_eq]
    obtain ⟨-, hsame⟩ | ⟨-, hends⟩ := @step_cases service (run service (before ++ after)) action
    · rw [hsame, ih]
    · rw [hends.duties (run_consistent _) (run_found before after hfound), ih]

/-- A role is held by the institution of its last assignment. -/
theorem holders_since {earlier later : List Action} {source : String} {last : Option String}
    (hfound : productId ∈ (run service earlier).products.map (·.id))
    (hsource : (run service earlier).holders productId role = [source])
    (hlast : LastAfter (step service) Database.migrated (AssignsTo service productId role) earlier later last) :
    (run service (earlier ++ later)).holders productId role = [last.getD source] := by
  induction hlast with
  | nil => rw [List.append_nil, hsource, Option.getD_none]
  | @kept later action last _ hnone ih =>
    rw [← List.append_assoc, run_concat_eq]
    obtain ⟨-, hsame⟩ | ⟨haccepted, hends⟩ := @step_cases service (run service (earlier ++ later)) action
    · rw [hsame, ih]
    · rcases @CallEnds.holders _ _ productId role _ _ _ hends (run_consistent _) (run_found earlier later hfound) with
        hsame | ⟨tenantId, actorRef, institutionId, hcall, -⟩
      · rw [hsame, ih]
      · exact absurd ⟨haccepted, tenantId, actorRef, hcall⟩ (hnone institutionId)
  | @occurred later action institutionId hoccurs =>
    rw [← List.append_assoc, run_concat_eq]
    obtain ⟨haccepted, tenantId, actorRef, hcall⟩ := hoccurs
    obtain ⟨hrefused, -⟩ | ⟨-, hends⟩ := @step_cases service (run service (earlier ++ later)) action
    · exact absurd haccepted hrefused
    · rw [hcall] at hends
      cases hends with
      | onboarded honboards => exact False.elim honboards
      | assigned assigns => rw [assigns.holders, if_pos rfl, Option.getD_some]

/-- Evidence is recorded by a call that attaches it. -/
theorem RecordsEvidence.attaches {evidence : ActivationEvidence} {action : Action}
    (h : RecordsEvidence service evidence db action) :
    ∃ tenantId actorRef product configuration template requirement key,
      Attaches db (step service db action) tenantId actorRef evidence.productId action.now evidence
      product configuration
        template requirement key := by
  obtain ⟨hnew, hrecorded⟩ := h
  obtain ⟨-, hsame⟩ | ⟨-, hends⟩ := @step_cases service db action
  · exact absurd (hsame ▸ hrecorded) hnew
  · obtain ⟨now, clock, call⟩ := action
    generalize step service db ⟨now, clock, call⟩ = next at hends hrecorded ⊢
    cases hends with
    | @attached tenantId actorRef productId _ row product configuration template requirement key _ attaches =>
      rw [attaches.evidence] at hrecorded
      rcases List.mem_append.mp hrecorded with hold | hlast
      · exact absurd hold hnew
      · obtain rfl := List.mem_singleton.mp hlast
        rw [attaches.ofProduct]
        exact ⟨tenantId, actorRef, product, configuration, template, requirement, key, attaches⟩
    | onboarded _ same _ => exact absurd (same.evidence ▸ hrecorded) hnew
    | revoked revoked => exact absurd (revoked.evidence ▸ hrecorded) hnew
    | created creates => exact absurd (creates.evidence ▸ hrecorded) hnew
    | assigned assigns => exact absurd (assigns.evidence ▸ hrecorded) hnew
    | proposed proposes => exact absurd (proposes.evidence ▸ hrecorded) hnew
    | decided _ decides => exact absurd (decides.evidence ▸ hrecorded) hnew
    | statusSet sets => exact absurd (sets.evidence ▸ hrecorded) hnew

/-- All evidence of a run was recorded by one of its calls. -/
theorem evidence_recorded {before : List Action} {evidence : ActivationEvidence}
    (h : evidence ∈ (run service before).evidence) :
    ∃ earlier action later, before = earlier ++ action :: later ∧
      RecordsEvidence service evidence (run service earlier) action := by
  induction before using List.reverseRecOn with
  | nil => cases h
  | append_singleton before action ih =>
    by_cases hold : evidence ∈ (run service before).evidence
    · obtain ⟨earlier, recording, later, rfl, hrecords⟩ := ih hold
      exact ⟨earlier, recording, later ++ [action], by simp, hrecords⟩
    · rw [run_concat_eq] at h
      exact ⟨before, action, [], rfl, hold, h⟩

/-- Evidence comes from the institution that holds the responsible role when it is
recorded. -/
theorem RecordsEvidence.holders {evidence : ActivationEvidence} {action : Action}
    (h : RecordsEvidence service evidence db action) (hconsistent : db.Consistent)
    (hsingle : ∀ role, (db.holders evidence.productId role).length ≤ 1)
    (hduty : (evidence.requirementCode, role) ∈ (step service db action).duties evidence.productId) :
    evidence.productId ∈ (step service db action).products.map (·.id) ∧
      (step service db action).holders evidence.productId role = [evidence.sourceInstitutionId] := by
  obtain ⟨tenantId, actorRef, product, configuration, template, requirement, key, hattaches⟩ := h.attaches
  have hfound := mem_of_findProduct hattaches.joined.foundProduct
  refine ⟨by rwa [hattaches.base.productIds], ?_⟩
  have hroles : (step service db action).rolesOf evidence.productId = db.rolesOf evidence.productId :=
    (congrArg ProductView.roles hattaches.own).trans ProductView.recorded_roles
  have hduties : (step service db action).duties evidence.productId = db.duties evidence.productId := by
    have hrequirements : (step service db action).requirementsOf evidence.productId =
        ((db.view evidence.productId).satisfied evidence.requirementCode evidence.id).requirements :=
      (congrArg ProductView.requirements hattaches.own).trans ProductView.recorded_requirements
    rw [Database.duties, hrequirements, ProductView.satisfied, List.map_map]
    refine List.map_congr_left fun given _ => ?_
    dsimp only [Function.comp]
    split <;> rfl
  have hselected := List.find?_some hattaches.foundRequirement
  simp only [Bool.and_eq_true, decide_eq_true_eq] at hselected
  have hrequirement : requirement ∈ db.requirementsOf evidence.productId :=
    List.mem_filter.mpr ⟨List.mem_of_find?_eq_some hattaches.foundRequirement, decide_eq_true hselected.1⟩
  have hrole : role = requirement.responsibleRole := by
    rw [hduties] at hduty
    obtain ⟨row, hrow, heq⟩ := List.mem_map.mp hduty
    simp only [Prod.mk.injEq] at heq
    have hsame := List.inj_on_of_nodup_map (hconsistent.configured hattaches.joined).codes hrow hrequirement
      (heq.1.trans hselected.2.symm)
    rw [← heq.2, hsame]
  obtain ⟨assignment, hassignment, hresponsible, hsource⟩ := hattaches.source
  have hmem : evidence.sourceInstitutionId ∈ db.holders evidence.productId role :=
    List.mem_map.mpr ⟨assignment, List.mem_filter.mpr ⟨hassignment, decide_eq_true (hresponsible.trans hrole.symm)⟩,
      hsource⟩
  rw [Database.holders, hroles]
  change db.holders evidence.productId role = _
  have hlength := hsingle role
  cases hlist : db.holders evidence.productId role with
  | nil =>
    rw [hlist] at hmem
    cases hmem
  | cons only rest =>
    rw [hlist] at hmem hlength
    have hrest : rest = [] := by
      rw [← List.length_eq_zero_iff]
      rw [List.length_cons] at hlength
      omega
    subst hrest
    rw [List.mem_singleton.mp hmem]

/-- The evidence of a requirement that is approved. -/
theorem Approves.evidence {decision : Action} {proposal : ActivationApproval}
    (h : Approves service db decision productId proposal) (hconsistent : db.Consistent)
    (hsingle : (db.view productId).pending.length ≤ 1) {row : EvidenceRequirement}
    (hrow : row ∈ db.requirementsOf productId) :
    ∃ evidence key, Satisfied db row evidence key ∧ decision.clock < evidence.expiresAt := by
  obtain ⟨hsatisfied, found, hfound, hunexpired, -⟩ := (h.awaits hconsistent hsingle).2 row hrow
  obtain ⟨tenantId, product, configuration, template, hjoined, -⟩ := h.ready
  rcases (hconsistent.configured hjoined).evidenced row hrow with ⟨evidence, key, hevidence⟩ | ⟨hmissing, -⟩
  · obtain ⟨id, hid, hfind⟩ := Option.bind_eq_some_iff.mp hfound
    have hfoundId : found.id = id := by simpa using List.find?_some hfind
    have hevidenceId : evidence.id = id := Option.some.inj (hevidence.evidenceId.symm.trans hid)
    have hsame := List.inj_on_of_nodup_map hconsistent.evidenceIds (List.mem_of_find?_eq_some hfind) hevidence.stored
      (hfoundId.trans hevidenceId.symm)
    exact ⟨evidence, key, hevidence, hsame ▸ hunexpired⟩
  · rw [hmissing] at hsatisfied
    cases hsatisfied

/-- The responsible role of a requirement is held by the last institution that
the role was assigned to since the evidence came, or by the source of it. -/
theorem holders_at {earlier later : List Action} {action : Action} {row : EvidenceRequirement}
    {evidence : ActivationEvidence} {key : SigningKey} {last : Option String}
    (hrow : row ∈ (run service (earlier ++ action :: later)).requirementsOf productId)
    (hevidence : Satisfied (run service (earlier ++ action :: later)) row evidence key)
    (hrecords : RecordsEvidence service evidence (run service earlier) action)
    (hlast : LastAfter (step service) Database.migrated (AssignsTo service productId row.responsibleRole)
      (earlier ++ [action]) later last) :
    (run service (earlier ++ action :: later)).holders productId row.responsibleRole =
      [last.getD evidence.sourceInstitutionId] := by
  have hproduct : row.productId = productId := of_decide_eq_true (List.mem_filter.mp hrow).2
  have howner : evidence.productId = productId := hevidence.ofProduct.trans hproduct
  obtain ⟨tenantId, actorRef, product, configuration, template, requirement, signingKey, hattaches⟩ := hrecords.attaches
  have hfound : productId ∈ (run service (earlier ++ [action])).products.map (·.id) := by
    rw [run_concat_eq, hattaches.base.productIds, ← howner]
    exact mem_of_findProduct hattaches.joined.foundProduct
  have heq : earlier ++ action :: later = (earlier ++ [action]) ++ later := by simp
  rw [heq] at hrow ⊢
  have hduty : (evidence.requirementCode, row.responsibleRole) ∈ (step service (run service earlier) action).duties
      evidence.productId := by
    have hmem : (row.requirementCode, row.responsibleRole) ∈ (run service ((earlier ++ [action]) ++ later)).duties
        productId := List.mem_map_of_mem hrow
    rw [run_duties _ _ hfound, run_concat_eq, ← howner] at hmem
    rwa [hevidence.code]
  obtain ⟨-, hsource⟩ := hrecords.holders (run_consistent earlier) (run_holders_single earlier _) hduty
  rw [← run_concat_eq, howner] at hsource
  exact holders_since hfound hsource hlast

/-- In every run, products become active with evidence of the institutions that
are responsible for it, exactly if no role is left with another institution by its
last assignment since its evidence came. -/
theorem evidence_source_iff (actions : List Action) :
    SourcesAssigned service actions ↔ ¬ReassignedSince service actions := by
  constructor
  · rintro hsources ⟨before, decision, after, productId, proposal, rfl, happroves, row, hrow, hmandatory,
      evidence, earlier, action, later, institutionId, hid, rfl, hrecords, hlast, hother⟩
    obtain ⟨-, source, hstored, hsourceId, -, -, hholders⟩ :=
      hsources _ decision after productId proposal rfl happroves row hrow hmandatory
    have hconsistent := @run_consistent service (earlier ++ action :: later)
    obtain ⟨satisfying, key, hsatisfied, -⟩ := happroves.evidence hconsistent (run_single _ productId) hrow
    have hrecorded : evidence ∈ (run service (earlier ++ action :: later)).evidence := by
      have heq : earlier ++ action :: later = (earlier ++ [action]) ++ later := by simp
      rw [heq]
      refine run_evidence _ later ?_
      rw [run_concat_eq]
      exact hrecords.2
    have hsame : ∀ stored ∈ (run service (earlier ++ action :: later)).evidence, row.evidenceId = some stored.id →
        stored = evidence := fun stored hmem hstoredId =>
      List.inj_on_of_nodup_map hconsistent.evidenceIds hmem hrecorded (Option.some.inj (hstoredId.symm.trans hid))
    obtain rfl := hsame source hstored hsourceId
    obtain rfl := hsame satisfying hsatisfied.stored hsatisfied.evidenceId
    rw [holders_at hrow hsatisfied hrecords hlast, Option.getD_some] at hholders
    exact hother (List.head_eq_of_cons_eq hholders)
  · rintro hnone before decision after productId proposal rfl happroves row hrow hmandatory
    obtain ⟨evidence, key, hsatisfied, hunexpired⟩ :=
      happroves.evidence (run_consistent before) (run_single _ productId) hrow
    refine ⟨hsatisfied.satisfied, evidence, hsatisfied.stored, hsatisfied.evidenceId, hsatisfied.verified,
      hunexpired, ?_⟩
    obtain ⟨earlier, action, later, rfl, hrecords⟩ := evidence_recorded hsatisfied.stored
    obtain ⟨last, hlast⟩ := @lastAfter_total _ _ (step service) Database.migrated _
      (AssignsTo service productId row.responsibleRole) (earlier ++ [action]) later
    rw [holders_at hrow hsatisfied hrecords hlast]
    cases hvalue : last with
    | none => rfl
    | some institutionId =>
      rw [hvalue] at hlast
      by_contra hother
      refine hnone ⟨_, decision, after, productId, proposal, rfl, happroves, row, hrow, hmandatory, evidence,
        earlier, action, later, institutionId, hsatisfied.evidenceId, rfl, hrecords, hlast, fun hsame => hother ?_⟩
      rw [Option.getD_some, hsame]

section Sample

/-- The custodian is replaced after its evidence came, and the activation is then
proposed. -/
def sampleReplacedCustodian : List Action :=
  sampleInstitution "bank-two" ++ sampleConfiguration ++ sampleSubmission ++
  [sampleAssignment 350 "custodian" "bank-two", sampleProposal]

/-- The product becomes active with the mandate of a custodian that it no longer
has. -/
theorem replaced_custodian_is_activated :
    ¬SourcesAssigned sampleService (sampleReplacedCustodian ++ [sampleDecision]) := by
  intro h
  have hfacts :
      (perform sampleService sampleDecision (run sampleService sampleReplacedCustodian)).toOption.isSome = true ∧
      (run sampleService sampleReplacedCustodian).pendingActivation "credit-one" =
        some ⟨"credit-one", 1, .maker, "maker", .activate, "complete"⟩ ∧
      (∃ row ∈ (run sampleService sampleReplacedCustodian).requirementsOf "credit-one",
        row.mandatory = true ∧ row.responsibleRole = "custodian") ∧
      (run sampleService sampleReplacedCustodian).holders "credit-one" "custodian" = ["bank-two"] ∧
      ∀ evidence ∈ (run sampleService sampleReplacedCustodian).evidence, evidence.sourceInstitutionId = "bank-one" := by
    decide +kernel
  obtain ⟨haccepted, hpending, ⟨row, hrow, hmandatory, hcustodian⟩, hholders, hsources⟩ := hfacts
  have happroves : Approves sampleService (run sampleService sampleReplacedCustodian) sampleDecision "credit-one"
      ⟨"credit-one", 1, .maker, "maker", .activate, "complete"⟩ :=
    ⟨accepted_iff.mpr haccepted, ⟨"sandbox-hk", "checker", sampleReview, "complete", rfl, rfl⟩, hpending⟩
  obtain ⟨-, evidence, hstored, -, -, -, hholds⟩ :=
    h sampleReplacedCustodian sampleDecision [] "credit-one" _ rfl happroves row hrow hmandatory
  rw [hcustodian, hholders, hsources evidence hstored] at hholds
  exact absurd hholds (by decide)

end Sample

end rwa.catalog
