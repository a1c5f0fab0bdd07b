import RwaControlPlane.Catalog.Views

open checked keyed_rows js_value
open rwa.gate (ProductStatus uniqueViolation)

namespace rwa.catalog

variable {service : ProductCatalogService} {db next : Database}

theorem requireString_eq_ok_iff {value : Option String} {field text : String} {min max : Nat}
    {pattern : String → Bool} :
    requireString value field min max pattern = .ok text ↔
      value = some text ∧ min ≤ js_text.length text ∧ js_text.length text ≤ max ∧ pattern text = true := by
  cases value with
  | none => simp [requireString]
  | some given =>
    simp only [requireString, Option.some.injEq]
    split
    · rename_i hinvalid
      simp only [reduceCtorEq, false_iff]
      rintro ⟨rfl, hmin, hmax, hpattern⟩
      rcases hinvalid with h | h | h
      · omega
      · omega
      · simp [hpattern] at h
    · rename_i hvalid
      simp only [not_or, not_lt, Bool.not_eq_false] at hvalid
      constructor
      · rintro ⟨⟩
        exact ⟨rfl, hvalid⟩
      · rintro ⟨rfl, -⟩
        rfl

/-- A text that may be the id of a product. -/
def IsProductId (text : String) : Prop :=
  3 ≤ js_text.length text ∧ js_text.length text ≤ 100 ∧ productIdPattern text = true

/-- The tables about products are the same. -/
structure SameProducts (db next : Database) : Prop where
  templates : next.templates = db.templates
  templateRequirements : next.templateRequirements = db.templateRequirements
  products : next.products = db.products
  configurations : next.configurations = db.configurations
  roleAssignments : next.roleAssignments = db.roleAssignments
  requirements : next.requirements = db.requirements
  evidence : next.evidence = db.evidence
  activationApprovals : next.activationApprovals = db.activationApprovals
  snapshots : next.snapshots = db.snapshots

theorem SameProducts.view (h : SameProducts db next) (productId : String) :
    next.view productId = db.view productId := by
  simp only [Database.view, Database.findProduct, Database.findConfiguration, Database.rolesOf, Database.requirementsOf,
    Database.approvalsOf, h.products, h.configurations, h.roleAssignments, h.requirements, h.activationApprovals,
    h.snapshots]

/-- The key that a registration adds. -/
structure KeyAdded (db next : Database) (key : SigningKey) : Prop where
  fresh : (key.institutionId, key.keyId) ∉ db.signingKeys.map fun row => (row.institutionId, row.keyId)
  added : next.signingKeys = db.signingKeys ++ [key]

theorem provisionTenant_ok {input : TenantInput} {tenant : Tenant} (h : provisionTenant input db = .ok (tenant, next)) :
    SameProducts db next ∧ next.signingKeys = db.signingKeys := by
  simp only [provisionTenant, bind_eq_ok_iff, throwIf_eq_ok_iff, exists_unit, pure_eq_ok_iff, Prod.mk.injEq] at h
  obtain ⟨_, -, -, -, rfl, rfl⟩ := h
  exact ⟨⟨rfl, rfl, rfl, rfl, rfl, rfl, rfl, rfl, rfl⟩, rfl⟩

theorem registerInstitution_ok {tenantId : String} {input : InstitutionInput} {clock : Int} {institution : Institution}
    (h : registerInstitution service tenantId input clock db = .ok (institution, next)) :
    SameProducts db next ∧ (next.signingKeys = db.signingKeys ∨ ∃ key, KeyAdded db next key) := by
  simp only [registerInstitution, bind_eq_ok_iff, throwIf_eq_ok_iff, exists_unit, pure_eq_ok_iff, Prod.mk.injEq] at h
  obtain ⟨⟨row, reference⟩, -, -, -, -, rfl, rfl⟩ := h
  refine ⟨⟨rfl, rfl, rfl, rfl, rfl, rfl, rfl, rfl, rfl⟩, ?_⟩
  by_cases hkey : (row.id, "primary-v1") ∈ db.signingKeys.map fun row => (row.institutionId, row.keyId)
  · exact Or.inl (if_pos hkey)
  · exact Or.inr ⟨primaryKey row clock, hkey, if_neg hkey⟩

theorem registerInstitutionSigningKey_ok {tenantId : String} {institutionId : Option String} {input : SigningKeyInput}
    {added : NewSigningKey}
    (h : registerInstitutionSigningKey service tenantId institutionId input db = .ok (added, next)) :
    SameProducts db next ∧ ∃ key, KeyAdded db next key := by
  simp only [registerInstitutionSigningKey, bind_eq_ok_iff, throwIf_eq_ok_iff, exists_unit, pure_eq_ok_iff,
    Prod.mk.injEq] at h
  obtain ⟨_, -, _, -, -, hfresh, rfl, rfl⟩ := h
  exact ⟨⟨rfl, rfl, rfl, rfl, rfl, rfl, rfl, rfl, rfl⟩, _, hfresh, rfl⟩

theorem proposeInstitutionReview_ok {tenantId actorRef : String} {institutionId : Option String} {input : ReviewInput}
    {round : Nat} (h : proposeInstitutionReview tenantId actorRef institutionId input db = .ok (round, next)) :
    SameProducts db next ∧ next.signingKeys = db.signingKeys := by
  simp only [proposeInstitutionReview, bind_eq_ok_iff, throwIf_eq_ok_iff, exists_unit, pure_eq_ok_iff,
    Prod.mk.injEq] at h
  obtain ⟨_, -, _, -, -, -, -, -, rfl, rfl⟩ := h
  exact ⟨⟨rfl, rfl, rfl, rfl, rfl, rfl, rfl, rfl, rfl⟩, rfl⟩

theorem decideInstitutionReview_ok {tenantId actorRef : String} {institutionId : Option String} {input : ReviewInput}
    {state : OnboardingStatus}
    (h : decideInstitutionReview tenantId actorRef institutionId input db = .ok (state, next)) :
    SameProducts db next ∧ next.signingKeys = db.signingKeys := by
  simp only [decideInstitutionReview, bind_eq_ok_iff, throwIf_eq_ok_iff, require_eq_ok_iff, exists_unit] at h
  obtain ⟨_, -, review, -, -, _, -, -, -, h⟩ := h
  cases hdecision : review.decision with
  | approve =>
    simp only [hdecision, pure_eq_ok_iff, Prod.mk.injEq] at h
    obtain ⟨rfl, rfl⟩ := h
    exact ⟨⟨rfl, rfl, rfl, rfl, rfl, rfl, rfl, rfl, rfl⟩, rfl⟩
  | reject =>
    simp only [hdecision, pure_eq_ok_iff, Prod.mk.injEq] at h
    obtain ⟨rfl, rfl⟩ := h
    exact ⟨⟨rfl, rfl, rfl, rfl, rfl, rfl, rfl, rfl, rfl⟩, rfl⟩

/-- A key that is revoked was active. -/
structure KeyRevoked (db next : Database) (institutionId keyId : String) (now : Int) : Prop where
  active : ∃ key, db.findSigningKey institutionId keyId = some key ∧ key.status = .active
  next : next = invalidateEvidenceForSigningKey institutionId keyId
    { db with
      signingKeys := db.signingKeys.map fun row =>
        if row.institutionId = institutionId ∧ row.keyId = keyId then row.revoke now else row }

theorem revokeInstitutionSigningKey_ok {tenantId : String} {institutionId keyId reason : Option String} {now : Int}
    {revoked : String × String} (h : revokeInstitutionSigningKey tenantId institutionId keyId reason now db =
      .ok (revoked, next)) :
    institutionId = some revoked.1 ∧ keyId = some revoked.2 ∧ KeyRevoked db next revoked.1 revoked.2 now := by
  simp only [revokeInstitutionSigningKey, bind_eq_ok_iff, throwIf_eq_ok_iff, require_eq_ok_iff, exists_unit,
    pure_eq_ok_iff, requireString_eq_ok_iff, Prod.mk.injEq, Decidable.not_not] at h
  obtain ⟨institution, ⟨rfl, -⟩, id, ⟨rfl, -⟩, _, -, -, key, hkey, hactive, -, rfl, rfl⟩ := h
  exact ⟨rfl, rfl, ⟨key, hkey, by simpa using hactive⟩, rfl⟩

/-- The rows of a product of a tenant. -/
structure Joined (db : Database) (tenantId productId : String) (product : Product)
    (configuration : ProductConfiguration) (template : ProductTemplate) : Prop where
  foundProduct : db.findProduct productId = some product
  foundConfiguration : db.findConfiguration productId = some configuration
  foundTemplate : db.findTemplate configuration.templateId = some template
  tenant : configuration.tenantId = tenantId

theorem joinProduct_eq_some_iff {tenantId productId : String} {locked : LockedProduct} :
    db.joinProduct tenantId productId = some locked ↔ ∃ product configuration template,
      Joined db tenantId productId product configuration template ∧
      locked = ⟨product.id, product.status, configuration.templateId, configuration.configurationStatus,
        configuration.configurationVersion, template.requiredRoles⟩ := by
  simp only [Database.joinProduct, Option.bind_eq_bind, Option.bind_eq_some_iff]
  constructor
  · rintro ⟨configuration, hconfiguration, product, hproduct, template, htemplate, h⟩
    split at h
    · rename_i htenant
      obtain rfl := Option.some.inj h
      exact ⟨product, configuration, template, ⟨hproduct, hconfiguration, htemplate, htenant⟩, rfl⟩
    · cases h
  · rintro ⟨product, configuration, template, hjoined, rfl⟩
    exact ⟨configuration, hjoined.foundConfiguration, product, hjoined.foundProduct, template, hjoined.foundTemplate,
      if_pos hjoined.tenant⟩

/-- The view of a product that is created. -/
def ProductView.created (product : Product) (tenantId templateId actorRef : String) (clock : Int)
    (requirements : List TemplateRequirement) : ProductView where
  product := some product
  configuration := some ⟨product.id, tenantId, templateId, .rolesPending, 1, actorRef⟩
  roles := [⟨product.id, "issuer", product.issuerId, clock, none⟩]
  requirements := requirements.map fun row =>
    ⟨product.id, row.requirementCode, row.responsibleRole, row.description, row.mandatory, .missing, none⟩
  approvals := []
  snapshots := []

/-- No row is about the product. -/
def ProductView.absent : ProductView where
  product := none
  configuration := none
  roles := []
  requirements := []
  approvals := []
  snapshots := []

/-- The draft that a creation inserts. -/
structure Creates (db next : Database) (tenantId actorRef : String) (input : ProductInput) (clock : Int)
    (product : Product) : Prop where
  id : IsProductId product.id
  draft : product.status = .draft
  template : ∃ template, db.findTemplate input.templateId = some template
  unused : product.id ∉ db.products.map (·.id)
  unconfigured : product.id ∉ db.configurations.map (·.productId)
  products : next.products = db.products ++ [product]
  configurations : next.configurations = db.configurations ++
    [⟨product.id, tenantId, input.templateId, .rolesPending, 1, actorRef⟩]
  templates : next.templates = db.templates
  templateRequirements : next.templateRequirements = db.templateRequirements
  evidence : next.evidence = db.evidence
  signingKeys : next.signingKeys = db.signingKeys
  own : db.view product.id = ProductView.absent → next.view product.id =
    (ProductView.created product tenantId input.templateId actorRef clock
      (db.templateRequirements.filter (·.templateId = input.templateId))).recorded tenantId product.id actorRef
      "product.draft_created"
  others : ∀ other, other ≠ product.id → next.view other = db.view other

theorem validateProductInput_ok {input : ProductInput} {template : Option ProductTemplate} {product : Product}
    (h : validateProductInput input template = .ok product) :
    IsProductId product.id ∧ product.status = .draft ∧ ∃ row, template = some row := by
  unfold validateProductInput at h
  cases template with
  | none => cases h
  | some row =>
    simp only [bind_eq_ok_iff, throwIf_eq_ok_iff, require_eq_ok_iff, exists_unit, pure_eq_ok_iff,
      requireString_eq_ok_iff] at h
    obtain ⟨-, _, -, _, -, _, -, id, ⟨-, hmin, hmax, hpattern⟩, _, -, _, -, _, -, rfl⟩ := h
    exact ⟨⟨hmin, hmax, hpattern⟩, rfl, row, rfl⟩

theorem createProduct_ok {tenantId actorRef : String} {input : ProductInput} {clock : Int} {product : Product}
    (h : createProduct service tenantId actorRef input clock db = .ok (product, next)) :
    ∃ row, Creates db next tenantId actorRef input clock row ∧ row.id = product.id := by
  simp only [createProduct, bind_eq_ok_iff, throwIf_eq_ok_iff, exists_unit, pure_eq_ok_iff, Prod.mk.injEq] at h
  obtain ⟨-, given, hgiven, -, rules, -, hunused, hunconfigured, drafted, hdrafted, rfl, rfl⟩ := h
  obtain ⟨hid, hdraft, template, htemplate⟩ := validateProductInput_ok hgiven
  obtain ⟨⟨snapshots, rfl⟩, -, hview⟩ := view_snapshot hdrafted
  refine ⟨{ given with rules }, ⟨hid, hdraft, ⟨template, htemplate⟩, hunused, hunconfigured, rfl, rfl,
    rfl, rfl, rfl, rfl, fun habsent => ?_, fun other hother => ?_⟩, rfl⟩
  · rw [hview, if_pos rfl]
    congr 1
    simp only [Database.view, ProductView.absent, ProductView.mk.injEq] at habsent
    obtain ⟨hproduct, hconfiguration, hroles, hrequirements, happrovals, hsnapshots⟩ := habsent
    simp only [Database.view, ProductView.created, ProductView.mk.injEq]
    simp only [Database.findProduct, Database.findConfiguration, Database.rolesOf, Database.requirementsOf,
      Database.approvalsOf] at hproduct hconfiguration hroles hrequirements happrovals ⊢
    refine ⟨?_, ?_, ?_, ?_, happrovals, hsnapshots⟩
    · rw [List.find?_append, hproduct]
      simp
    · rw [List.find?_append, hconfiguration]
      simp
    · rw [List.filter_append, hroles]
      simp
    · rw [List.filter_append, hrequirements, List.nil_append, List.filter_eq_self]
      rintro row hrow
      obtain ⟨_, -, rfl⟩ := List.mem_map.mp hrow
      simp
  · rw [hview, if_neg hother]
    simp only [Database.view, ProductView.mk.injEq]
    refine ⟨?_, ?_, ?_, ?_, rfl, trivial⟩
    · exact find_append_of_absent (by simp [Ne.symm hother])
    · exact find_append_of_absent (by simp [Ne.symm hother])
    · exact filter_append_of_absent (by simp [Ne.symm hother])
    · refine filter_append_of_absent fun row hrow => ?_
      obtain ⟨_, -, rfl⟩ := List.mem_map.mp hrow
      simp [Ne.symm hother]

/-- Tables that a call on a product leaves alone. -/
structure SameBase (db next : Database) : Prop where
  templates : next.templates = db.templates
  templateRequirements : next.templateRequirements = db.templateRequirements
  signingKeys : next.signingKeys = db.signingKeys
  productIds : next.products.map (·.id) = db.products.map (·.id)
  configurationIds : next.configurations.map (·.productId) = db.configurations.map (·.productId)

/-- A role that is assigned. -/
structure Assigns (db next : Database) (tenantId actorRef productId role institutionId : String) (clock : Int)
    (product : Product) (configuration : ProductConfiguration) (template : ProductTemplate) : Prop where
  id : IsProductId productId
  joined : Joined db tenantId productId product configuration template
  draft : product.status = .draft
  approved : db.InstitutionApproved tenantId institutionId
  required : role ∈ template.requiredRoles
  base : SameBase db next
  evidence : next.evidence = db.evidence
  own : ∃ status, status = ((db.view productId).reassigned productId role institutionId clock).roleStatus
      template.requiredRoles ∧
    next.view productId =
      (((db.view productId).reassigned productId role institutionId clock).configured status).recorded
      tenantId productId actorRef "product.role_assigned"
  others : ∀ other, other ≠ productId → next.view other = db.view other

theorem map_key_of_same {α : Type} {rows : List α} {key : α → String} {change : α → α}
    (h : ∀ row, key (change row) = key row) : (rows.map change).map key = rows.map key := by
  rw [List.map_map]
  exact List.map_congr_left fun row _ => h row

theorem assignRole_ok {tenantId actorRef : String} {productId institutionId : Option String}
    {role : String} {clock : Int} {status : ConfigurationStatus}
    (h : assignRole tenantId actorRef productId role institutionId clock db = .ok (status, next)) :
    ∃ id institution product configuration template, productId = some id ∧ institutionId = some institution ∧
      Assigns db next tenantId actorRef id role institution clock product configuration template := by
  simp only [assignRole, bind_eq_ok_iff, throwIf_eq_ok_iff, exists_unit, pure_eq_ok_iff, requireString_eq_ok_iff,
    Database.product, Database.approvedInstitution, require_eq_ok_iff, joinProduct_eq_some_iff, Prod.mk.injEq,
    Decidable.not_not] at h
  obtain ⟨id, ⟨rfl, hid⟩, institution, ⟨rfl, -⟩, -, _, ⟨product, configuration, template, hjoined, rfl⟩, hdraft,
    happroved, hrequired, -, -, final, hfinal, -, rfl⟩ := h
  obtain ⟨⟨snapshots, rfl⟩, -, hview⟩ := view_snapshot hfinal
  refine ⟨id, institution, product, configuration, template, rfl, rfl, ⟨hid, hjoined, hdraft, happroved, hrequired,
    ⟨rfl, rfl, rfl, rfl, map_key_of_same fun row => by split <;> rfl⟩, rfl, ⟨_, rfl, ?_⟩, fun other hother => ?_⟩⟩
  · rw [hview, if_pos rfl, Database.refreshConfigurationStatus, view_setConfiguration, if_pos rfl, view_reassign,
      if_pos rfl]
    congr 2
    simp only [ProductView.roleStatus, ProductView.reassigned, view_roles, rolesOf_reassign, if_pos]
    rfl
  · rw [hview, if_neg hother, Database.refreshConfigurationStatus, view_setConfiguration, if_neg hother, view_reassign,
      if_neg hother]

/-- Evidence that is attached. -/
structure Attaches (db next : Database) (tenantId actorRef productId : String) (now : Int) (row : ActivationEvidence)
    (product : Product) (configuration : ProductConfiguration) (template : ProductTemplate)
    (requirement : EvidenceRequirement) (key : SigningKey) : Prop where
  id : IsProductId productId
  joined : Joined db tenantId productId product configuration template
  draft : product.status = .draft
  ofProduct : row.productId = productId
  verified : row.verificationStatus = .verified
  foundRequirement : db.findRequirement productId row.requirementCode = some requirement
  source : ∃ assignment ∈ db.rolesOf productId,
    assignment.role = requirement.responsibleRole ∧ assignment.institutionId = row.sourceInstitutionId
  foundKey : db.findSigningKey row.sourceInstitutionId row.signingKeyId = some key
  activeKey : key.status = .active
  fresh : row.id ∉ db.evidence.map (·.id)
  base : SameBase db next
  evidence : next.evidence = db.evidence ++ [row]
  own : next.view productId = (((db.view productId).satisfied row.requirementCode row.id).bumped).recorded tenantId
    productId actorRef "product.activation_evidence_attached"
  others : ∀ other, other ≠ productId → next.view other = db.view other

theorem attachActivationEvidence_ok {tenantId actorRef : String} {productId : Option String} {input : EvidenceInput}
    {now : Int} {row : ActivationEvidence}
    (h : attachActivationEvidence service tenantId actorRef productId input now db = .ok (row, next)) :
    ∃ id product configuration template requirement key, productId = some id ∧
      Attaches db next tenantId actorRef id now row product configuration template requirement key := by
  simp only [attachActivationEvidence, bind_eq_ok_iff, throwIf_eq_ok_iff, exists_unit, pure_eq_ok_iff,
    requireString_eq_ok_iff, Database.product, Database.approvedInstitution, require_eq_ok_iff, joinProduct_eq_some_iff,
    Prod.mk.injEq, Decidable.not_not, assertSigningKey] at h
  obtain ⟨id, ⟨rfl, hid⟩, evidence, -, -, _, ⟨product, configuration, template, hjoined, rfl⟩, hdraft, requirement,
    hrequirement, -, hsource, key, hkey, ⟨havailable, -⟩, hash, -, hfresh, final, hfinal, rfl, rfl⟩ := h
  obtain ⟨⟨snapshots, rfl⟩, -, hview⟩ := view_snapshot hfinal
  simp only [not_or, Decidable.not_not] at havailable
  refine ⟨id, product, configuration, template, requirement, key, rfl, ⟨hid, hjoined, hdraft, rfl, rfl, hrequirement,
    hsource, hkey, havailable.2.1, hfresh, ⟨rfl, rfl, rfl, rfl, map_key_of_same fun row => by split <;> rfl⟩, rfl, ?_,
    fun other hother => ?_⟩⟩
  · rw [hview, if_pos rfl, view_bumpConfiguration, if_pos rfl, view_satisfy, if_pos rfl]
  · rw [hview, if_neg hother, view_bumpConfiguration, if_neg hother, view_satisfy, if_neg hother]

/-- What the readiness check of an activation has found. -/
structure Ready (db : Database) (tenantId productId : String) (requiredRoles : List String) (clock : Int) : Prop where
  roles : ∀ role ∈ requiredRoles, db.roleApproved tenantId productId role = true
  evidence : ∀ row ∈ db.requirementsOf productId, row.mandatory = true → db.lacksEvidence clock row = false

theorem assertActivationReady_eq_ok_iff {tenantId productId : String} {requiredRoles : List String} {clock : Int}
    {done : Unit} :
    db.assertActivationReady tenantId productId requiredRoles clock = .ok done ↔
      Ready db tenantId productId requiredRoles clock := by
  simp only [Database.assertActivationReady, bind_eq_ok_iff, throwIf_eq_ok_iff, exists_unit, Decidable.not_not,
    not_exists, not_and, Bool.not_eq_true]
  exact ⟨fun h => ⟨h.1, h.2⟩, fun h => ⟨h.roles, h.evidence⟩⟩

/-- An activation that is proposed. -/
structure ProposesActivation (db next : Database) (tenantId actorRef productId reason : String)
    (clock : Int) (round : Nat)
    (product : Product) (configuration : ProductConfiguration) (template : ProductTemplate) : Prop where
  id : IsProductId productId
  joined : Joined db tenantId productId product configuration template
  draft : product.status = .draft
  readyForEvidence : configuration.configurationStatus = .readyForEvidence
  ready : Ready db tenantId productId template.requiredRoles clock
  undecided : db.pendingActivations productId = []
  nextRound : round = db.activationRound productId
  base : SameBase db next
  evidence : next.evidence = db.evidence
  own : next.view productId = (((db.view productId).approved ⟨productId, round, .maker, actorRef, .activate, reason⟩
    ).configured .activationPending).recorded tenantId productId actorRef "product.activation_proposed"
  others : ∀ other, other ≠ productId → next.view other = db.view other

theorem proposeActivation_ok {tenantId actorRef : String} {productId reason : Option String} {clock : Int} {round : Nat}
    (h : proposeActivation tenantId actorRef productId reason clock db = .ok (round, next)) :
    ∃ id text product configuration template, productId = some id ∧ reason = some text ∧
      ProposesActivation db next tenantId actorRef id text clock round product configuration template := by
  simp only [proposeActivation, bind_eq_ok_iff, throwIf_eq_ok_iff, exists_unit, pure_eq_ok_iff, requireString_eq_ok_iff,
    Database.product, require_eq_ok_iff, joinProduct_eq_some_iff, Prod.mk.injEq, Decidable.not_not, not_or,
    assertActivationReady_eq_ok_iff] at h
  obtain ⟨id, ⟨rfl, hid⟩, text, ⟨rfl, -⟩, _, ⟨product, configuration, template, hjoined, rfl⟩,
    ⟨hdraft, hstatus⟩, hready, hpending, inserted, hinserted, final, hfinal, rfl, rfl⟩ := h
  obtain ⟨rfl, -, -, happroved⟩ := view_insertActivationApproval hinserted
  obtain ⟨⟨snapshots, rfl⟩, -, hview⟩ := view_snapshot hfinal
  refine ⟨id, text, product, configuration, template, rfl, rfl, ⟨hid, hjoined, hdraft, hstatus, hready, hpending, rfl,
    ⟨rfl, rfl, rfl, rfl, map_key_of_same fun row => by split <;> rfl⟩, rfl, ?_, fun other hother => ?_⟩⟩
  · rw [hview, if_pos rfl, view_setConfiguration, if_pos rfl, happroved, if_pos rfl]
  · rw [hview, if_neg hother, view_setConfiguration, if_neg hother, happroved, if_neg hother]

/-- The status of a configuration after a decision. -/
def ReviewDecision.resulting : ReviewDecision → ConfigurationStatus
  | approve => .active
  | reject => .readyForEvidence

/-- The view of a product after a decision, before its snapshot. -/
def ProductView.decided (view : ProductView) (decision : ReviewDecision) (row : ActivationApproval) : ProductView :=
  match decision with
  | .approve => ((view.approved row).activated).configured .active
  | .reject => (view.approved row).configured .readyForEvidence

/-- An activation that is decided. -/
structure DecidesActivation (db next : Database) (tenantId actorRef productId reason : String)
    (decision : ReviewDecision)
    (clock : Int) (maker : ActivationApproval) (product : Product) (configuration : ProductConfiguration)
    (template : ProductTemplate) : Prop where
  id : IsProductId productId
  joined : Joined db tenantId productId product configuration template
  draft : product.status = .draft
  pending : configuration.configurationStatus = .activationPending
  proposal : db.pendingActivation productId = some maker
  otherActor : maker.actorRef ≠ actorRef
  ready : decision = .approve → Ready db tenantId productId template.requiredRoles clock
  base : SameBase db next
  evidence : next.evidence = db.evidence
  own : ∃ eventType, next.view productId = ((db.view productId).decided decision
    ⟨productId, maker.approvalRound, .checker, actorRef, decision.activation,
      reason⟩).recorded tenantId productId actorRef
      eventType
  others : ∀ other, other ≠ productId → next.view other = db.view other

theorem decideActivation_ok {tenantId actorRef : String} {productId : Option String} {input : ReviewInput} {clock : Int}
    {state : ConfigurationStatus}
    (h : decideActivation tenantId actorRef productId input clock db = .ok (state, next)) :
    ∃ id review maker product configuration template, productId = some id ∧ reviewInput input = .ok review ∧
      state = review.decision.resulting ∧
      DecidesActivation db next tenantId actorRef id review.reason review.decision clock maker product configuration
        template := by
  simp only [decideActivation, bind_eq_ok_iff, throwIf_eq_ok_iff, exists_unit, requireString_eq_ok_iff,
    Database.product, require_eq_ok_iff, joinProduct_eq_some_iff, Decidable.not_not, not_or] at h
  obtain ⟨id, ⟨rfl, hid⟩, review, hreview, _, ⟨product, configuration, template, hjoined, rfl⟩,
    ⟨hdraft, hstatus⟩, maker, hmaker, hactor, inserted, hinserted, h⟩ := h
  obtain ⟨rfl, -, -, happroved⟩ := view_insertActivationApproval hinserted
  refine ⟨id, review, maker, product, configuration, template, rfl, hreview, ?_⟩
  cases hdecision : review.decision with
  | approve =>
    simp only [hdecision, bind_eq_ok_iff, exists_unit, pure_eq_ok_iff, Prod.mk.injEq, assertActivationReady_eq_ok_iff]
      at h
    obtain ⟨hready, final, hfinal, rfl, rfl⟩ := h
    obtain ⟨⟨snapshots, rfl⟩, -, hview⟩ := view_snapshot hfinal
    rw [hdecision] at happroved
    refine ⟨rfl, hid, hjoined, hdraft, hstatus, hmaker, hactor, fun _ => ⟨hready.roles, hready.evidence⟩,
      ⟨rfl, rfl, rfl, map_key_of_same fun row => by split <;> rfl, map_key_of_same fun row => by split <;> rfl⟩, rfl,
      ⟨"product.activation_approved", ?_⟩, fun other hother => ?_⟩
    · rw [hview, if_pos rfl, view_setConfiguration, if_pos rfl, view_activate, if_pos rfl, happroved, if_pos rfl]
      rfl
    · rw [hview, if_neg hother, view_setConfiguration, if_neg hother, view_activate, if_neg hother, happroved,
        if_neg hother]
  | reject =>
    simp only [hdecision, bind_eq_ok_iff, pure_eq_ok_iff, Prod.mk.injEq] at h
    obtain ⟨final, hfinal, rfl, rfl⟩ := h
    obtain ⟨⟨snapshots, rfl⟩, -, hview⟩ := view_snapshot hfinal
    rw [hdecision] at happroved
    refine ⟨rfl, hid, hjoined, hdraft, hstatus, hmaker, hactor, fun happroves => (by cases happroves),
      ⟨rfl, rfl, rfl, rfl, map_key_of_same fun row => by split <;> rfl⟩, rfl, ⟨"product.activation_rejected", ?_⟩,
        fun other hother => ?_⟩
    · rw [hview, if_pos rfl, view_setConfiguration, if_pos rfl, happroved, if_pos rfl]
      rfl
    · rw [hview, if_neg hother, view_setConfiguration, if_neg hother, happroved, if_neg hother]

/-- A product that is paused or resumed. -/
structure SetsStatus (db next : Database) (productId : String) (status : ProductStatus) (actorRef : String)
    (product : Product) : Prop where
  actor : actorRef ≠ ""
  foundProduct : db.findProduct productId = some product
  turns : (product.status = .active ∧ status = .paused) ∨ (product.status = .paused ∧ status = .active)
  base : SameBase db next
  evidence : next.evidence = db.evidence
  own : next.view productId = (db.view productId).withStatus status
  others : ∀ other, other ≠ productId → next.view other = db.view other

theorem setProductStatus_ok {productId actorRef : String} {status result : ProductStatus}
    (h : setProductStatus productId status actorRef db = .ok (result, next)) :
    ∃ product, SetsStatus db next productId status actorRef product := by
  simp only [setProductStatus, bind_eq_ok_iff, throwIf_eq_ok_iff, exists_unit, pure_eq_ok_iff, require_eq_ok_iff,
    Prod.mk.injEq, Decidable.not_not] at h
  obtain ⟨hstatus, hactor, product, hproduct, hexpected, -, rfl⟩ := h
  refine ⟨product, hactor, hproduct, ?_, ⟨rfl, rfl, rfl, map_key_of_same fun row => by split <;> rfl, rfl⟩, rfl, ?_,
    fun other hother => ?_⟩
  · rcases hstatus with rfl | rfl
    · exact Or.inr ⟨by simpa using hexpected, rfl⟩
    · exact Or.inl ⟨by simpa using hexpected, rfl⟩
  · rw [view_statusSet, if_pos rfl]
  · rw [view_statusSet, if_neg hother]

end rwa.catalog
