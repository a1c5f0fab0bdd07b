import RwaControlPlane.Catalog.Calls

open checked keyed_rows js_value
open rwa.gate (ProductStatus)

namespace rwa.catalog

variable {service : ProductCatalogService} {db next : Database} {productId : String}

namespace ProductView

variable {view : ProductView} {tenantId actorRef eventType : String}

theorem recorded_eq (view : ProductView) (tenantId productId actorRef eventType : String) :
    ∃ snapshots, view.recorded tenantId productId actorRef eventType = { view with snapshots } := by
  unfold recorded
  split
  · exact ⟨view.snapshots, rfl⟩
  · split
    · exact ⟨view.snapshots, rfl⟩
    · exact ⟨_, rfl⟩

@[simp] theorem recorded_product : (view.recorded tenantId productId actorRef eventType).product = view.product := by
  obtain ⟨snapshots, h⟩ := recorded_eq view tenantId productId actorRef eventType
  rw [h]

@[simp] theorem recorded_configuration :
    (view.recorded tenantId productId actorRef eventType).configuration = view.configuration := by
  obtain ⟨snapshots, h⟩ := recorded_eq view tenantId productId actorRef eventType
  rw [h]

@[simp] theorem recorded_roles : (view.recorded tenantId productId actorRef eventType).roles = view.roles := by
  obtain ⟨snapshots, h⟩ := recorded_eq view tenantId productId actorRef eventType
  rw [h]

@[simp] theorem recorded_requirements :
    (view.recorded tenantId productId actorRef eventType).requirements = view.requirements := by
  obtain ⟨snapshots, h⟩ := recorded_eq view tenantId productId actorRef eventType
  rw [h]

@[simp] theorem recorded_approvals :
    (view.recorded tenantId productId actorRef eventType).approvals = view.approvals := by
  obtain ⟨snapshots, h⟩ := recorded_eq view tenantId productId actorRef eventType
  rw [h]

end ProductView

/-- A draft is being configured, and any other product has been activated. -/
def Lawful (status : ProductStatus) (configurationStatus : ConfigurationStatus) : Prop :=
  (status = .draft ∧ (configurationStatus = .rolesPending ∨ configurationStatus = .readyForEvidence ∨
    configurationStatus = .activationPending)) ∨
  ((status = .active ∨ status = .paused) ∧ (configurationStatus = .active ∨ configurationStatus = .suspended))

/-- A requirement is satisfied by verified evidence, with a key that is active. -/
structure Satisfied (db : Database) (row : EvidenceRequirement) (evidence : ActivationEvidence) (key : SigningKey) :
    Prop where
  satisfied : row.status = .satisfied
  evidenceId : row.evidenceId = some evidence.id
  stored : evidence ∈ db.evidence
  ofProduct : evidence.productId = row.productId
  code : evidence.requirementCode = row.requirementCode
  verified : evidence.verificationStatus = .verified
  foundKey : db.findSigningKey evidence.sourceInstitutionId evidence.signingKeyId = some key
  activeKey : key.status = .active

def Evidenced (db : Database) (row : EvidenceRequirement) : Prop :=
  (∃ evidence key, Satisfied db row evidence key) ∨ (row.status = .missing ∧ row.evidenceId = none)

/-- The rows of a product fit together. -/
structure Configured (db : Database) (productId : String) (product : Product) (configuration : ProductConfiguration)
    (template : ProductTemplate) : Prop where
  id : IsProductId productId
  joined : Joined db configuration.tenantId productId product configuration template
  lawful : Lawful product.status configuration.configurationStatus
  owned : ∀ row ∈ db.requirementsOf productId, row.productId = productId
  codes : ((db.requirementsOf productId).map (·.requirementCode)).Nodup
  mandatory : ∀ row ∈ db.requirementsOf productId, row.mandatory = true
  evidenced : ∀ row ∈ db.requirementsOf productId, Evidenced db row
  complete : configuration.configurationStatus = .active → ∀ row ∈ db.requirementsOf productId, row.status = .satisfied

/-- The invariant of the catalog. -/
structure Database.Consistent (db : Database) : Prop where
  templates : db.templates = migratedTemplates
  templateRequirements : db.templateRequirements = Database.migrated.templateRequirements
  productIds : (db.products.map (·.id)).Nodup
  configurationIds : (db.configurations.map (·.productId)).Nodup
  evidenceIds : (db.evidence.map (·.id)).Nodup
  keyIds : (db.signingKeys.map fun row => (row.institutionId, row.keyId)).Nodup
  products : ∀ productId, db.view productId = ProductView.absent ∨
    ∃ product configuration template, Configured db productId product configuration template

theorem migrated_consistent : Database.migrated.Consistent :=
  ⟨rfl, rfl, List.nodup_nil, List.nodup_nil, List.nodup_nil, List.nodup_nil, fun _ => Or.inl rfl⟩

/-- The requirements of a template have distinct codes, and all are mandatory. -/
theorem migratedRequirements (templateId : String) :
    (((Database.migrated.templateRequirements.filter (·.templateId = templateId))).map (·.requirementCode)).Nodup ∧
    ∀ row ∈ Database.migrated.templateRequirements, row.mandatory = true := by
  constructor
  · have hpairs :
      (Database.migrated.templateRequirements.map fun row => (row.templateId, row.requirementCode)).Nodup := by
      decide +kernel
    refine List.Nodup.map_on (fun first hfirst second hsecond hcode => ?_)
      ((List.Nodup.of_map _ hpairs).filter _)
    obtain ⟨hfirst, hfirstId⟩ := List.mem_filter.mp hfirst
    obtain ⟨hsecond, hsecondId⟩ := List.mem_filter.mp hsecond
    refine List.inj_on_of_nodup_map hpairs hfirst hsecond (Prod.ext ?_ hcode)
    exact (of_decide_eq_true hfirstId).trans (of_decide_eq_true hsecondId).symm
  · decide +kernel

/-- Evidence that satisfies keeps satisfying while it and its key stay. -/
theorem Satisfied.mono {row : EvidenceRequirement} {evidence : ActivationEvidence} {key : SigningKey}
    (h : Satisfied db row evidence key) (hevidence : ∀ row ∈ db.evidence, row ∈ next.evidence)
    (hkey : next.findSigningKey evidence.sourceInstitutionId evidence.signingKeyId = some key) :
    Satisfied next row evidence key :=
  ⟨h.satisfied, h.evidenceId, hevidence _ h.stored, h.ofProduct, h.code, h.verified, hkey, h.activeKey⟩

/-- Evidence and active keys stay. -/
structure Carries (db next : Database) : Prop where
  evidence : ∀ row ∈ db.evidence, row ∈ next.evidence
  keys : ∀ institutionId keyId key, db.findSigningKey institutionId keyId = some key →
    next.findSigningKey institutionId keyId = some key

theorem Evidenced.mono {row : EvidenceRequirement} (h : Evidenced db row) (hcarries : Carries db next) :
    Evidenced next row := by
  rcases h with ⟨evidence, key, h⟩ | h
  · exact Or.inl ⟨evidence, key, h.mono hcarries.evidence (hcarries.keys _ _ _ h.foundKey)⟩
  · exact Or.inr h

theorem carries_of_eq (hevidence : next.evidence = db.evidence) (hkeys : next.signingKeys = db.signingKeys) :
    Carries db next :=
  ⟨fun row hrow => hevidence ▸ hrow, fun _ _ _ h => by rwa [Database.findSigningKey, hkeys]⟩

theorem KeyAdded.carries {key : SigningKey} (h : KeyAdded db next key) (hevidence : next.evidence = db.evidence) :
    Carries db next := by
  refine ⟨fun row hrow => hevidence ▸ hrow, fun institutionId keyId found hfound => ?_⟩
  rw [Database.findSigningKey, h.added, List.find?_append]
  rw [Database.findSigningKey] at hfound
  rw [hfound, Option.some_or]

theorem KeyAdded.nodup {key : SigningKey} (h : KeyAdded db next key)
    (hkeys : (db.signingKeys.map fun row => (row.institutionId, row.keyId)).Nodup) :
    (next.signingKeys.map fun row => (row.institutionId, row.keyId)).Nodup := by
  rw [h.added]
  exact nodup_concat hkeys h.fresh

section Configured

variable {product : Product} {configuration : ProductConfiguration} {template : ProductTemplate}

theorem Joined.transfer {tenantId : String} (h : Joined db tenantId productId product configuration template)
    (hview : next.view productId = db.view productId) (htemplates : next.templates = db.templates) :
    Joined next tenantId productId product configuration template := by
  refine ⟨?_, ?_, ?_, h.tenant⟩
  · exact (congrArg ProductView.product hview).trans h.foundProduct
  · exact (congrArg ProductView.configuration hview).trans h.foundConfiguration
  · rw [Database.findTemplate, htemplates]
    exact h.foundTemplate

/-- A product whose rows stay as they are fits together as it did. -/
theorem Configured.transfer (h : Configured db productId product configuration template)
    (hview : next.view productId = db.view productId) (htemplates : next.templates = db.templates)
    (hcarries : Carries db next) : Configured next productId product configuration template := by
  have hrequirements : next.requirementsOf productId = db.requirementsOf productId :=
    congrArg ProductView.requirements hview
  refine ⟨h.id, h.joined.transfer hview htemplates, h.lawful, ?_, ?_, ?_, ?_, ?_⟩
  · rw [hrequirements]
    exact h.owned
  · rw [hrequirements]
    exact h.codes
  · rw [hrequirements]
    exact h.mandatory
  · rw [hrequirements]
    exact fun row hrow => (h.evidenced row hrow).mono hcarries
  · rw [hrequirements]
    exact h.complete

end Configured

/-- The tables of the catalog after a call on one product. -/
theorem Database.Consistent.touch (h : db.Consistent) (hbase : SameBase db next)
    (hevidenceIds : (next.evidence.map (·.id)).Nodup) (hcarries : Carries db next)
    (hothers : ∀ other, other ≠ productId → next.view other = db.view other)
    (hown : ∃ product configuration template, Configured next productId product configuration template) :
    next.Consistent := by
  refine ⟨hbase.templates.trans h.templates, hbase.templateRequirements.trans h.templateRequirements, ?_, ?_,
    hevidenceIds, ?_, fun other => ?_⟩
  · rw [hbase.productIds]
    exact h.productIds
  · rw [hbase.configurationIds]
    exact h.configurationIds
  · rw [hbase.signingKeys]
    exact h.keyIds
  · by_cases hother : other = productId
    · subst hother
      exact Or.inr hown
    · rw [hothers other hother]
      rcases h.products other with habsent | ⟨product, configuration, template, hconfigured⟩
      · exact Or.inl habsent
      · exact Or.inr ⟨product, configuration, template,
          hconfigured.transfer (hothers other hother) hbase.templates hcarries⟩

/-- The rows of a product that a call has found. -/
theorem Database.Consistent.configured (h : db.Consistent) {tenantId : String} {product : Product}
    {configuration : ProductConfiguration} {template : ProductTemplate}
    (hjoined : Joined db tenantId productId product configuration template) :
    Configured db productId product configuration template := by
  rcases h.products productId with habsent | ⟨product', configuration', template', hconfigured⟩
  · have hnone : db.findProduct productId = none := congrArg ProductView.product habsent
    rw [hjoined.foundProduct] at hnone
    cases hnone
  · obtain rfl := Option.some.inj (hjoined.foundProduct.symm.trans hconfigured.joined.foundProduct)
    obtain rfl := Option.some.inj (hjoined.foundConfiguration.symm.trans hconfigured.joined.foundConfiguration)
    obtain rfl := Option.some.inj (hjoined.foundTemplate.symm.trans hconfigured.joined.foundTemplate)
    exact hconfigured

theorem SameProducts.consistent (h : SameProducts db next)
    (hkeys : next.signingKeys = db.signingKeys ∨ ∃ key, KeyAdded db next key) (hconsistent : db.Consistent) :
    next.Consistent := by
  have hcarries : Carries db next := by
    rcases hkeys with hsame | ⟨key, hadded⟩
    · exact carries_of_eq h.evidence hsame
    · exact hadded.carries h.evidence
  refine ⟨h.templates.trans hconsistent.templates, h.templateRequirements.trans hconsistent.templateRequirements, ?_,
    ?_, ?_, ?_, fun productId => ?_⟩
  · rw [h.products]
    exact hconsistent.productIds
  · rw [h.configurations]
    exact hconsistent.configurationIds
  · rw [h.evidence]
    exact hconsistent.evidenceIds
  · rcases hkeys with hsame | ⟨key, hadded⟩
    · rw [hsame]
      exact hconsistent.keyIds
    · exact hadded.nodup hconsistent.keyIds
  · rw [h.view productId]
    rcases hconsistent.products productId with habsent | ⟨product, configuration, template, hconfigured⟩
    · exact Or.inl habsent
    · exact Or.inr ⟨product, configuration, template, hconfigured.transfer (h.view productId) h.templates hcarries⟩

/-- A product that is created was not there. -/
theorem Creates.absent {tenantId actorRef : String} {input : ProductInput} {clock : Int} {product : Product}
    (h : Creates db next tenantId actorRef input clock product) (hconsistent : db.Consistent) :
    db.view product.id = ProductView.absent := by
  rcases hconsistent.products product.id with habsent | ⟨row, _, _, hconfigured⟩
  · exact habsent
  · have hmem := List.mem_of_find?_eq_some hconfigured.joined.foundProduct
    have hid : row.id = product.id := by simpa using List.find?_some hconfigured.joined.foundProduct
    exact absurd (List.mem_map.mpr ⟨row, hmem, hid⟩) h.unused

theorem Creates.consistent {tenantId actorRef : String} {input : ProductInput} {clock : Int} {product : Product}
    (h : Creates db next tenantId actorRef input clock product) (hconsistent : db.Consistent) : next.Consistent := by
  have habsent := h.absent hconsistent
  have hcarries := carries_of_eq h.evidence h.signingKeys
  have hview := h.own habsent
  obtain ⟨template, htemplate⟩ := h.template
  obtain ⟨hcodes, hmandatory⟩ := migratedRequirements input.templateId
  refine ⟨h.templates.trans hconsistent.templates, h.templateRequirements.trans hconsistent.templateRequirements, ?_,
    ?_, ?_, ?_, fun other => ?_⟩
  · rw [h.products]
    exact nodup_concat hconsistent.productIds h.unused
  · rw [h.configurations]
    exact nodup_concat hconsistent.configurationIds h.unconfigured
  · rw [h.evidence]
    exact hconsistent.evidenceIds
  · rw [h.signingKeys]
    exact hconsistent.keyIds
  · by_cases hother : other = product.id
    · subst hother
      refine Or.inr ⟨product, ⟨product.id, tenantId, input.templateId, .rolesPending, 1, actorRef⟩, template, ?_⟩
      have hrequirements : next.requirementsOf product.id =
          (db.templateRequirements.filter (·.templateId = input.templateId)).map fun row =>
            ⟨product.id, row.requirementCode, row.responsibleRole, row.description, row.mandatory, .missing, none⟩ :=
        (congrArg ProductView.requirements hview).trans (by rw [ProductView.recorded_requirements]; rfl)
      have hmissing : ∀ row ∈ next.requirementsOf product.id,
          row.productId = product.id ∧ row.mandatory = true ∧ row.status = .missing ∧ row.evidenceId = none := by
        intro row hrow
        rw [hrequirements, hconsistent.templateRequirements] at hrow
        obtain ⟨given, hgiven, rfl⟩ := List.mem_map.mp hrow
        exact ⟨rfl, hmandatory given (List.mem_filter.mp hgiven).1, rfl, rfl⟩
      refine ⟨h.id, ⟨?_, ?_, ?_, rfl⟩, Or.inl ⟨h.draft, Or.inl rfl⟩, fun row hrow => (hmissing row hrow).1, ?_,
        fun row hrow => (hmissing row hrow).2.1, fun row hrow => Or.inr (hmissing row hrow).2.2, nofun⟩
      · exact (congrArg ProductView.product hview).trans (by rw [ProductView.recorded_product]; rfl)
      · exact (congrArg ProductView.configuration hview).trans (by rw [ProductView.recorded_configuration]; rfl)
      · rw [Database.findTemplate, h.templates]
        exact htemplate
      · rw [hrequirements, hconsistent.templateRequirements, List.map_map]
        exact hcodes
    · rw [h.others other hother]
      rcases hconsistent.products other with habsent | ⟨row, configuration, template, hconfigured⟩
      · exact Or.inl habsent
      · exact Or.inr ⟨row, configuration, template, hconfigured.transfer (h.others other hother) h.templates hcarries⟩

theorem roleStatus_cases {view : ProductView} {requiredRoles : List String} :
    view.roleStatus requiredRoles = .rolesPending ∨ view.roleStatus requiredRoles = .readyForEvidence := by
  unfold ProductView.roleStatus
  split
  · exact Or.inr rfl
  · exact Or.inl rfl

section Own

variable {tenantId actorRef eventType : String} {product : Product} {configuration : ProductConfiguration}
  {template : ProductTemplate}

/-- The rows of a product after its configuration has changed and its
requirements have not. -/
theorem Configured.configure (h : Configured db productId product configuration template) {changed : Product}
    {status : ConfigurationStatus} (htemplates : next.templates = db.templates) (hcarries : Carries db next)
    (hproduct : next.findProduct productId = some changed)
    (hconfiguration : next.findConfiguration productId = some (configuration.next status))
    (hrequirements : next.requirementsOf productId = db.requirementsOf productId)
    (hlawful : Lawful changed.status status)
    (hcomplete : status = .active → ∀ row ∈ db.requirementsOf productId, row.status = .satisfied) :
    Configured next productId changed (configuration.next status) template := by
  refine ⟨h.id, ⟨hproduct, hconfiguration, ?_, rfl⟩, hlawful, ?_, ?_, ?_, ?_, ?_⟩
  · rw [Database.findTemplate, htemplates]
    exact h.joined.foundTemplate
  · rw [hrequirements]
    exact h.owned
  · rw [hrequirements]
    exact h.codes
  · rw [hrequirements]
    exact h.mandatory
  · rw [hrequirements]
    exact fun row hrow => (h.evidenced row hrow).mono hcarries
  · rw [hrequirements]
    exact hcomplete

theorem Assigns.consistent {role institutionId : String} {clock : Int}
    (h : Assigns db next tenantId actorRef productId role institutionId clock product configuration template)
    (hconsistent : db.Consistent) : next.Consistent := by
  have hcarries := carries_of_eq h.evidence h.base.signingKeys
  have hconfigured := hconsistent.configured h.joined
  obtain ⟨status, hstatus, hown⟩ := h.own
  refine hconsistent.touch h.base (h.evidence ▸ hconsistent.evidenceIds) hcarries h.others
    ⟨product, configuration.next status, template, hconfigured.configure h.base.templates hcarries ?_ ?_ ?_ ?_ ?_⟩
  · exact (congrArg ProductView.product hown).trans (by rw [ProductView.recorded_product]; exact h.joined.foundProduct)
  · refine (congrArg ProductView.configuration hown).trans ?_
    rw [ProductView.recorded_configuration]
    exact congrArg (Option.map fun row => ProductConfiguration.next row status) h.joined.foundConfiguration
  · exact (congrArg ProductView.requirements hown).trans (by rw [ProductView.recorded_requirements]; rfl)
  · refine Or.inl ⟨h.draft, ?_⟩
    rcases roleStatus_cases with hrole | hrole
    · exact Or.inl (hstatus.trans hrole)
    · exact Or.inr (Or.inl (hstatus.trans hrole))
  · intro hactive
    rcases roleStatus_cases with hrole | hrole <;> rw [hstatus, hrole] at hactive <;> cases hactive

/-- What the readiness check leaves of a requirement. -/
theorem lacksEvidence_eq_false {row : EvidenceRequirement} {clock : Int} (h : db.lacksEvidence clock row = false) :
    row.status = .satisfied ∧ ∃ evidence, row.evidenceId.bind db.findEvidence = some evidence ∧
      clock < evidence.expiresAt ∧ evidence.verificationStatus = .verified := by
  simp only [Database.lacksEvidence, Bool.or_eq_false_iff, decide_eq_false_iff_not, Decidable.not_not] at h
  obtain ⟨hstatus, h⟩ := h
  cases hevidence : row.evidenceId.bind db.findEvidence with
  | none => simp [hevidence] at h
  | some evidence =>
    simp only [hevidence, Bool.or_eq_false_iff, decide_eq_false_iff_not, Decidable.not_not, not_le] at h
    exact ⟨hstatus, evidence, rfl, h.1.1, h.1.2⟩

theorem ProposesActivation.consistent {reason : String} {clock : Int} {round : Nat}
    (h : ProposesActivation db next tenantId actorRef productId reason clock round product configuration template)
    (hconsistent : db.Consistent) : next.Consistent := by
  have hcarries := carries_of_eq h.evidence h.base.signingKeys
  have hconfigured := hconsistent.configured h.joined
  refine hconsistent.touch h.base (h.evidence ▸ hconsistent.evidenceIds) hcarries h.others
    ⟨product, configuration.next .activationPending, template,
      hconfigured.configure h.base.templates hcarries ?_ ?_ ?_ ?_ nofun⟩
  · exact (congrArg ProductView.product h.own).trans (by rw [ProductView.recorded_product]; exact h.joined.foundProduct)
  · refine (congrArg ProductView.configuration h.own).trans ?_
    rw [ProductView.recorded_configuration]
    exact congrArg (Option.map fun row => ProductConfiguration.next row .activationPending) h.joined.foundConfiguration
  · exact (congrArg ProductView.requirements h.own).trans (by rw [ProductView.recorded_requirements]; rfl)
  · exact Or.inl ⟨h.draft, Or.inr (Or.inr rfl)⟩

theorem DecidesActivation.consistent {reason : String} {decision : ReviewDecision} {clock : Int}
    {maker : ActivationApproval}
    (h : DecidesActivation db next tenantId actorRef productId reason decision clock maker product
      configuration template)
    (hconsistent : db.Consistent) : next.Consistent := by
  have hcarries := carries_of_eq h.evidence h.base.signingKeys
  have hconfigured := hconsistent.configured h.joined
  obtain ⟨eventType, hown⟩ := h.own
  have hconfiguration : next.findConfiguration productId = some (configuration.next decision.resulting) := by
    refine (congrArg ProductView.configuration hown).trans ?_
    rw [ProductView.recorded_configuration]
    cases decision with
    | approve =>
      exact congrArg (Option.map fun row => ProductConfiguration.next row .active) h.joined.foundConfiguration
    | reject =>
      exact congrArg (Option.map fun row => ProductConfiguration.next row .readyForEvidence) h.joined.foundConfiguration
  have hrequirements : next.requirementsOf productId = db.requirementsOf productId := by
    refine (congrArg ProductView.requirements hown).trans ?_
    rw [ProductView.recorded_requirements]
    cases decision <;> rfl
  cases decision with
  | approve =>
    have hactivated : next.findProduct productId = some { product with status := .active } := by
      refine (congrArg ProductView.product hown).trans ?_
      rw [ProductView.recorded_product]
      refine (congrArg (Option.map fun row : Product => if row.status = .draft then { row with status := .active }
        else row) h.joined.foundProduct).trans ?_
      rw [Option.map_some, if_pos h.draft]
    refine hconsistent.touch h.base (h.evidence ▸ hconsistent.evidenceIds) hcarries h.others
      ⟨_, configuration.next .active, template,
        hconfigured.configure h.base.templates hcarries hactivated hconfiguration hrequirements
          (Or.inr ⟨Or.inl rfl, Or.inl rfl⟩) fun _ row hrow => ?_⟩
    exact (lacksEvidence_eq_false ((h.ready rfl).evidence row hrow (hconfigured.mandatory row hrow))).1
  | reject =>
    have hproduct : next.findProduct productId = some product := by
      refine (congrArg ProductView.product hown).trans ?_
      rw [ProductView.recorded_product]
      exact h.joined.foundProduct
    exact hconsistent.touch h.base (h.evidence ▸ hconsistent.evidenceIds) hcarries h.others
      ⟨product, configuration.next .readyForEvidence, template,
        hconfigured.configure h.base.templates hcarries hproduct hconfiguration hrequirements
          (Or.inl ⟨h.draft, Or.inr (Or.inl rfl)⟩) nofun⟩

theorem Attaches.consistent {now : Int} {row : ActivationEvidence} {requirement : EvidenceRequirement}
    {key : SigningKey}
    (h : Attaches db next tenantId actorRef productId now row product configuration template requirement key)
    (hconsistent : db.Consistent) : next.Consistent := by
  have hcarries : Carries db next := by
    refine ⟨fun other hother => ?_, fun _ _ _ hfound => by rwa [Database.findSigningKey, h.base.signingKeys]⟩
    rw [h.evidence]
    exact List.mem_append_left _ hother
  have hconfigured := hconsistent.configured h.joined
  have hrequirements : next.requirementsOf productId = (db.requirementsOf productId).map fun other =>
      if other.requirementCode = row.requirementCode then { other with status := .satisfied, evidenceId := some row.id }
      else other :=
    (congrArg ProductView.requirements h.own).trans (by rw [ProductView.recorded_requirements]; rfl)
  have hmem : ∀ other ∈ next.requirementsOf productId, ∃ before ∈ db.requirementsOf productId,
      other.productId = before.productId ∧ other.mandatory = before.mandatory ∧
      (other = before ∨ (other.status = .satisfied ∧ other.evidenceId = some row.id ∧
        other.requirementCode = row.requirementCode)) := by
    intro other hother
    rw [hrequirements] at hother
    obtain ⟨before, hbefore, rfl⟩ := List.mem_map.mp hother
    by_cases hcode : before.requirementCode = row.requirementCode
    · rw [if_pos hcode]
      exact ⟨before, hbefore, rfl, rfl, Or.inr ⟨rfl, rfl, hcode⟩⟩
    · rw [if_neg hcode]
      exact ⟨before, hbefore, rfl, rfl, Or.inl rfl⟩
  have hids : (next.evidence.map (·.id)).Nodup := by
    rw [h.evidence]
    exact nodup_concat hconsistent.evidenceIds h.fresh
  refine hconsistent.touch h.base hids hcarries h.others
    ⟨product, configuration.next configuration.configurationStatus, template, h.id, ⟨?_, ?_, ?_, rfl⟩,
      hconfigured.lawful, ?_, ?_, ?_, ?_, ?_⟩
  · exact (congrArg ProductView.product h.own).trans (by rw [ProductView.recorded_product]; exact h.joined.foundProduct)
  · refine (congrArg ProductView.configuration h.own).trans ?_
    rw [ProductView.recorded_configuration]
    exact congrArg (Option.map fun row => ProductConfiguration.next row row.configurationStatus)
      h.joined.foundConfiguration
  · rw [Database.findTemplate, h.base.templates]
    exact h.joined.foundTemplate
  · intro other hother
    obtain ⟨before, hbefore, hproduct, -⟩ := hmem other hother
    exact hproduct.trans (hconfigured.owned before hbefore)
  · have hcodes : (next.requirementsOf productId).map (·.requirementCode) =
        (db.requirementsOf productId).map (·.requirementCode) := by
      rw [hrequirements, List.map_map]
      exact List.map_congr_left fun other _ => by dsimp only [Function.comp]; split <;> rfl
    rw [hcodes]
    exact hconfigured.codes
  · intro other hother
    obtain ⟨before, hbefore, -, hmandatory, -⟩ := hmem other hother
    exact hmandatory.trans (hconfigured.mandatory before hbefore)
  · intro other hother
    obtain ⟨before, hbefore, hproduct, -, rfl | ⟨hsatisfied, hid, hcode⟩⟩ := hmem other hother
    · exact (hconfigured.evidenced other hbefore).mono hcarries
    · refine Or.inl ⟨row, key, hsatisfied, hid, ?_, ?_, hcode.symm, h.verified,
        hcarries.keys _ _ _ h.foundKey, h.activeKey⟩
      · rw [h.evidence]
        exact List.mem_append_right _ List.mem_cons_self
      · rw [h.ofProduct, hproduct, hconfigured.owned before hbefore]
  · intro hactive other hother
    obtain ⟨before, hbefore, -, -, rfl | ⟨hsatisfied, -⟩⟩ := hmem other hother
    · exact hconfigured.complete hactive other hbefore
    · exact hsatisfied

theorem SetsStatus.consistent {status : ProductStatus} (h : SetsStatus db next productId status actorRef product)
    (hconsistent : db.Consistent) : next.Consistent := by
  have hcarries := carries_of_eq h.evidence h.base.signingKeys
  rcases hconsistent.products productId with habsent | ⟨row, configuration, template, hconfigured⟩
  · have hnone : db.findProduct productId = none := congrArg ProductView.product habsent
    rw [h.foundProduct] at hnone
    cases hnone
  · obtain rfl := Option.some.inj (h.foundProduct.symm.trans hconfigured.joined.foundProduct)
    have hrequirements : next.requirementsOf productId = db.requirementsOf productId :=
      congrArg ProductView.requirements h.own
    have hlawful : Lawful status configuration.configurationStatus := by
      rcases hconfigured.lawful with ⟨hdraft, -⟩ | ⟨-, hstatus⟩
      · rcases h.turns with ⟨hactive, -⟩ | ⟨hpaused, -⟩
        · rw [hdraft] at hactive
          cases hactive
        · rw [hdraft] at hpaused
          cases hpaused
      · rcases h.turns with ⟨-, rfl⟩ | ⟨-, rfl⟩
        · exact Or.inr ⟨Or.inr rfl, hstatus⟩
        · exact Or.inr ⟨Or.inl rfl, hstatus⟩
    refine hconsistent.touch h.base (h.evidence ▸ hconsistent.evidenceIds) hcarries h.others
      ⟨{ product with status }, configuration, template, hconfigured.id, ⟨?_, ?_, ?_, rfl⟩, hlawful, ?_, ?_, ?_, ?_, ?_⟩
    · exact (congrArg ProductView.product h.own).trans
        (congrArg (Option.map fun row : Product => ({ row with status } : Product)) h.foundProduct)
    · exact (congrArg ProductView.configuration h.own).trans hconfigured.joined.foundConfiguration
    · rw [Database.findTemplate, h.base.templates]
      exact hconfigured.joined.foundTemplate
    · rw [hrequirements]
      exact hconfigured.owned
    · rw [hrequirements]
      exact hconfigured.codes
    · rw [hrequirements]
      exact hconfigured.mandatory
    · rw [hrequirements]
      exact fun row hrow => (hconfigured.evidenced row hrow).mono hcarries
    · rw [hrequirements]
      exact hconfigured.complete

end Own

theorem Database.Consistent.findEvidence (h : db.Consistent) {evidence : ActivationEvidence}
    (hstored : evidence ∈ db.evidence) : db.findEvidence evidence.id = some evidence := by
  have hfilter := filter_key_of_mem h.evidenceIds hstored
  rw [Database.findEvidence, ← List.head?_filter, hfilter]
  rfl

namespace KeyRevoked

variable {institutionId keyId : String} {now : Int}

theorem view (h : KeyRevoked db next institutionId keyId now) (hconsistent : db.Consistent) (productId : String) :
    next.view productId = (db.view productId).invalidated (db.signedWith institutionId keyId) := by
  rw [h.next, view_invalidate]
  · rfl
  · exact hconsistent.configurationIds

theorem evidence (h : KeyRevoked db next institutionId keyId now) : next.evidence = db.evidence := by
  rw [h.next]
  rfl

theorem templates (h : KeyRevoked db next institutionId keyId now) : next.templates = db.templates := by
  rw [h.next]
  rfl

/-- Other keys stay as they are. -/
theorem findSigningKey (h : KeyRevoked db next institutionId keyId now) {source id : String} {key : SigningKey}
    (hfound : db.findSigningKey source id = some key) (hother : ¬(source = institutionId ∧ id = keyId)) :
    next.findSigningKey source id = some key := by
  have hkey : key.institutionId = source ∧ key.keyId = id := by simpa using List.find?_some hfound
  have hfind : next.findSigningKey source id = (db.findSigningKey source id).map fun row =>
      if row.institutionId = institutionId ∧ row.keyId = keyId then row.revoke now else row := by
    rw [h.next]
    unfold Database.findSigningKey
    exact find_map_of_same fun row => by split <;> rfl
  rw [hfind, hfound, Option.map_some, hkey.1, hkey.2, if_neg hother]

/-- A requirement keeps its evidence, or misses evidence again. -/
theorem evidenced (h : KeyRevoked db next institutionId keyId now) (hconsistent : db.Consistent)
    {row : EvidenceRequirement} (hrow : Evidenced db row) (hsigned : db.signedWith institutionId keyId row = false) :
    Evidenced next row := by
  rcases hrow with ⟨evidence, key, hsatisfied⟩ | hmissing
  · refine Or.inl ⟨evidence, key, hsatisfied.mono (fun _ hmem => h.evidence ▸ hmem) ?_⟩
    refine h.findSigningKey hsatisfied.foundKey fun hsame => ?_
    simp [Database.signedWith, hsatisfied.evidenceId, hconsistent.findEvidence hsatisfied.stored, hsame] at hsigned
  · exact Or.inr hmissing

theorem configured (h : KeyRevoked db next institutionId keyId now) (hconsistent : db.Consistent) {product : Product}
    {configuration : ProductConfiguration} {template : ProductTemplate}
    (hconfigured : Configured db productId product configuration template) :
    ∃ product configuration template, Configured next productId product configuration template := by
  have hview := h.view hconsistent productId
  have hrequirements : next.requirementsOf productId = (db.requirementsOf productId).map fun row =>
      if db.signedWith institutionId keyId row then { row with status := .missing, evidenceId := none } else row :=
    congrArg ProductView.requirements hview
  have hmem : ∀ row ∈ next.requirementsOf productId, ∃ before ∈ db.requirementsOf productId,
      row.productId = before.productId ∧ row.mandatory = before.mandatory ∧ Evidenced next row := by
    intro row hrow
    rw [hrequirements] at hrow
    obtain ⟨before, hbefore, rfl⟩ := List.mem_map.mp hrow
    cases hsigned : db.signedWith institutionId keyId before with
    | true => exact ⟨before, hbefore, rfl, rfl, Or.inr ⟨rfl, rfl⟩⟩
    | false =>
      exact ⟨before, hbefore, rfl, rfl, h.evidenced hconsistent (hconfigured.evidenced before hbefore) hsigned⟩
  have hmandatory : ∀ row ∈ next.requirementsOf productId, row.mandatory = true := fun row hrow => by
    obtain ⟨before, hbefore, -, hsame, -⟩ := hmem row hrow
    exact hsame.trans (hconfigured.mandatory before hbefore)
  have hmisses : (next.view productId).missesMandatory = false → ∀ row ∈ next.requirementsOf productId,
      row.status = .satisfied := by
    intro hnone row hrow
    simp only [ProductView.missesMandatory, List.any_eq_false, Bool.and_eq_true, decide_eq_true_eq, not_and,
      Decidable.not_not] at hnone
    exact hnone row hrow (hmandatory row hrow)
  have hsame : (next.view productId).missesMandatory =
      ((db.view productId).missed (db.signedWith institutionId keyId)).missesMandatory := by
    rw [hview]
    rfl
  obtain ⟨suspended, hsuspended⟩ : ∃ suspended : ProductConfiguration, suspended =
      if configuration.configurationStatus = .active ∧ (next.view productId).missesMandatory = true
      then configuration.next .suspended else configuration := ⟨_, rfl⟩
  have hconfiguration : next.findConfiguration productId = some suspended := by
    refine (congrArg ProductView.configuration hview).trans ?_
    rw [hsuspended, hsame]
    exact congrArg (Option.map fun row : ProductConfiguration => if row.configurationStatus = .active ∧
      ((db.view productId).missed (db.signedWith institutionId keyId)).missesMandatory = true
      then row.next .suspended else row) hconfigured.joined.foundConfiguration
  obtain ⟨paused, hpaused⟩ : ∃ paused : Product, paused =
      if product.status = .active ∧ suspended.configurationStatus = .suspended
      then { product with status := .paused } else product := ⟨_, rfl⟩
  have hproduct : next.findProduct productId = some paused := by
    have hstatus : (((db.view productId).missed (db.signedWith institutionId keyId)).suspended).configurationStatus =
        some suspended.configurationStatus := by
      have hfound : (((db.view productId).missed (db.signedWith institutionId keyId)).suspended).configuration =
          some suspended := (congrArg ProductView.configuration hview).symm.trans hconfiguration
      rw [ProductView.configurationStatus, hfound, Option.map_some]
    refine (congrArg ProductView.product hview).trans ?_
    have hmap := congrArg (Option.map fun row : Product => if row.status = .active ∧
      (((db.view productId).missed (db.signedWith institutionId keyId)).suspended).configurationStatus = some .suspended
      then ({ row with status := .paused } : Product) else row) hconfigured.joined.foundProduct
    refine Eq.trans hmap ?_
    rw [Option.map_some, hstatus, hpaused]
    simp only [Option.some.injEq]
  have htemplate : suspended.templateId = configuration.templateId := by
    rw [hsuspended]
    split <;> rfl
  refine ⟨paused, suspended, template, hconfigured.id, ⟨hproduct, hconfiguration, ?_, rfl⟩, ?_, ?_, ?_,
    hmandatory, ?_, ?_⟩
  · rw [htemplate, Database.findTemplate, h.templates]
    exact hconfigured.joined.foundTemplate
  · rcases hconfigured.lawful with ⟨hdraft, hstatus⟩ | ⟨hstatus, hstate⟩
    · have hinactive : configuration.configurationStatus ≠ .active := by
        rcases hstatus with h | h | h <;> rw [h] <;> decide
      have hunchanged : suspended = configuration := by
        rw [hsuspended, if_neg fun h => hinactive h.1]
      have hunpaused : paused = product := by
        rw [hpaused, if_neg fun h => by simp [hdraft] at h]
      rw [hunchanged, hunpaused]
      exact Or.inl ⟨hdraft, hstatus⟩
    · refine Or.inr ⟨?_, ?_⟩
      · rw [hpaused]
        split
        · exact Or.inr rfl
        · exact hstatus
      · rw [hsuspended]
        split
        · exact Or.inr rfl
        · exact hstate
  · intro row hrow
    obtain ⟨before, hbefore, hproduct, -⟩ := hmem row hrow
    exact hproduct.trans (hconfigured.owned before hbefore)
  · have hcodes : (next.requirementsOf productId).map (·.requirementCode) =
        (db.requirementsOf productId).map (·.requirementCode) := by
      rw [hrequirements, List.map_map]
      exact List.map_congr_left fun row _ => by dsimp only [Function.comp]; split <;> rfl
    rw [hcodes]
    exact hconfigured.codes
  · intro row hrow
    obtain ⟨_, -, -, -, hevidenced⟩ := hmem row hrow
    exact hevidenced
  · intro hactive
    refine hmisses ?_
    by_contra hmissing
    rw [Bool.not_eq_false] at hmissing
    by_cases hwas : configuration.configurationStatus = .active
    · rw [hsuspended, if_pos ⟨hwas, hmissing⟩] at hactive
      cases hactive
    · rw [hsuspended, if_neg fun h => hwas h.1] at hactive
      exact hwas hactive

theorem consistent (h : KeyRevoked db next institutionId keyId now) (hconsistent : db.Consistent) :
    next.Consistent := by
  refine ⟨h.templates.trans hconsistent.templates, ?_, ?_, ?_, h.evidence ▸ hconsistent.evidenceIds, ?_,
    fun productId => ?_⟩
  · rw [h.next]
    exact hconsistent.templateRequirements
  · rw [h.next]
    refine (map_key_of_same fun row => ?_).symm ▸ hconsistent.productIds
    split <;> rfl
  · rw [h.next]
    refine (map_key_of_same fun row => ?_).symm ▸ hconsistent.configurationIds
    split <;> rfl
  · have hkeys : next.signingKeys.map (fun row => (row.institutionId, row.keyId)) =
        db.signingKeys.map fun row => (row.institutionId, row.keyId) := by
      rw [h.next]
      refine (List.map_map ..).trans (List.map_congr_left fun row _ => ?_)
      dsimp only [Function.comp]
      split <;> rfl
    rw [hkeys]
    exact hconsistent.keyIds
  · rcases hconsistent.products productId with habsent | ⟨product, configuration, template, hconfigured⟩
    · exact Or.inl ((h.view hconsistent productId).trans (by rw [habsent]; rfl))
    · exact Or.inr (h.configured hconsistent hconfigured)

end KeyRevoked

theorem CallEnds.consistent {now clock : Int} {call : Call} (h : CallEnds db now clock call next)
    (hconsistent : db.Consistent) : next.Consistent := by
  cases h with
  | onboarded _ same keys => exact same.consistent keys hconsistent
  | revoked revoked => exact revoked.consistent hconsistent
  | created creates => exact creates.consistent hconsistent
  | assigned assigns => exact assigns.consistent hconsistent
  | attached attaches => exact attaches.consistent hconsistent
  | proposed proposes => exact proposes.consistent hconsistent
  | decided _ decides => exact decides.consistent hconsistent
  | statusSet sets => exact sets.consistent hconsistent

/-- A call that is about a product. -/
inductive Touches (db : Database) (now clock : Int) (next : Database) (productId : String) : Call → Prop
  | revoked {tenantId institutionId keyId : String} {reason : Option String}
      (revoked : KeyRevoked db next institutionId keyId now)
      (view : next.view productId = (db.view productId).invalidated (db.signedWith institutionId keyId)) :
      Touches db now clock next productId (.revokeInstitutionSigningKey tenantId (some institutionId)
        (some keyId) reason)
  | created {tenantId actorRef : String} {input : ProductInput} {product : Product} (own : productId = product.id)
      (absent : db.view productId = ProductView.absent)
      (creates : Creates db next tenantId actorRef input clock product) :
      Touches db now clock next productId (.createProduct tenantId actorRef input)
  | assigned {tenantId actorRef role institutionId : String} {product : Product} {configuration : ProductConfiguration}
      {template : ProductTemplate}
      (assigns : Assigns db next tenantId actorRef productId role institutionId clock product configuration template) :
      Touches db now clock next productId (.assignRole tenantId actorRef (some productId) role (some institutionId))
  | attached {tenantId actorRef : String} {input : EvidenceInput} {row : ActivationEvidence} {product : Product}
      {configuration : ProductConfiguration} {template : ProductTemplate} {requirement : EvidenceRequirement}
      {key : SigningKey}
      (attaches : Attaches db next tenantId actorRef productId now row product configuration template requirement key) :
      Touches db now clock next productId (.attachActivationEvidence tenantId actorRef (some productId) input)
  | proposed {tenantId actorRef reason : String} {round : Nat} {product : Product}
    {configuration : ProductConfiguration}
      {template : ProductTemplate}
      (proposes : ProposesActivation db next tenantId actorRef productId reason clock round product configuration
        template) :
      Touches db now clock next productId (.proposeActivation tenantId actorRef (some productId) (some reason))
  | decided {tenantId actorRef : String} {input : ReviewInput} {review : Review} {maker : ActivationApproval}
      {product : Product} {configuration : ProductConfiguration} {template : ProductTemplate}
      (decides : DecidesActivation db next tenantId actorRef productId review.reason review.decision clock maker product
        configuration template) :
      Touches db now clock next productId (.decideActivation tenantId actorRef (some productId) input)
  | statusSet {actorRef : String} {status : ProductStatus} {product : Product}
      (sets : SetsStatus db next productId status actorRef product) :
      Touches db now clock next productId (.setProductStatus productId status actorRef)

/-- A call that is not about a product leaves its rows as they are. -/
theorem CallEnds.touches {now clock : Int} {call : Call} (h : CallEnds db now clock call next)
    (hconsistent : db.Consistent) (productId : String) :
    next.view productId = db.view productId ∨ Touches db now clock next productId call := by
  cases h with
  | onboarded _ same _ => exact Or.inl (same.view productId)
  | revoked revoked => exact Or.inr (.revoked revoked (revoked.view hconsistent productId))
  | @created _ _ _ product _ creates =>
    by_cases hown : productId = product.id
    · exact Or.inr (.created hown (hown ▸ creates.absent hconsistent) creates)
    · exact Or.inl (creates.others productId hown)
  | @assigned _ _ touched _ _ _ _ _ _ assigns =>
    by_cases hown : productId = touched
    · subst hown
      exact Or.inr (.assigned assigns)
    · exact Or.inl (assigns.others productId hown)
  | @attached _ _ touched _ _ _ _ _ _ _ _ attaches =>
    by_cases hown : productId = touched
    · subst hown
      exact Or.inr (.attached attaches)
    · exact Or.inl (attaches.others productId hown)
  | @proposed _ _ touched _ _ _ _ _ _ proposes =>
    by_cases hown : productId = touched
    · subst hown
      exact Or.inr (.proposed proposes)
    · exact Or.inl (proposes.others productId hown)
  | @decided _ _ touched _ _ _ _ _ _ _ _ decides =>
    by_cases hown : productId = touched
    · subst hown
      exact Or.inr (.decided decides)
    · exact Or.inl (decides.others productId hown)
  | @statusSet touched _ _ _ _ sets =>
    by_cases hown : productId = touched
    · subst hown
      exact Or.inr (.statusSet sets)
    · exact Or.inl (sets.others productId hown)

theorem step_consistent (action : Action) (h : db.Consistent) : (step service db action).Consistent := by
  obtain ⟨-, hsame⟩ | ⟨-, hends⟩ := @step_cases service db action
  · rwa [hsame]
  · exact hends.consistent h

theorem run_consistent (actions : List Action) : (run service actions).Consistent :=
  runs.run_invariant migrated_consistent (fun _ action h => step_consistent action h) actions

end rwa.catalog
