import RwaControlPlane.Catalog.Inputs
import RwaControlPlane.Library.JsDates
import RwaControlPlane.Library.JsMap
import RwaControlPlane.Storage.Canonical

open checked js_value
open rwa.catalog (requireString tenantIdPattern)
open rwa.storage

namespace rwa.audit_export

/-- A `jsonb` value. -/
structure Jsonb (numbers : Set Rat) where
  value : JsValue
  json : IsJson numbers value

/-- `platform_tenants` -/
structure Tenant (numbers : Set Rat) where
  id : String
  legalName : String
  homeJurisdiction : String
  dataRegion : String
  status : String
  configuration : Jsonb numbers

/-- `product_templates` -/
structure ProductTemplate where
  id : String
  assetClass : String
  version : Int
  status : String

/-- `institutions` -/
structure Institution where
  id : String
  legalName : String
  jurisdiction : String
  status : String

/-- `tenant_institutions` -/
structure TenantInstitution where
  tenantId : String
  institutionId : String
  onboardingStatus : String
  externalReference : Option String

/-- `products` -/
structure Product (numbers : Set Rat) where
  id : String
  name : String
  jurisdiction : String
  issuerId : String
  currency : String
  status : String
  ruleVersion : Int
  rules : Jsonb numbers

/-- `product_configurations` -/
structure ProductConfiguration where
  productId : String
  tenantId : String
  templateId : String
  configurationStatus : String
  configurationVersion : Int
  createdAt : Int

/-- `product_role_assignments` -/
structure RoleAssignment where
  productId : String
  role : String
  institutionId : String
  endedAt : Option Int

/-- `product_evidence_requirements` -/
structure EvidenceRequirement where
  productId : String
  requirementCode : String
  responsibleRole : String
  description : String
  mandatory : Bool
  status : String
  evidenceId : Option String

/-- `product_activation_evidence` -/
structure ActivationEvidence where
  id : String
  expiresAt : Int
  contentHash : String
  sourceInstitutionId : String
  verificationStatus : String
  signingKeyId : Option String
  signatureAlgorithm : Option String
  canonicalPayloadHash : Option String
  verifierVersion : Option String
  verifiedAt : Option Int

/-- `institution_onboarding_approvals` and `product_activation_approvals`: the subject
is the institution, or the product. -/
structure Approval where
  subjectId : String
  approvalRound : Int
  role : String
  actorRef : String
  decision : String
  reason : String
  createdAt : Int

/-- `product_configuration_snapshots` -/
structure ConfigurationSnapshot where
  sequenceId : Int
  tenantId : String
  productId : String
  configurationVersion : Int
  eventType : String
  actorRef : String
  snapshotHash : String
  createdAt : Int

/-- `audit_events` -/
structure AuditEvent (numbers : Set Rat) where
  sequenceId : Int
  tenantId : String
  eventType : String
  aggregateType : String
  aggregateId : String
  metadata : Jsonb numbers
  occurredAt : Int
  eventHash : String

structure Database (numbers : Set Rat) where
  tenants : List (Tenant numbers)
  templates : List ProductTemplate
  institutions : List Institution
  tenantInstitutions : List TenantInstitution
  products : List (Product numbers)
  configurations : List ProductConfiguration
  roleAssignments : List RoleAssignment
  requirements : List EvidenceRequirement
  evidence : List ActivationEvidence
  -- by tenant
  onboardingApprovals : List (String × Approval)
  activationApprovals : List Approval
  snapshots : List ConfigurationSnapshot
  auditEvents : List (AuditEvent numbers)

/-- What is left open: the hash and the texts of the runtime, the number that
JavaScript reads for an integer column, and the order of texts in the database. -/
structure Runtime (numbers : Set Rat) where
  platform : Platform
  double : Int → numbers
  textLe : String → String → Bool

variable {numbers : Set Rat} (runtime : Runtime numbers)

section Values

def optionalText (text : Option String) : JsValue := (text.map JsValue.string).getD .null

def optionalDate (time : Option Int) : JsValue := (time.map JsValue.date).getD .null

def Runtime.number (value : Int) : JsValue := .number (runtime.double value)

def reviewValue (row : Approval) : JsValue :=
  .object
    [("round", runtime.number row.approvalRound), ("role", .string row.role), ("actorRef", .string row.actorRef),
      ("decision", .string row.decision), ("reason", .string row.reason), ("createdAt", .date row.createdAt)]

def institutionValue (row : Institution × TenantInstitution) (reviews : List Approval) : JsValue :=
  .object
    [("id", .string row.1.id), ("legalName", .string row.1.legalName), ("jurisdiction", .string row.1.jurisdiction),
      ("status", .string row.1.status), ("onboardingStatus", .string row.2.onboardingStatus),
      ("externalReference", optionalText row.2.externalReference),
      ("reviews", .array (reviews.map (reviewValue runtime)))]

/-- The columns of evidence are null for a requirement without evidence. -/
def requirementValue (row : EvidenceRequirement × Option ActivationEvidence) : JsValue :=
  .object
    [("code", .string row.1.requirementCode), ("responsibleRole", .string row.1.responsibleRole),
      ("description", .string row.1.description), ("mandatory", .bool row.1.mandatory),
      ("status", .string row.1.status), ("evidenceId", optionalText row.1.evidenceId),
      ("expiresAt", optionalDate (row.2.map (·.expiresAt))),
      ("contentHash", optionalText (row.2.map (·.contentHash))),
      ("sourceInstitutionId", optionalText (row.2.map (·.sourceInstitutionId))),
      ("verificationStatus", optionalText (row.2.map (·.verificationStatus))),
      ("signingKeyId", optionalText (row.2.bind (·.signingKeyId))),
      ("signatureAlgorithm", optionalText (row.2.bind (·.signatureAlgorithm))),
      ("canonicalPayloadHash", optionalText (row.2.bind (·.canonicalPayloadHash))),
      ("verifierVersion", optionalText (row.2.bind (·.verifierVersion))),
      ("verifiedAt", optionalDate (row.2.bind (·.verifiedAt)))]

/-- `jsonb_object_agg(role, institution_id)` -/
def rolesValue (rows : List RoleAssignment) : JsValue :=
  .object ((rows.foldl (fun roles row => roles.set row.role (.string row.institutionId)) js_map.empty).entries)

def productValue (row : Product numbers × ProductConfiguration) (roles : List RoleAssignment)
    (requirements : List (EvidenceRequirement × Option ActivationEvidence)) (approvals : List Approval) : JsValue :=
  .object
    [("id", .string row.1.id), ("name", .string row.1.name), ("jurisdiction", .string row.1.jurisdiction),
      ("issuerId", .string row.1.issuerId), ("currency", .string row.1.currency), ("status", .string row.1.status),
      ("ruleVersion", runtime.number row.1.ruleVersion), ("rules", row.1.rules.value),
      ("templateId", .string row.2.templateId), ("configurationStatus", .string row.2.configurationStatus),
      ("configurationVersion", runtime.number row.2.configurationVersion), ("roles", rolesValue roles),
      ("evidenceRequirements", .array (requirements.map requirementValue)),
      ("activationApprovals", .array (approvals.map (reviewValue runtime)))]

def snapshotValue (row : ConfigurationSnapshot) : JsValue :=
  .object
    [("productId", .string row.productId), ("configurationVersion", runtime.number row.configurationVersion),
      ("eventType", .string row.eventType), ("actorRef", .string row.actorRef),
      ("snapshotHash", .string row.snapshotHash), ("createdAt", .date row.createdAt)]

def auditEventValue (row : AuditEvent numbers) : JsValue :=
  .object
    [("sequenceId", runtime.number row.sequenceId), ("eventType", .string row.eventType),
      ("aggregateType", .string row.aggregateType), ("aggregateId", .string row.aggregateId),
      ("metadata", row.metadata.value), ("occurredAt", .date row.occurredAt), ("eventHash", .string row.eventHash)]

def templateValue (row : ProductTemplate) : JsValue :=
  .object
    [("id", .string row.id), ("assetClass", .string row.assetClass), ("version", runtime.number row.version)]

def tenantValue (row : Tenant numbers) : JsValue :=
  .object
    [("id", .string row.id), ("legalName", .string row.legalName), ("homeJurisdiction", .string row.homeJurisdiction),
      ("dataRegion", .string row.dataRegion), ("status", .string row.status),
      ("configuration", row.configuration.value)]

end Values

section Queries

variable (db : Database numbers) (tenantId : String)

/-- `ORDER BY` a text, and then by the rest. -/
def Runtime.orderBy {α : Type} (key : α → String) (rest : α → α → Bool) (first second : α) : Bool :=
  runtime.textLe (key first) (key second) && (key first ≠ key second || rest first second)

def sorted {α : Type} (before : α → α → Bool) (rows : List α) : List α :=
  rows.insertionSort fun first second => before first second = true

def activeTemplates : List ProductTemplate :=
  sorted (runtime.orderBy (·.assetClass) fun first second => second.version ≤ first.version)
    (db.templates.filter (·.status = "ACTIVE"))

def institutionsOf : List (Institution × TenantInstitution) :=
  sorted (runtime.orderBy (·.1.legalName) (runtime.orderBy (·.1.id) fun _ _ => true))
    ((db.tenantInstitutions.filter (·.tenantId = tenantId)).filterMap fun row =>
      (db.institutions.find? (·.id = row.institutionId)).map (·, row))

def productsOf : List (Product numbers × ProductConfiguration) :=
  sorted (fun first second => first.2.createdAt < second.2.createdAt ||
      first.2.createdAt = second.2.createdAt && runtime.textLe first.1.id second.1.id)
    ((db.configurations.filter (·.tenantId = tenantId)).filterMap fun row =>
      (db.products.find? (·.id = row.productId)).map (·, row))

def rolesOf (productId : String) : List RoleAssignment :=
  db.roleAssignments.filter fun row => row.productId = productId ∧ row.endedAt = none

def evidenceOf (evidenceId : Option String) : Option ActivationEvidence :=
  evidenceId.bind fun id => db.evidence.find? (·.id = id)

/-- The requirements of a product, as they are grouped by product. -/
def requirementsOf (productId : String) : List (EvidenceRequirement × Option ActivationEvidence) :=
  (sorted (runtime.orderBy (·.requirementCode) fun _ _ => true)
    (db.requirements.filter (·.productId = productId))).map fun row => (row, evidenceOf db row.evidenceId)

/-- `ORDER BY approval_round, role DESC` -/
def reviewOrder (first second : Approval) : Bool :=
  first.approvalRound < second.approvalRound ||
    first.approvalRound = second.approvalRound && runtime.textLe second.role first.role

def onboardingReviewsOf (institutionId : String) : List Approval :=
  sorted (reviewOrder runtime)
    ((db.onboardingApprovals.filter fun row => row.1 = tenantId ∧ row.2.subjectId = institutionId).map Prod.snd)

def activationApprovalsOf (productId : String) : List Approval :=
  sorted (reviewOrder runtime) (db.activationApprovals.filter (·.subjectId = productId))

def snapshotsOf : List ConfigurationSnapshot :=
  (sorted (fun first second => second.sequenceId ≤ first.sequenceId)
    (db.snapshots.filter (·.tenantId = tenantId))).take 500

def auditEventsOf : List (AuditEvent numbers) :=
  (sorted (fun first second => second.sequenceId ≤ first.sequenceId)
    (db.auditEvents.filter fun row =>
      row.tenantId = tenantId ∧ row.aggregateType ∈ ["product", "institution", "tenant"])).take 1000

end Queries

/-- What `list` answers. Of the templates the export takes a part. -/
structure Catalog where
  tenant : JsValue
  templates : List ProductTemplate
  institutions : List JsValue
  products : List JsValue

def list (db : Database numbers) (tenantId : String) : Except Failure Catalog := do
  let tenantId ← requireString (some tenantId) "tenantId" 3 63 tenantIdPattern
  let tenant ← require (db.tenants.find? (·.id = tenantId)) ⟨"UNKNOWN_TENANT", "tenant not found"⟩
  .ok
    { tenant := tenantValue tenant
      templates := activeTemplates runtime db
      institutions := (institutionsOf runtime db tenantId).map fun row =>
        institutionValue runtime row (onboardingReviewsOf runtime db tenantId row.1.id)
      products := (productsOf runtime db tenantId).map fun row =>
        productValue runtime row (rolesOf db row.1.id) (requirementsOf runtime db row.1.id)
          (activationApprovalsOf runtime db row.1.id) }

/-- An export: the members of the report, and their hash. -/
structure AuditExport where
  report : List (String × JsValue)
  exportHash : String

def reportOf (db : Database numbers) (tenantId : String) (now : Int) (catalog : Catalog) : List (String × JsValue) :=
  [("generatedAt", .string (runtime.platform.isoText now)), ("tenant", catalog.tenant),
    ("templates", .array (catalog.templates.map (templateValue runtime))),
    ("institutions", .array catalog.institutions), ("products", .array catalog.products),
    ("snapshots", .array ((snapshotsOf db tenantId).map (snapshotValue runtime))),
    ("auditEvents", .array ((auditEventsOf db tenantId).map (auditEventValue runtime)))]

def auditExport (db : Database numbers) (tenantId : String) (now : Int) : Except Failure AuditExport := do
  let catalog ← list runtime db tenantId
  let report := reportOf runtime db tenantId now catalog
  let exportHash ← sha256Canonical runtime.platform (.object report)
  return { report, exportHash }

/-- The members of the delivered report, without its hash. -/
def AuditExport.delivered (platform : Platform) (result : AuditExport) : List (String × JsValue) :=
  (jsonMembers platform.isoText (result.report ++ [("exportHash", .string result.exportHash)])).filter
    (·.1 ≠ "exportHash")

section Dates

variable {runtime} {db : Database numbers} {tenantId : String} {now : Int}

/-- A list of rows is exported as JSON with dates, and has a date if some row has. -/
private theorem array_map {α : Type} {rows : List α} {value : α → JsValue}
    (h : ∀ row ∈ rows, IsDatedJson numbers (value row)) :
    IsDatedJson numbers (.array (rows.map value)) ∧
      hasDate (.array (rows.map value)) = rows.any fun row => hasDate (value row) := by
  constructor
  · refine .array fun item hmem => ?_
    obtain ⟨row, hrow, rfl⟩ := List.mem_map.mp hmem
    exact h row hrow
  · rw [hasDate, hasDateItems_eq, List.any_map]
    rfl

private theorem number_dated {value : Int} :
    IsDatedJson numbers (runtime.number value) ∧ hasDate (runtime.number value) = false :=
  ⟨.number (runtime.double value).2, rfl⟩

private theorem optionalText_dated {text : Option String} :
    IsDatedJson numbers (optionalText text) ∧ hasDate (optionalText text) = false := by
  cases text with
  | none => exact ⟨.null, rfl⟩
  | some text => exact ⟨.string, rfl⟩

private theorem optionalDate_dated {time : Option Int} :
    IsDatedJson numbers (optionalDate time) ∧ hasDate (optionalDate time) = time.isSome := by
  cases time with
  | none => exact ⟨.null, rfl⟩
  | some time => exact ⟨.date, rfl⟩

private theorem reviewValue_dated {row : Approval} :
    IsDatedJson numbers (reviewValue runtime row) ∧ hasDate (reviewValue runtime row) = true := by
  constructor
  · refine .object (by simp) ?_
    simp [number_dated, IsDatedJson.string, IsDatedJson.date]
  · simp [reviewValue, hasDate, hasDateMembers]

private theorem institutionValue_dated {row : Institution × TenantInstitution} {reviews : List Approval} :
    IsDatedJson numbers (institutionValue runtime row reviews) ∧
      hasDate (institutionValue runtime row reviews) = !reviews.isEmpty := by
  have hreviews := @array_map numbers _ reviews (reviewValue runtime) fun _ _ => reviewValue_dated.1
  constructor
  · refine .object (by simp) ?_
    simp [IsDatedJson.string, optionalText_dated, hreviews.1]
  · rw [institutionValue, hasDate]
    simp only [hasDateMembers, hreviews.2, (@optionalText_dated numbers _).2, reviewValue_dated.2]
    cases reviews <;> simp [hasDate]

private theorem requirementValue_dated {row : EvidenceRequirement × Option ActivationEvidence} :
    IsDatedJson numbers (requirementValue row) ∧ hasDate (requirementValue row) = row.2.isSome := by
  constructor
  · refine .object (by simp) ?_
    simp [IsDatedJson.string, IsDatedJson.bool, optionalText_dated, optionalDate_dated]
  · rw [requirementValue, hasDate]
    simp only [hasDateMembers, (@optionalText_dated numbers _).2, (@optionalDate_dated numbers _).2]
    cases row.2 <;> simp [hasDate]

private theorem rolesValue_json {rows : List RoleAssignment} : IsJson numbers (rolesValue rows) := by
  have hvalues : ∀ {map : js_map.JsMap String JsValue}, (∀ member ∈ map.entries, ∃ text, member.2 = .string text) →
      ∀ member ∈ (rows.foldl (fun roles row => roles.set row.role (.string row.institutionId)) map).entries,
        ∃ text, member.2 = .string text := by
    induction rows with
    | nil => exact fun h => h
    | cons row rest ih =>
      intro map hmap
      refine ih ?_
      rintro ⟨role, value⟩ hmem
      rw [js_map.mem_entries, js_map.get_set] at hmem
      split at hmem
      · exact ⟨_, (Option.some.inj hmem).symm⟩
      · exact hmap _ (js_map.mem_entries.mpr hmem)
  refine .object (js_map.JsMap.nodup _) fun member hmem => ?_
  obtain ⟨text, htext⟩ := hvalues (by simp [js_map.empty]) member hmem
  rw [htext]
  exact .string

private theorem productValue_dated {row : Product numbers × ProductConfiguration} {roles : List RoleAssignment}
    {requirements : List (EvidenceRequirement × Option ActivationEvidence)} {approvals : List Approval} :
    IsDatedJson numbers (productValue runtime row roles requirements approvals) ∧
      hasDate (productValue runtime row roles requirements approvals) =
        (requirements.any (·.2.isSome) || !approvals.isEmpty) := by
  have happrovals := @array_map numbers _ approvals (reviewValue runtime) fun _ _ => reviewValue_dated.1
  have hrequirements := @array_map numbers _ requirements requirementValue fun _ _ => requirementValue_dated.1
  have hroles := (@rolesValue_json numbers roles).dated
  have hrules := row.1.rules.json.dated
  constructor
  · refine .object (by simp) ?_
    simp [IsDatedJson.string, number_dated, happrovals.1, hrequirements.1, hroles.1, hrules.1]
  · rw [productValue, hasDate]
    simp only [hasDateMembers, hrequirements.2, happrovals.2, hroles.2, hrules.2, number_dated.2,
      (@requirementValue_dated numbers _).2, reviewValue_dated.2]
    cases approvals <;> simp [hasDate]

private theorem snapshotValue_dated {row : ConfigurationSnapshot} :
    IsDatedJson numbers (snapshotValue runtime row) ∧ hasDate (snapshotValue runtime row) = true := by
  constructor
  · refine .object (by simp) ?_
    simp [IsDatedJson.string, IsDatedJson.date, number_dated]
  · simp [snapshotValue, hasDate, hasDateMembers]

private theorem auditEventValue_dated {row : AuditEvent numbers} :
    IsDatedJson numbers (auditEventValue runtime row) ∧ hasDate (auditEventValue runtime row) = true := by
  constructor
  · refine .object (by simp) ?_
    simp [IsDatedJson.string, IsDatedJson.date, number_dated, row.metadata.json.dated.1]
  · simp [auditEventValue, hasDate, hasDateMembers]

private theorem templateValue_json {row : ProductTemplate} : IsJson numbers (templateValue runtime row) := by
  refine .object (by simp) ?_
  simp [IsJson.string, Runtime.number, IsJson.number]

private theorem tenantValue_json {row : Tenant numbers} : IsJson numbers (tenantValue row) := by
  refine .object (by simp) ?_
  simp [IsJson.string, row.configuration.json]

/-- An export without dates: no review of an institution or an activation, no
evidence, no snapshot and no audit event is in it. -/
structure Undated (runtime : Runtime numbers) (db : Database numbers) (tenantId : String) : Prop where
  onboardingReviews : ∀ row ∈ institutionsOf runtime db tenantId, onboardingReviewsOf runtime db tenantId row.1.id = []
  evidence : ∀ row ∈ productsOf runtime db tenantId, ∀ requirement ∈ requirementsOf runtime db row.1.id,
    requirement.2 = none
  activationApprovals : ∀ row ∈ productsOf runtime db tenantId, activationApprovalsOf runtime db row.1.id = []
  snapshots : snapshotsOf db tenantId = []
  auditEvents : auditEventsOf db tenantId = []

theorem list_eq_ok {catalog : Catalog} (h : list runtime db tenantId = .ok catalog) :
    ∃ tenant ∈ db.tenants, catalog =
      { tenant := tenantValue tenant
        templates := activeTemplates runtime db
        institutions := (institutionsOf runtime db tenantId).map fun row =>
          institutionValue runtime row (onboardingReviewsOf runtime db tenantId row.1.id)
        products := (productsOf runtime db tenantId).map fun row =>
          productValue runtime row (rolesOf db row.1.id) (requirementsOf runtime db row.1.id)
            (activationApprovalsOf runtime db row.1.id) } := by
  simp only [list, bind_eq_ok_iff, require_eq_ok_iff, Except.ok.injEq] at h
  obtain ⟨_, hid, tenant, hfind, rfl⟩ := h
  rw [requireString] at hid
  split at hid
  · cases hid
  · obtain rfl := Except.ok.inj hid
    exact ⟨tenant, List.mem_of_find?_eq_some hfind, rfl⟩

/-- The report is JSON with dates, and has none exactly when its rows have none. -/
theorem reportOf_dated {catalog : Catalog} (h : list runtime db tenantId = .ok catalog) :
    IsDatedJson numbers (.object (reportOf runtime db tenantId now catalog)) ∧
      (hasDate (.object (reportOf runtime db tenantId now catalog)) = false ↔ Undated runtime db tenantId) := by
  obtain ⟨tenant, -, rfl⟩ := list_eq_ok h
  have htemplates := @array_map numbers _ (activeTemplates runtime db) (templateValue runtime)
    fun _ _ => templateValue_json.dated.1
  have hinstitutions := @array_map numbers _ (institutionsOf runtime db tenantId)
    (fun row => institutionValue runtime row (onboardingReviewsOf runtime db tenantId row.1.id))
    fun _ _ => institutionValue_dated.1
  have hproducts := @array_map numbers _ (productsOf runtime db tenantId)
    (fun row => productValue runtime row (rolesOf db row.1.id) (requirementsOf runtime db row.1.id)
      (activationApprovalsOf runtime db row.1.id)) fun _ _ => productValue_dated.1
  have hsnapshots := @array_map numbers _ (snapshotsOf db tenantId) (snapshotValue runtime)
    fun _ _ => snapshotValue_dated.1
  have hevents := @array_map numbers _ (auditEventsOf db tenantId) (auditEventValue runtime)
    fun _ _ => auditEventValue_dated.1
  have htenant := (@tenantValue_json numbers tenant).dated
  constructor
  · refine .object (by simp [reportOf]) ?_
    simp [reportOf, IsDatedJson.string, htenant.1, htemplates.1, hinstitutions.1, hproducts.1, hsnapshots.1, hevents.1]
  · rw [reportOf, hasDate]
    simp only [hasDateMembers, htenant.2, htemplates.2, hinstitutions.2, hproducts.2, hsnapshots.2, hevents.2,
      institutionValue_dated.2, productValue_dated.2, snapshotValue_dated.2, auditEventValue_dated.2,
      templateValue_json.dated.2]
    simp only [hasDate, Bool.false_or, Bool.or_false, Bool.or_eq_false_iff, List.any_eq_false, Bool.not_eq_true,
      Bool.not_eq_false', List.isEmpty_iff, Option.isSome_eq_false_iff, Option.isNone_iff_eq_none]
    constructor
    · rintro ⟨-, hreviews, hrows, hshots, hall⟩
      exact
        { onboardingReviews := hreviews
          evidence := fun row hrow requirement hmem => (hrows row hrow).1 requirement hmem
          activationApprovals := fun row hrow => (hrows row hrow).2
          snapshots := List.eq_nil_iff_forall_not_mem.mpr fun row hmem => absurd (hshots row hmem) (by simp)
          auditEvents := List.eq_nil_iff_forall_not_mem.mpr fun row hmem => absurd (hall row hmem) (by simp) }
    · intro hdates
      refine ⟨fun _ _ => trivial, hdates.onboardingReviews, fun row hrow => ⟨hdates.evidence row hrow,
        hdates.activationApprovals row hrow⟩, ?_, ?_⟩
      · simp [hdates.snapshots]
      · simp [hdates.auditEvents]

end Dates

section Hash

variable {runtime} {db otherDb : Database numbers} {tenantId otherId : String} {now otherNow : Int}
  {result first second : AuditExport} {readNumber : String → Option Rat}

/-- The hash of an export is recomputed from the delivered report. -/
def AuditExport.Recomputed (platform : Platform) (result : AuditExport) : Prop :=
  sha256Canonical platform (.object (result.delivered platform)) = .ok result.exportHash

/-- The texts that are hashed for an export, and for what is delivered of it. -/
def AuditExport.hashedTexts (platform : Platform) (result : AuditExport) : Set String :=
  {text | canonicalize platform.numberText (.object result.report) = .ok (some text) ∨
    canonicalize platform.numberText (.object (result.delivered platform)) = .ok (some text)}

private theorem auditExport_eq_ok (h : auditExport runtime db tenantId now = .ok result) :
    ∃ catalog, list runtime db tenantId = .ok catalog ∧ result.report = reportOf runtime db tenantId now catalog ∧
      sha256Canonical runtime.platform (.object result.report) = .ok result.exportHash := by
  simp only [auditExport, bind_eq_ok_iff, pure_eq_ok_iff] at h
  obtain ⟨catalog, hlist, exportHash, hhash, rfl⟩ := h
  exact ⟨catalog, hlist, rfl, hhash⟩

/-- What is delivered is the report with the texts of its dates. -/
theorem delivered_eq (h : auditExport runtime db tenantId now = .ok result) :
    JsValue.object (result.delivered runtime.platform) =
      mapDates (fun time => .string (runtime.platform.isoText time)) (.object result.report) := by
  obtain ⟨catalog, hlist, hreport, -⟩ := auditExport_eq_ok h
  have hdated := (@reportOf_dated numbers runtime db tenantId now catalog hlist).1
  rw [← hreport] at hdated
  have hkeys : ∀ member ∈ result.report, member.1 ≠ "exportHash" := by
    rw [hreport]
    simp [reportOf]
  have hcopy := @IsDatedJson.jsonCopy numbers runtime.platform.isoText _ hdated
  rw [jsonCopy, mapDates, mapDatesMembers_eq, Option.some.injEq, JsValue.object.injEq] at hcopy
  have happend : ∀ members, jsonMembers runtime.platform.isoText
      (members ++ [("exportHash", .string result.exportHash)]) =
        jsonMembers runtime.platform.isoText members ++ [("exportHash", .string result.exportHash)] := by
    intro members
    induction members with
    | nil => rfl
    | cons member rest ih =>
      rw [List.cons_append, jsonMembers, jsonMembers, ih]
      split <;> rfl
  rw [AuditExport.delivered, happend, hcopy, mapDates, mapDatesMembers_eq, List.filter_append]
  simp only [ne_eq, decide_not, List.filter_cons, decide_true, Bool.not_true, Bool.false_eq_true, if_false,
    List.filter_nil, List.append_nil]
  refine congrArg JsValue.object (List.filter_eq_self.mpr fun member hmem => ?_)
  obtain ⟨source, hsource, rfl⟩ := List.mem_map.mp hmem
  simpa using hkeys source hsource

/-- The hash is the one of the text of the report, which has an empty object for every
date, and a report has a text. -/
private theorem hash_eq (h : auditExport runtime db tenantId now = .ok result) :
    IsDatedJson numbers (.object result.report) ∧
      (hasDate (.object result.report) = false ↔ Undated runtime db tenantId) ∧
      ∃ text, canonicalize runtime.platform.numberText (.object result.report) = .ok (some text) ∧
        result.exportHash = runtime.platform.sha256 text := by
  obtain ⟨catalog, hlist, hreport, hhash⟩ := auditExport_eq_ok h
  obtain ⟨hdated, hdates⟩ := @reportOf_dated numbers runtime db tenantId now catalog hlist
  rw [← hreport] at hdated hdates
  refine ⟨hdated, hdates, ?_⟩
  have hjson : IsJson numbers (mapDates (fun _ => .object []) (.object result.report)) :=
    hdated.map fun _ => isJson_empty
  have htext := @IsJson.canonicalize_eq runtime.platform.numberText numbers _ hjson
  rw [hdated.canonicalize_blank] at htext
  refine ⟨_, htext, ?_⟩
  rw [sha256Canonical, htext] at hhash
  exact (Except.ok.inj hhash).symm

/-- The hash of an export is recomputed from what is delivered exactly when no date
is in the export. -/
theorem recomputed_iff (h : auditExport runtime db tenantId now = .ok result)
    (htexts : NumberTexts numbers runtime.platform.numberText readNumber)
    (hsha : (result.hashedTexts runtime.platform).InjOn runtime.platform.sha256) :
    result.Recomputed runtime.platform ↔ Undated runtime db tenantId := by
  obtain ⟨hdated, hdates, text, htext, hhash⟩ := hash_eq h
  have hblank : ∀ time : Int, IsJson numbers (JsValue.object []) := fun _ => isJson_empty
  have hiso : ∀ time, IsJson numbers (.string (runtime.platform.isoText time)) := fun _ => .string
  have hwritten : ∀ time, ¬SameJson (.object []) (.string (runtime.platform.isoText time)) := by
    intro time hsame
    cases hsame
  have hdelivered := @IsJson.canonicalize_eq runtime.platform.numberText numbers _ (hdated.map hiso)
  rw [← hdates, ← hdated.same_map_iff hblank hwritten, ← canonicalize_eq_iff htexts (hdated.map hblank)
    (hdated.map hiso), hdated.canonicalize_blank, htext, AuditExport.Recomputed, sha256Canonical, delivered_eq h]
  rw [← delivered_eq h] at hdelivered ⊢
  rw [hdelivered]
  simp only [Except.ok.injEq, Option.some.injEq]
  rw [hhash]
  constructor
  · intro hsame
    exact (hsha (Or.inr hdelivered) (Or.inl htext) hsame).symm
  · intro hsame
    rw [hsame]

/-- The export of a tenant that is listed is made. -/
theorem auditExport_of_list {catalog : Catalog} (h : list runtime db tenantId = .ok catalog) :
    ∃ result, auditExport runtime db tenantId now = .ok result ∧
      result.report = reportOf runtime db tenantId now catalog := by
  have hdated := (@reportOf_dated numbers runtime db tenantId now catalog h).1
  have hjson : IsJson numbers (mapDates (fun _ => .object []) (.object (reportOf runtime db tenantId now catalog))) :=
    hdated.map fun _ => isJson_empty
  have htext := @IsJson.canonicalize_eq runtime.platform.numberText numbers _ hjson
  rw [hdated.canonicalize_blank] at htext
  simp only [auditExport, h, sha256Canonical, htext, bind, Except.bind]
  exact ⟨_, rfl, rfl⟩

/-- The hashes of two exports cover them: both are recomputed from what is delivered,
and they differ when what is delivered differs, up to the order of keys. This is so
exactly when no date is in either export: the hash is taken before the dates are
written, and the canonical text of a date is that of an empty object. -/
theorem audit_export_hash_covers_iff (hfirst : auditExport runtime db tenantId now = .ok first)
    (hsecond : auditExport runtime otherDb otherId otherNow = .ok second)
    (htexts : NumberTexts numbers runtime.platform.numberText readNumber)
    (hsha : (first.hashedTexts runtime.platform ∪ second.hashedTexts runtime.platform).InjOn runtime.platform.sha256) :
    (first.Recomputed runtime.platform ∧ second.Recomputed runtime.platform ∧
        (¬SameJson (.object (first.delivered runtime.platform)) (.object (second.delivered runtime.platform)) →
          first.exportHash ≠ second.exportHash)) ↔
      Undated runtime db tenantId ∧ Undated runtime otherDb otherId := by
  have hfirstIff := recomputed_iff hfirst htexts (hsha.mono Set.subset_union_left)
  have hsecondIff := recomputed_iff hsecond htexts (hsha.mono Set.subset_union_right)
  constructor
  · rintro ⟨hcovers, hcovers', -⟩
    exact ⟨hfirstIff.mp hcovers, hsecondIff.mp hcovers'⟩
  · rintro ⟨hundated, hundated'⟩
    refine ⟨hfirstIff.mpr hundated, hsecondIff.mpr hundated', fun hdiffer hsame => hdiffer ?_⟩
    obtain ⟨hdated, hdates, text, htext, hhash⟩ := hash_eq hfirst
    obtain ⟨hdated', hdates', text', htext', hhash'⟩ := hash_eq hsecond
    have hiso : ∀ time, IsJson numbers (.string (runtime.platform.isoText time)) := fun _ => .string
    rw [hhash, hhash'] at hsame
    obtain rfl := hsha (Or.inl (Or.inl htext)) (Or.inr (Or.inl htext')) hsame
    rw [delivered_eq hfirst, delivered_eq hsecond, ← canonicalize_eq_iff htexts (hdated.map hiso) (hdated'.map hiso),
      hdated.map_eq_self (hdates.mpr hundated), hdated'.map_eq_self (hdates'.mpr hundated'), htext, htext']

end Hash

section Sample

/-- A runtime with the number one. -/
private def sampleRuntime : Runtime {1} where
  platform :=
    { sha256 := id
      numberText := fun _ => "1"
      isoText := fun time => if time = 1 then "2026-01-01T00:00:00.001Z" else "2026-01-01T00:00:00.000Z" }
  double _ := ⟨1, rfl⟩
  textLe first second := decide (keyLe first second)

private def sampleReadNumber (text : String) : Option Rat := if text = "1" then some 1 else none

private theorem sampleNumberTexts : NumberTexts {1} sampleRuntime.platform.numberText sampleReadNumber where
  nonempty := by
    rintro value rfl
    decide
  chars := by
    rintro value rfl
    simp [sampleRuntime, isNumberChar]
  reads := by
    rintro value rfl
    simp [sampleRuntime, sampleReadNumber]

private def sampleConfiguration : Jsonb {1} :=
  ⟨.object [("syntheticOnly", .bool true)], .object (by simp) (by simp [IsJson.bool])⟩

/-- The sandbox tenant after the migrations, with the given audit events. -/
private def sampleDatabase (auditEvents : List (AuditEvent {1})) : Database {1} where
  tenants := [⟨"sandbox-hk", "RWA Synthetic Sandbox", "HK", "hk-local", "ACTIVE", sampleConfiguration⟩]
  templates := [⟨"FUND_V1", "FUND", 1, "ACTIVE"⟩]
  institutions := []
  tenantInstitutions := []
  products := []
  configurations := []
  roleAssignments := []
  requirements := []
  evidence := []
  onboardingApprovals := []
  activationApprovals := []
  snapshots := []
  auditEvents

/-- The sandbox tenant was provisioned at a time. -/
private def sampleEvent (occurredAt : Int) : AuditEvent {1} where
  sequenceId := 1
  tenantId := "sandbox-hk"
  eventType := "tenant.provisioned"
  aggregateType := "tenant"
  aggregateId := "sandbox-hk"
  metadata := ⟨.object [("actorRef", .string "platform-operator")], .object (by simp) (by simp [IsJson.string])⟩
  occurredAt
  eventHash := "e1"

private def sampleExport (auditEvents : List (AuditEvent {1})) : Except Failure AuditExport :=
  auditExport sampleRuntime (sampleDatabase auditEvents) "sandbox-hk" 0

private def sampleReport (auditEvents : List (AuditEvent {1})) : List (String × JsValue) :=
  [("generatedAt", .string "2026-01-01T00:00:00.000Z"),
    ("tenant", .object
      [("id", .string "sandbox-hk"), ("legalName", .string "RWA Synthetic Sandbox"), ("homeJurisdiction", .string "HK"),
        ("dataRegion", .string "hk-local"), ("status", .string "ACTIVE"),
        ("configuration", .object [("syntheticOnly", .bool true)])]),
    ("templates", .array [.object [("id", .string "FUND_V1"), ("assetClass", .string "FUND"), ("version", .number 1)]]),
    ("institutions", .array []), ("products", .array []), ("snapshots", .array []),
    ("auditEvents", .array (auditEvents.map (auditEventValue sampleRuntime)))]

private theorem sampleExport_ok (auditEvents : List (AuditEvent {1}))
    (h : auditEventsOf (sampleDatabase auditEvents) "sandbox-hk" = auditEvents) :
    ∃ result, sampleExport auditEvents = .ok result ∧ result.report = sampleReport auditEvents := by
  have hlist : ∃ catalog, list sampleRuntime (sampleDatabase auditEvents) "sandbox-hk" = .ok catalog := ⟨_, rfl⟩
  obtain ⟨catalog, hcatalog⟩ := hlist
  obtain ⟨result, hresult, hreport⟩ := @auditExport_of_list _ _ _ _ 0 _ hcatalog
  obtain rfl := Except.ok.inj hcatalog
  refine ⟨result, hresult, hreport.trans ?_⟩
  simp only [reportOf, h]
  rfl

/-- An audit event is in the export with its time, which the hash does not cover: what
is recomputed from the delivered report differs, and an export with another time of
the event has the same hash. -/
theorem export_hash_misses_dates :
    ∃ first second, sampleExport [sampleEvent 0] = .ok first ∧ sampleExport [sampleEvent 1] = .ok second ∧
      ¬first.Recomputed sampleRuntime.platform ∧
      ¬SameJson (.object (first.delivered sampleRuntime.platform)) (.object (second.delivered sampleRuntime.platform)) ∧
      first.exportHash = second.exportHash := by
  obtain ⟨first, hfirst, hreport⟩ := sampleExport_ok [sampleEvent 0] rfl
  obtain ⟨second, hsecond, hreport'⟩ := sampleExport_ok [sampleEvent 1] rfl
  refine ⟨first, second, hfirst, hsecond, ?_, ?_, ?_⟩
  · rw [recomputed_iff hfirst sampleNumberTexts Function.injective_id.injOn]
    intro hundated
    cases hundated.auditEvents
  · rw [delivered_eq hfirst, delivered_eq hsecond, hreport, hreport']
    intro hsame
    have hevents := hsame.member (List.mem_of_getElem? (i := 6) rfl)
    simp only [sampleReport, List.map_cons, List.map_nil, mapDatesMembers, List.mem_cons, Prod.mk.injEq,
      List.not_mem_nil, or_false, false_and, false_or, String.reduceEq, true_and, exists_eq_left, mapDates,
      mapDatesItems, auditEventValue] at hevents
    cases hevents with
    | array _ hitems =>
      have hevent := hitems _ List.mem_cons_self
      obtain ⟨time, htime, hsameTime⟩ := hevent.member (List.mem_of_getElem? (i := 5) rfl)
      simp [mapDatesMembers, mapDates, sampleRuntime, sampleEvent] at htime
      subst htime
      exact absurd hsameTime.text_eq (by decide)
  · obtain ⟨-, -, text, htext, hhash⟩ := hash_eq hfirst
    obtain ⟨-, -, text', htext', hhash'⟩ := hash_eq hsecond
    have hsame : canonicalize sampleRuntime.platform.numberText (.object first.report) =
        canonicalize sampleRuntime.platform.numberText (.object second.report) := by
      rw [hreport, hreport']
      rfl
    rw [hhash, hhash', Option.some.inj (Except.ok.inj (htext.symm.trans (hsame.trans htext')))]

/-- Before anything happened the hash covers the exports. -/
theorem audit_export_hash_covers_iff_sample :
    ∃ first second, sampleExport [] = .ok first ∧ sampleExport [sampleEvent 1] = .ok second ∧
      ((first.Recomputed sampleRuntime.platform ∧ second.Recomputed sampleRuntime.platform ∧
        (¬SameJson (.object (first.delivered sampleRuntime.platform))
            (.object (second.delivered sampleRuntime.platform)) →
          first.exportHash ≠ second.exportHash)) ↔
      Undated sampleRuntime (sampleDatabase []) "sandbox-hk" ∧
        Undated sampleRuntime (sampleDatabase [sampleEvent 1]) "sandbox-hk") := by
  obtain ⟨first, hfirst, -⟩ := sampleExport_ok [] rfl
  obtain ⟨second, hsecond, -⟩ := sampleExport_ok [sampleEvent 1] rfl
  exact ⟨first, second, hfirst, hsecond,
    audit_export_hash_covers_iff hfirst hsecond sampleNumberTexts Function.injective_id.injOn⟩

end Sample

end rwa.audit_export
