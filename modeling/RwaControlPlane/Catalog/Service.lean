import RwaControlPlane.Catalog.Inputs

open checked js_value
open rwa.gate (ProductStatus uniqueViolation)

namespace rwa.catalog

def checkViolation : Failure := ⟨"23514", "new row violates check constraint"⟩

/-- A product with its configuration and the roles of its template. -/
structure LockedProduct where
  id : String
  status : ProductStatus
  templateId : String
  configurationStatus : ConfigurationStatus
  configurationVersion : Nat
  requiredRoles : List String

namespace Database

def findTenant (db : Database) (tenantId : String) : Option Tenant := db.tenants.find? (·.id = tenantId)

def findTenantInstitution (db : Database) (tenantId institutionId : String) : Option TenantInstitution :=
  db.tenantInstitutions.find? fun row => row.tenantId = tenantId && row.institutionId = institutionId

def findSigningKey (db : Database) (institutionId keyId : String) : Option SigningKey :=
  db.signingKeys.find? fun row => row.institutionId = institutionId && row.keyId = keyId

def findProduct (db : Database) (productId : String) : Option Product := db.products.find? (·.id = productId)

def findConfiguration (db : Database) (productId : String) : Option ProductConfiguration :=
  db.configurations.find? (·.productId = productId)

def findTemplate (db : Database) (templateId : String) : Option ProductTemplate :=
  db.templates.find? (·.id = templateId)

def findRequirement (db : Database) (productId requirementCode : String) : Option EvidenceRequirement :=
  db.requirements.find? fun row => row.productId = productId && row.requirementCode = requirementCode

def findEvidence (db : Database) (evidenceId : String) : Option ActivationEvidence :=
  db.evidence.find? (·.id = evidenceId)

def requirementsOf (db : Database) (productId : String) : List EvidenceRequirement :=
  db.requirements.filter (·.productId = productId)

/-- The roles of a product that have not ended. -/
def rolesOf (db : Database) (productId : String) : List RoleAssignment :=
  db.roleAssignments.filter fun row => row.productId = productId && row.endedAt.isNone

/-- `#tenant` -/
def tenant (db : Database) (tenantId : String) : Except Failure Unit := do
  let _ ← requireString (some tenantId) "tenantId" 3 63 tenantIdPattern
  let row ← require (db.findTenant tenantId) ⟨"UNKNOWN_TENANT", "tenant not found"⟩
  throwIf (¬(row.status = .onboarding ∨ row.status = .active))
    ⟨"TENANT_NOT_ACTIVE", "tenant cannot be configured in its current state"⟩

def InstitutionApproved (db : Database) (tenantId institutionId : String) : Prop :=
  (∃ row ∈ db.tenantInstitutions,
    row.tenantId = tenantId ∧ row.institutionId = institutionId ∧ row.onboardingStatus = .approved) ∧
  ∃ row ∈ db.institutions, row.id = institutionId ∧ row.status = .active

instance (db : Database) (tenantId institutionId : String) :
    Decidable (db.InstitutionApproved tenantId institutionId) :=
  inferInstanceAs (Decidable (_ ∧ _))

/-- `#approvedInstitution` -/
def approvedInstitution (db : Database) (tenantId institutionId : String) : Except Failure Unit :=
  throwIf (¬db.InstitutionApproved tenantId institutionId)
    ⟨"INSTITUTION_NOT_APPROVED", "institution is not active and approved for this tenant"⟩

/-- A product of a tenant joined with its configuration and its template. -/
def joinProduct (db : Database) (tenantId productId : String) : Option LockedProduct := do
  let configuration ← db.findConfiguration productId
  let product ← db.findProduct productId
  let template ← db.findTemplate configuration.templateId
  if configuration.tenantId = tenantId then
    some { id := product.id, status := product.status, templateId := configuration.templateId
           configurationStatus := configuration.configurationStatus
           configurationVersion := configuration.configurationVersion, requiredRoles := template.requiredRoles }
  else none

/-- `#product` -/
def product (db : Database) (tenantId productId : String) : Except Failure LockedProduct :=
  require (db.joinProduct tenantId productId) ⟨"UNKNOWN_PRODUCT", "product not found for tenant"⟩

/-- Set the status of a configuration, and count its version up. -/
def setConfiguration (db : Database) (productId : String) (status : ConfigurationStatus) : Database :=
  { db with
    configurations := db.configurations.map fun row =>
      if row.productId = productId then
        { row with configurationStatus := status, configurationVersion := row.configurationVersion + 1 }
      else row }

/-- Count the version of a configuration up. -/
def bumpConfiguration (db : Database) (productId : String) : Database :=
  { db with
    configurations := db.configurations.map fun row =>
      if row.productId = productId then { row with configurationVersion := row.configurationVersion + 1 } else row }

/-- `#refreshConfigurationStatus` -/
def refreshConfigurationStatus (db : Database) (productId : String) (requiredRoles : List String) :
    ConfigurationStatus × Database :=
  let status := if requiredRoles.all (fun role => (db.rolesOf productId).any (·.role = role))
    then ConfigurationStatus.readyForEvidence else .rolesPending
  (status, db.setConfiguration productId status)

/-- Whether a role of a product is assigned to an active and approved
institution. -/
def roleApproved (db : Database) (tenantId productId role : String) : Bool :=
  (db.rolesOf productId).any fun row => row.role = role && decide (db.InstitutionApproved tenantId row.institutionId)

/-- Whether the readiness query finds that a requirement lacks evidence. A key
that does not exist is no reason: comparisons with null select nothing. -/
def lacksEvidence (db : Database) (clock : Int) (requirement : EvidenceRequirement) : Bool :=
  decide (requirement.status ≠ .satisfied) ||
    match requirement.evidenceId.bind db.findEvidence with
    | none => true
    | some evidence =>
      decide (evidence.expiresAt ≤ clock) || decide (evidence.verificationStatus ≠ .verified) ||
        match db.findSigningKey evidence.sourceInstitutionId evidence.signingKeyId with
        | none => false
        | some key =>
          decide (key.status ≠ .active) || key.revokedAt.isSome || decide (evidence.issuedAt < key.validFrom) ||
            key.validUntil.any fun ending => decide (ending ≤ evidence.issuedAt)

/-- `#assertActivationReady` -/
def assertActivationReady (db : Database) (tenantId productId : String) (requiredRoles : List String) (clock : Int) :
    Except Failure Unit := do
  throwIf (¬∀ role ∈ requiredRoles, db.roleApproved tenantId productId role = true)
    ⟨"ACTIVATION_ROLE_NOT_APPROVED", "every required role must have an active approved institution"⟩
  throwIf (∃ row ∈ db.requirementsOf productId, row.mandatory = true ∧ db.lacksEvidence clock row = true)
    ⟨"ACTIVATION_EVIDENCE_INCOMPLETE", "mandatory activation evidence is missing or expired"⟩

/-- The configuration of a product, as a snapshot holds it. -/
def snapshotOf (db : Database) (tenantId productId : String) : Option Snapshot := do
  let product ← db.findProduct productId
  let configuration ← db.findConfiguration productId
  if configuration.tenantId = tenantId then
    some
      { product, templateId := configuration.templateId, configurationStatus := configuration.configurationStatus
        configurationVersion := configuration.configurationVersion
        roles := ((db.rolesOf productId).map fun row => (row.role, row.institutionId)).insertionSort
          fun first second => keyLe first.1 second.1
        requirements := ((db.requirementsOf productId).map fun row =>
            ⟨row.requirementCode, row.responsibleRole, row.mandatory, row.status, row.evidenceId⟩).insertionSort
          fun first second => keyLe first.code second.code }
  else none

/-- `#snapshot`: a version that has a snapshot keeps it. -/
def snapshot (db : Database) (tenantId productId actorRef eventType : String) : Except Failure Database := do
  let snapshot ← require (db.snapshotOf tenantId productId)
    ⟨"UNKNOWN_PRODUCT", "cannot snapshot missing tenant product"⟩
  if (productId, snapshot.configurationVersion) ∈ db.snapshots.map
    (fun row => (row.productId, row.configurationVersion))
  then pure db
  else
    let row : ConfigurationSnapshot :=
      { tenantId, productId, configurationVersion := snapshot.configurationVersion, eventType, actorRef, snapshot }
    pure { db with snapshots := db.snapshots ++ [row] }

end Database

section Service

variable (service : ProductCatalogService)

def provisionTenant (input : TenantInput) (db : Database) : Except Failure (Tenant × Database) := do
  let tenant ← validateTenantInput input
  throwIf (tenant.id ∈ db.tenants.map (·.id)) ⟨"TENANT_ALREADY_EXISTS", "tenant already exists"⟩
  throwIf (tenant.legalName.toList.length < 2) checkViolation
  pure (tenant, { db with tenants := db.tenants ++ [tenant] })

/-- The key under which the database registers the public key of an
institution. -/
def primaryKey (institution : Institution) (clock : Int) : SigningKey :=
  { institutionId := institution.id, keyId := "primary-v1", algorithm := "Ed25519"
    publicKeyPem := institution.publicKeyPem, status := .active, validFrom := clock, validUntil := none
    revokedAt := none }

def registerInstitution (tenantId : String) (input : InstitutionInput) (clock : Int) (db : Database) :
    Except Failure (Institution × Database) := do
  let (institution, externalReference) ← validateInstitutionInput service input
  db.tenant tenantId
  throwIf (institution.id ∈ db.institutions.map (·.id))
    ⟨"INSTITUTION_ALREADY_EXISTS", "institution id already exists"⟩
  let keys :=
    if (institution.id, "primary-v1") ∈ db.signingKeys.map
      (fun row => (row.institutionId, row.keyId)) then db.signingKeys
    else db.signingKeys ++ [primaryKey institution clock]
  throwIf ((tenantId, institution.id) ∈ db.tenantInstitutions.map fun row => (row.tenantId, row.institutionId))
    uniqueViolation
  pure (institution,
    { db with
      institutions := db.institutions ++ [institution]
      signingKeys := keys
      tenantInstitutions := db.tenantInstitutions ++ [⟨tenantId, institution.id, .dueDiligence, externalReference⟩] })

def registerInstitutionSigningKey (tenantId : String) (institutionId : Option String) (input : SigningKeyInput)
    (db : Database) : Except Failure (NewSigningKey × Database) := do
  let institutionId ← requireString institutionId "institutionId" 3 100 institutionIdPattern
  let key ← signingKeyInput service input
  db.approvedInstitution tenantId institutionId
  throwIf ((institutionId, key.keyId) ∈ db.signingKeys.map fun row => (row.institutionId, row.keyId))
    ⟨"SIGNING_KEY_ALREADY_EXISTS", "institution signing key id already exists"⟩
  let row : SigningKey :=
    { institutionId, keyId := key.keyId, algorithm := key.algorithm, publicKeyPem := key.publicKeyPem
      status := .active, validFrom := key.validFrom, validUntil := key.validUntil, revokedAt := none }
  pure (key, { db with signingKeys := db.signingKeys ++ [row] })

/-- The row of a key after its revocation. -/
def SigningKey.revoke (key : SigningKey) (revokedAt : Int) : SigningKey :=
  { key with
    status := .revoked
    revokedAt := some revokedAt
    validUntil := some (min (key.validUntil.getD revokedAt) revokedAt) }

/-- Whether the evidence of a requirement is signed with a key. -/
def Database.signedWith (db : Database) (institutionId keyId : String) (requirement : EvidenceRequirement) : Bool :=
  match requirement.evidenceId.bind db.findEvidence with
  | none => false
  | some evidence => decide (evidence.sourceInstitutionId = institutionId ∧ evidence.signingKeyId = keyId)

/-- Requirements that a key has satisfied miss evidence again. -/
def Database.missEvidence (db : Database) (institutionId keyId : String) : Database :=
  { db with
    requirements := db.requirements.map fun row =>
      if db.signedWith institutionId keyId row then { row with status := .missing, evidenceId := none } else row }

def Database.MissesMandatory (db : Database) (productId : String) : Prop :=
  ∃ row ∈ db.requirements, row.productId = productId ∧ row.mandatory = true ∧ row.status ≠ .satisfied

instance (db : Database) (productId : String) : Decidable (db.MissesMandatory productId) :=
  inferInstanceAs (Decidable (∃ row ∈ db.requirements, _))

/-- Active configurations that miss mandatory evidence are suspended. -/
def Database.suspendConfigurations (db : Database) : Database :=
  { db with
    configurations := db.configurations.map fun row =>
      if row.configurationStatus = .active ∧ db.MissesMandatory row.productId then
        { row with configurationStatus := .suspended, configurationVersion := row.configurationVersion + 1 }
      else row }

def Database.Suspended (db : Database) (productId : String) : Prop :=
  ∃ row ∈ db.configurations, row.productId = productId ∧ row.configurationStatus = .suspended

instance (db : Database) (productId : String) : Decidable (db.Suspended productId) :=
  inferInstanceAs (Decidable (∃ row ∈ db.configurations, _))

/-- Active products with a suspended configuration are paused. -/
def Database.pauseProducts (db : Database) : Database :=
  { db with
    products := db.products.map fun row =>
      if row.status = .active ∧ db.Suspended row.id then { row with status := .paused } else row }

/-- `invalidate_evidence_for_signing_key` -/
def invalidateEvidenceForSigningKey (institutionId keyId : String) (db : Database) : Database :=
  ((db.missEvidence institutionId keyId).suspendConfigurations).pauseProducts

def revokeInstitutionSigningKey (tenantId : String) (institutionId keyId reason : Option String) (now : Int)
    (db : Database) : Except Failure ((String × String) × Database) := do
  let institutionId ← requireString institutionId "institutionId" 3 100 institutionIdPattern
  let keyId ← requireString keyId "signingKey.keyId" 1 128 keyIdPattern
  let _ ← requireString reason "signingKey.reason" 3 1000 anyText
  throwIf (db.findTenantInstitution tenantId institutionId = none)
    ⟨"UNKNOWN_TENANT_INSTITUTION", "institution is not registered for this tenant"⟩
  let key ← require (db.findSigningKey institutionId keyId)
    ⟨"SIGNING_KEY_NOT_ACTIVE", "institution signing key is missing or not active"⟩
  throwIf (key.status ≠ .active) ⟨"SIGNING_KEY_NOT_ACTIVE", "institution signing key is missing or not active"⟩
  throwIf (min (key.validUntil.getD now) now ≤ key.validFrom) checkViolation
  let signingKeys := db.signingKeys.map fun row =>
    if row.institutionId = institutionId ∧ row.keyId = keyId then row.revoke now else row
  pure ((institutionId, keyId), invalidateEvidenceForSigningKey institutionId keyId { db with signingKeys })

/-- Rules as they are read back from their `jsonb` column. -/
def storedRules (rules : List (String × JsValue)) : Except Failure (List (String × JsValue)) :=
  match stored service.isoText (.object rules) with
  | .ok (some (.object members)) => .ok members
  | .ok _ => .error ⟨"23502", "null value violates not-null constraint"⟩
  | .error message => .error (typeError message)

def createProduct (tenantId actorRef : String) (input : ProductInput) (clock : Int) (db : Database) :
    Except Failure (Product × Database) := do
  db.tenant tenantId
  let product ← validateProductInput input (db.findTemplate input.templateId)
  db.approvedInstitution tenantId product.issuerId
  let rules ← storedRules service product.rules
  throwIf (product.id ∈ db.products.map (·.id)) ⟨"PRODUCT_ALREADY_EXISTS", "product id already exists"⟩
  throwIf (product.id ∈ db.configurations.map (·.productId)) uniqueViolation
  let requirements := (db.templateRequirements.filter (·.templateId = input.templateId)).map fun row =>
    (⟨product.id, row.requirementCode, row.responsibleRole, row.description, row.mandatory, .missing, none⟩ :
      EvidenceRequirement)
  let next : Database := { db with
    products := db.products ++ [{ product with rules }]
    configurations := db.configurations ++ [⟨product.id, tenantId, input.templateId, .rolesPending, 1, actorRef⟩]
    roleAssignments := db.roleAssignments ++ [⟨product.id, "issuer", product.issuerId, clock, none⟩]
    requirements := db.requirements ++ requirements }
  let next ← next.snapshot tenantId product.id actorRef "product.draft_created"
  pure (product, next)

/-- The assignments of a product after one of its roles is given to an
institution. -/
def Database.reassign (db : Database) (productId role institutionId : String) (clock : Int) : Database :=
  { db with
    roleAssignments := (db.roleAssignments.map fun row =>
      if row.productId = productId ∧ row.role = role ∧ row.endedAt = none then { row with endedAt := some clock }
      else row) ++ [⟨productId, role, institutionId, clock, none⟩] }

def assignRole (tenantId actorRef : String) (productId : Option String) (role : String) (institutionId : Option String)
    (clock : Int) (db : Database) : Except Failure (ConfigurationStatus × Database) := do
  let productId ← requireString productId "productId" 3 100 productIdPattern
  let institutionId ← requireString institutionId "institutionId" 3 100 institutionIdPattern
  throwIf (role ∉ productRoles) ⟨"INVALID_PRODUCT_ROLE", "unsupported product role"⟩
  let product ← db.product tenantId productId
  throwIf (product.status ≠ .draft)
    ⟨"PRODUCT_CONFIGURATION_LOCKED", "only draft products can change role assignments"⟩
  db.approvedInstitution tenantId institutionId
  throwIf (role ∉ product.requiredRoles) ⟨"ROLE_NOT_REQUIRED_BY_TEMPLATE", "role is not part of this product template"⟩
  throwIf (∃ row ∈ db.rolesOf productId, row.role = role ∧ clock ≤ row.effectiveAt) checkViolation
  throwIf (∃ row ∈ db.roleAssignments, row.productId = productId ∧ row.role = role ∧ row.effectiveAt = clock)
    uniqueViolation
  let (status, next) := (db.reassign productId role institutionId clock).refreshConfigurationStatus productId
    product.requiredRoles
  let next ← next.snapshot tenantId productId actorRef "product.role_assigned"
  pure (status, next)

/-- The last round of review of an institution. -/
def lastRound (rows : List OnboardingApproval) : Nat := (rows.map (·.approvalRound)).foldl max 0

def Database.onboardingOf (db : Database) (tenantId institutionId : String) : List OnboardingApproval :=
  db.onboardingApprovals.filter fun row => row.tenantId = tenantId && row.institutionId = institutionId

/-- An institution is reviewed while its due diligence lasts. -/
def Database.assertReviewable (db : Database) (tenantId institutionId : String) : Except Failure Unit :=
  throwIf (¬∃ row ∈ db.tenantInstitutions,
      row.tenantId = tenantId ∧ row.institutionId = institutionId ∧ row.onboardingStatus = .dueDiligence)
    ⟨"INSTITUTION_NOT_REVIEWABLE", "institution must be in DUE_DILIGENCE"⟩

def proposeInstitutionReview (tenantId actorRef : String) (institutionId : Option String) (input : ReviewInput)
    (db : Database) : Except Failure (Nat × Database) := do
  let institutionId ← requireString institutionId "institutionId" 3 100 institutionIdPattern
  let review ← reviewInput input
  db.tenant tenantId
  db.assertReviewable tenantId institutionId
  let rows := db.onboardingOf tenantId institutionId
  let last := lastRound rows
  throwIf (0 < last ∧ ¬∃ row ∈ rows, row.approvalRound = last ∧ row.role = .checker)
    ⟨"INSTITUTION_REVIEW_PENDING", "institution already has a pending maker proposal"⟩
  throwIf (review.reason.toList.length < 3) checkViolation
  pure (last + 1,
    { db with
      onboardingApprovals := db.onboardingApprovals ++
        [⟨tenantId, institutionId, last + 1, .maker, actorRef, review.decision, review.reason⟩] })

/-- The undecided proposal of the highest round. -/
def pendingReview (rows : List OnboardingApproval) : Option OnboardingApproval :=
  ((rows.filter fun row => decide (row.role = .maker) &&
      !rows.any fun other => decide (other.approvalRound = row.approvalRound ∧ other.role = .checker)).insertionSort
    fun first second => second.approvalRound ≤ first.approvalRound).head?

def decideInstitutionReview (tenantId actorRef : String) (institutionId : Option String) (input : ReviewInput)
    (db : Database) : Except Failure (OnboardingStatus × Database) := do
  let institutionId ← requireString institutionId "institutionId" 3 100 institutionIdPattern
  let review ← reviewInput input
  db.assertReviewable tenantId institutionId
  let proposal ← require (pendingReview (db.onboardingOf tenantId institutionId))
    ⟨"INSTITUTION_REVIEW_NOT_PENDING", "institution has no pending maker proposal"⟩
  throwIf (proposal.actorRef = actorRef) ⟨"MAKER_CHECKER_CONFLICT", "institution maker and checker must differ"⟩
  throwIf (review.reason.toList.length < 3) checkViolation
  let db := { db with
    onboardingApprovals := db.onboardingApprovals ++
      [⟨tenantId, institutionId, proposal.approvalRound, .checker, actorRef, review.decision, review.reason⟩] }
  match review.decision with
  | .reject => pure (.dueDiligence, db)
  | .approve =>
    let state := if proposal.decision = .approve then OnboardingStatus.approved else .rejected
    pure (state,
      { db with
        tenantInstitutions := db.tenantInstitutions.map fun row =>
          if row.tenantId = tenantId ∧ row.institutionId = institutionId then { row with onboardingStatus := state }
          else row })

end Service

end rwa.catalog
