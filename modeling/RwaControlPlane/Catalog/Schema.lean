import RwaControlPlane.Gate.Store
import RwaControlPlane.Library.JsJson

open checked js_value
open rwa.gate (ProductStatus uniqueViolation)

namespace rwa.catalog

inductive TenantStatus
  | onboarding | active | suspended | closed
deriving DecidableEq

/-- `platform_tenants` -/
structure Tenant where
  id : String
  legalName : String
  homeJurisdiction : String
  dataRegion : String
  status : TenantStatus
deriving DecidableEq

inductive TemplateStatus
  | active | retired
deriving DecidableEq

/-- `product_templates` -/
structure ProductTemplate where
  id : String
  requiredRoles : List String
  defaultRules : List (String × JsValue)
  status : TemplateStatus

/-- `product_template_evidence_requirements` -/
structure TemplateRequirement where
  templateId : String
  requirementCode : String
  responsibleRole : String
  description : String
  mandatory : Bool
deriving DecidableEq

inductive InstitutionStatus
  | active | suspended | closed
deriving DecidableEq

/-- `institutions` -/
structure Institution where
  id : String
  legalName : String
  jurisdiction : String
  status : InstitutionStatus
  publicKeyPem : String
deriving DecidableEq

inductive OnboardingStatus
  | draft | dueDiligence | approved | suspended | rejected
deriving DecidableEq

/-- `tenant_institutions` -/
structure TenantInstitution where
  tenantId : String
  institutionId : String
  onboardingStatus : OnboardingStatus
  externalReference : Option String
deriving DecidableEq

inductive ApprovalRole
  | maker | checker
deriving DecidableEq

inductive ReviewDecision
  | approve | reject
deriving DecidableEq

/-- `institution_onboarding_approvals` -/
structure OnboardingApproval where
  tenantId : String
  institutionId : String
  approvalRound : Nat
  role : ApprovalRole
  actorRef : String
  decision : ReviewDecision
  reason : String
deriving DecidableEq

inductive KeyStatus
  | active | retired | revoked
deriving DecidableEq

/-- `institution_signing_keys` -/
structure SigningKey where
  institutionId : String
  keyId : String
  algorithm : String
  publicKeyPem : String
  status : KeyStatus
  validFrom : Int
  validUntil : Option Int
  revokedAt : Option Int
deriving DecidableEq

/-- `products` -/
structure Product where
  id : String
  name : String
  jurisdiction : String
  issuerId : String
  currency : String
  status : ProductStatus
  ruleVersion : Nat
  rules : List (String × JsValue)

inductive ConfigurationStatus
  | draft | rolesPending | readyForEvidence | activationPending | active | suspended | retired
deriving DecidableEq

/-- `product_configurations` -/
structure ProductConfiguration where
  productId : String
  tenantId : String
  templateId : String
  configurationStatus : ConfigurationStatus
  configurationVersion : Nat
  createdBy : String
deriving DecidableEq

/-- `product_role_assignments` -/
structure RoleAssignment where
  productId : String
  role : String
  institutionId : String
  effectiveAt : Int
  endedAt : Option Int
deriving DecidableEq

inductive RequirementStatus
  | missing | satisfied | rejected
deriving DecidableEq

/-- `product_evidence_requirements` -/
structure EvidenceRequirement where
  productId : String
  requirementCode : String
  responsibleRole : String
  description : String
  mandatory : Bool
  status : RequirementStatus
  evidenceId : Option String
deriving DecidableEq

inductive VerificationStatus
  | unverified | verified
deriving DecidableEq

/-- `product_activation_evidence` -/
structure ActivationEvidence where
  id : String
  productId : String
  requirementCode : String
  sourceInstitutionId : String
  schemaVersion : String
  contentHash : String
  signature : String
  issuedAt : Int
  expiresAt : Int
  receivedBy : String
  envelopeVersion : String
  signatureAlgorithm : String
  signingKeyId : String
  canonicalPayloadHash : String
  verificationStatus : VerificationStatus
  verifierVersion : String
  verifiedAt : Int
deriving DecidableEq

inductive ActivationDecision
  | activate | approve | reject
deriving DecidableEq

/-- `product_activation_approvals` -/
structure ActivationApproval where
  productId : String
  approvalRound : Nat
  role : ApprovalRole
  actorRef : String
  decision : ActivationDecision
  reason : String
deriving DecidableEq

/-- A requirement inside a snapshot. -/
structure SnapshotRequirement where
  code : String
  responsibleRole : String
  mandatory : Bool
  status : RequirementStatus
  evidenceId : Option String
deriving DecidableEq

/-- The `snapshot` value of a configuration: the product, its configuration, the
roles that have not ended and the evidence requirements. -/
structure Snapshot where
  product : Product
  templateId : String
  configurationStatus : ConfigurationStatus
  configurationVersion : Nat
  roles : List (String × String)
  requirements : List SnapshotRequirement

/-- `product_configuration_snapshots` -/
structure ConfigurationSnapshot where
  tenantId : String
  productId : String
  configurationVersion : Nat
  eventType : String
  actorRef : String
  snapshot : Snapshot

structure Database where
  tenants : List Tenant
  templates : List ProductTemplate
  templateRequirements : List TemplateRequirement
  institutions : List Institution
  tenantInstitutions : List TenantInstitution
  onboardingApprovals : List OnboardingApproval
  signingKeys : List SigningKey
  products : List Product
  configurations : List ProductConfiguration
  roleAssignments : List RoleAssignment
  requirements : List EvidenceRequirement
  evidence : List ActivationEvidence
  activationApprovals : List ActivationApproval
  snapshots : List ConfigurationSnapshot

def defaultRules (jurisdictions : List String) (maxPriceDeviationBps : Rat) : List (String × JsValue) :=
  [("allowedInvestorClasses", .array [.string "professional"]),
    ("allowedJurisdictions", .array (jurisdictions.map .string)),
    ("maxPriceDeviationBps", .number maxPriceDeviationBps)]

/-- The templates of migration 018. -/
def migratedTemplates : List ProductTemplate :=
  [{ id := "FUND_V1", defaultRules := defaultRules ["HK"] 100, status := .active
     requiredRoles := ["issuer", "distributor", "credential_issuer", "fund_administrator", "custodian",
       "transfer_agent", "cash_provider"] },
    { id := "PRIVATE_CREDIT_V1", defaultRules := defaultRules ["HK"] 200, status := .active
      requiredRoles := ["issuer", "distributor", "credential_issuer", "fund_administrator", "custodian",
        "cash_provider"] },
    { id := "BOND_V1", defaultRules := defaultRules ["HK"] 100, status := .active
      requiredRoles := ["issuer", "distributor", "credential_issuer", "fund_administrator", "custodian",
        "transfer_agent", "cash_provider"] },
    { id := "SUKUK_V1", defaultRules := defaultRules ["AE"] 100, status := .active
      requiredRoles := ["issuer", "distributor", "credential_issuer", "fund_administrator", "custodian",
        "transfer_agent", "cash_provider"] },
    { id := "COMMODITY_V1", defaultRules := defaultRules ["HK", "AE"] 250, status := .active
      requiredRoles := ["issuer", "distributor", "credential_issuer", "custodian", "transfer_agent",
        "cash_provider"] }]

/-- The requirements that migration 019 gives a template: a mandate for every
required role, and two documents of the issuer. -/
def templateRequirementsOf (template : ProductTemplate) : List TemplateRequirement :=
  (template.requiredRoles.map fun role =>
    ⟨template.id, role ++ "_mandate", role, "Active mandate or agreement for required role " ++ role, true⟩) ++
  [⟨template.id, "offering_document", "issuer", "Approved offering or product disclosure document", true⟩,
    ⟨template.id, "legal_opinion", "issuer", "Jurisdiction-specific legal and regulatory opinion", true⟩]

/-- The catalog after the migrations, on a database without products. -/
def Database.migrated : Database where
  tenants := [⟨"sandbox-hk", "RWA Synthetic Sandbox", "HK", "hk-local", .active⟩]
  templates := migratedTemplates
  templateRequirements := migratedTemplates.flatMap templateRequirementsOf
  institutions := []
  tenantInstitutions := []
  onboardingApprovals := []
  signingKeys := []
  products := []
  configurations := []
  roleAssignments := []
  requirements := []
  evidence := []
  activationApprovals := []
  snapshots := []

end rwa.catalog
