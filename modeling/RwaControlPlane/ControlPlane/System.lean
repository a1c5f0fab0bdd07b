import RwaControlPlane.ControlPlane.Exceptions
import RwaControlPlane.Library.Runs

open attempt js_map js_value

namespace rwa.control_plane

variable (platform : Platform)

def registerInstitution (institution : Institution) : Step Unit := do
  let known ← read (·.institutions.has institution.id)
  ensure (known = false) ⟨"DUPLICATE_INSTITUTION", "institution already exists"⟩
  ensure (institution.roles ≠ []) ⟨"INVALID_ROLES", "roles required"⟩
  modify fun plane => { plane with institutions := plane.institutions.set institution.id institution }
  record platform (.institutionRegistered institution.id institution.roles)

structure CreateProduct where
  id : String
  name : String
  jurisdiction : String
  issuerId : String
  roleAssignments : List (String × String)
  rules : ProductRules

def createProduct (command : CreateProduct) : Step Product := do
  let known ← read (·.products.has command.id)
  ensure (known = false) ⟨"DUPLICATE_PRODUCT", "product already exists"⟩
  ensure (command.jurisdiction = "HK") ⟨"UNSUPPORTED_JURISDICTION", "sandbox currently supports HK only"⟩
  let issuer ← hasRole command.issuerId "issuer"
  ensure (issuer = true) ⟨"UNAUTHORIZED_ISSUER", "issuer role required"⟩
  ensure (command.rules.currency ≠ "" ∧ command.rules.allowedInvestorClasses ≠ [] ∧
    command.rules.allowedJurisdictions ≠ []) ⟨"INVALID_RULES", "product rules incomplete"⟩
  ensure (command.rules.maxPriceDeviationBps.den = 1 ∧ 0 ≤ command.rules.maxPriceDeviationBps ∧
    command.rules.maxPriceDeviationBps ≤ 10000)
    ⟨"INVALID_RULES", "price deviation must be an integer between 0 and 10000 bps"⟩
  let time ← now
  let product : Product :=
    { id := command.id
      name := command.name
      jurisdiction := command.jurisdiction
      issuerId := command.issuerId
      roleAssignments := command.roleAssignments
      rules := command.rules
      ruleVersion := 1
      status := .draft
      createdAt := platform.isoText time }
  modify fun plane => { plane with products := plane.products.set command.id product }
  record platform (.productCreated command.id command.issuerId 1)
  return product

def REQUIRED_PRODUCT_ROLES : List String :=
  ["issuer", "distributor", "credential_issuer", "fund_administrator", "custodian", "transfer_agent",
    "cash_provider"]

/-- Every required role is assigned to an institution that has it. -/
def assertRoles (found : Product) : List String → Step Unit
  | [] => return ()
  | role :: roles => do
    let institutionId ← require (member role found.roleAssignments) ⟨"MISSING_ROLE", s!"missing {role}"⟩
    ensure (institutionId ≠ "") ⟨"MISSING_ROLE", s!"missing {role}"⟩
    let assigned ← hasRole institutionId role
    ensure (assigned = true) ⟨"INVALID_ROLE_ASSIGNMENT", s!"{institutionId} lacks {role}"⟩
    assertRoles found roles

def setStatus (found : Product) (status : ProductStatus) : Step Unit :=
  modify fun plane => { plane with products := plane.products.set found.id { found with status } }

def activateProduct (productId : String) : Step Unit := do
  let found ← product productId
  ensure (found.status = .draft ∨ found.status = .paused) ⟨"INVALID_PRODUCT_STATE", "product cannot be activated"⟩
  assertRoles found REQUIRED_PRODUCT_ROLES
  setStatus found .active
  record platform (.productActivated productId found.ruleVersion)

def pauseProduct (productId reason : String) : Step Unit := do
  let found ← product productId
  ensure (found.status = .active) ⟨"INVALID_PRODUCT_STATE", "only active product can be paused"⟩
  setStatus found .paused
  record platform (.productPaused productId reason)

def registerCredential (credential : Credential) : Step Unit := do
  let found ← product credential.productId
  ensure (some credential.issuerId = member "credential_issuer" found.roleAssignments)
    ⟨"UNAUTHORIZED_CREDENTIAL_ISSUER", "credential issuer is not assigned to product"⟩
  let signed ← verifyStatement platform credential.issuerId credential.unsigned credential.signature
  ensure (signed = true) ⟨"INVALID_SIGNATURE", "credential signature invalid"⟩
  let known ← read (·.credentials.has credential.id)
  ensure (known = false) ⟨"DUPLICATE_CREDENTIAL", "credential already exists"⟩
  ensure ((platform.dateTime credential.validFrom).any fun validFrom =>
      dateAfter platform credential.validUntil validFrom)
    ⟨"INVALID_CREDENTIAL_TIME", "credential validity window invalid"⟩
  let maxUnits ← toNonNegativeInteger credential.maxUnits "maxUnits"
  ensure (0 < maxUnits) ⟨"INVALID_CREDENTIAL_LIMIT", "maxUnits must be positive"⟩
  modify fun plane => { plane with credentials := plane.credentials.set credential.id credential }
  record platform (.credentialRegistered credential.id credential.productId credential.subjectId)

def revokeCredential (credentialId reason : String) : Step Unit := do
  let known ← read (·.credentials.has credentialId)
  ensure (known = true) ⟨"UNKNOWN_CREDENTIAL", "credential not found"⟩
  let restricted ← read (·.credentialRestrictions.has credentialId)
  ensure (restricted = false) ⟨"CREDENTIAL_ALREADY_RESTRICTED", "credential already restricted"⟩
  let time ← now
  modify fun plane => { plane with
    credentialRestrictions := plane.credentialRestrictions.set credentialId
      ⟨.restrictedExit, reason, platform.isoText time⟩ }
  record platform (.credentialRestricted credentialId reason .restrictedExit)

/-- The role that must sign evidence of a type. -/
def evidenceRole (dataType : String) : Option String :=
  member dataType [("nav", "fund_administrator"), ("custody_balance", "custodian"),
    ("legal_register", "transfer_agent"), ("cash_state", "cash_provider")]

/-- A NAV is in the currency of its product and positive. -/
def assertNav (found : Product) (payload : EvidencePayload) : Step Unit := do
  ensure (payload.currency = some found.rules.currency)
    ⟨"EVIDENCE_CURRENCY", "NAV currency does not match product"⟩
  let price ← optionalToNonNegativeInteger payload.navPerUnit "navPerUnit"
  ensure (0 < price) ⟨"INVALID_NAV", "NAV must be positive"⟩

def submitEvidence (envelope : Evidence) : Step Unit := do
  let found ← product envelope.productId
  let requiredRole ← require (evidenceRole envelope.dataType) ⟨"UNSUPPORTED_EVIDENCE", "unsupported evidence type"⟩
  ensure (some envelope.sourceInstitutionId = member requiredRole found.roleAssignments)
    ⟨"UNAUTHORIZED_EVIDENCE_SOURCE", s!"evidence must be signed by assigned {requiredRole}"⟩
  let signed ← verifyStatement platform (envelope.issuerId.getD envelope.sourceInstitutionId) envelope.unsigned
    envelope.signature
  ensure (signed = true) ⟨"INVALID_SIGNATURE", "evidence signature invalid"⟩
  ensure ((platform.dateTime envelope.effectiveAt).any fun effectiveAt =>
      dateAfter platform envelope.expiresAt effectiveAt)
    ⟨"INVALID_EVIDENCE_TIME", "evidence expiry invalid"⟩
  if envelope.dataType = "nav" then assertNav found envelope.payload
  let known ← read (·.evidence.has envelope.id)
  ensure (known = false) ⟨"DUPLICATE_EVIDENCE", "evidence already exists"⟩
  modify fun plane => { plane with evidence := plane.evidence.set envelope.id { envelope with status := .active } }
  record platform (.evidenceAccepted envelope.id envelope.productId envelope.dataType)

def creditSandboxCash (accountId currency amount : String) : Step Unit := do
  let credited ← toNonNegativeInteger amount "amount"
  creditCash (balanceKey accountId currency) credited
  record platform (.cashCredited accountId currency amount)

/-- The settlement calls, which have an idempotency key. -/
inductive Command where
  | subscribe (command : SubscribeCommand)
  | transfer (command : TransferCommand)
  | redeem (command : RedeemCommand)
  | simulateRegisterFailure (command : TransferCommand)
deriving DecidableEq

def Command.run : Command → Step Receipt
  | .subscribe command => control_plane.subscribe platform command
  | .transfer command => control_plane.transfer platform command
  | .redeem command => control_plane.redeem platform command
  | .simulateRegisterFailure command => control_plane.simulateRegisterFailure platform command

inductive Call where
  | registerInstitution (institution : Institution)
  | createProduct (command : CreateProduct)
  | activateProduct (productId : String)
  | pauseProduct (productId reason : String)
  | registerCredential (credential : Credential)
  | revokeCredential (credentialId reason : String)
  | submitEvidence (envelope : Evidence)
  | creditSandboxCash (accountId currency amount : String)
  | settle (command : Command)
  | proposeExceptionResolution (caseId makerId : String) (decision : Decision)
      (replacementTransactionId : Option String)
  | approveExceptionResolution (caseId checkerId : String)

/-- A call, and the time at which it is made. -/
structure Action where
  now : Int
  call : Call

/-- What a call returns, as far as it is a receipt or a decision. -/
inductive Reply where
  | done
  | created (product : Product)
  | receipt (receipt : Receipt)
  | proposed (proposed : Proposed)
  | resolved (resolved : Resolved)

def Call.run : Call → Step Reply
  | .registerInstitution institution => do
    control_plane.registerInstitution platform institution
    return .done
  | .createProduct command => do
    let product ← control_plane.createProduct platform command
    return .created product
  | .activateProduct productId => do
    control_plane.activateProduct platform productId
    return .done
  | .pauseProduct productId reason => do
    control_plane.pauseProduct platform productId reason
    return .done
  | .registerCredential credential => do
    control_plane.registerCredential platform credential
    return .done
  | .revokeCredential credentialId reason => do
    control_plane.revokeCredential platform credentialId reason
    return .done
  | .submitEvidence envelope => do
    control_plane.submitEvidence platform envelope
    return .done
  | .creditSandboxCash accountId currency amount => do
    control_plane.creditSandboxCash platform accountId currency amount
    return .done
  | .settle command => do
    let receipt ← command.run platform
    return .receipt receipt
  | .proposeExceptionResolution caseId makerId decision replacementTransactionId => do
    let proposed ← control_plane.proposeExceptionResolution platform caseId makerId decision replacementTransactionId
    return .proposed proposed
  | .approveExceptionResolution caseId checkerId => do
    let resolved ← control_plane.approveExceptionResolution platform caseId checkerId
    return .resolved resolved

def respond (plane : ControlPlane) (action : Action) : Except Failure Reply × ControlPlane :=
  action.call.run platform { plane with clock := action.now }

def step (plane : ControlPlane) (action : Action) : ControlPlane := (respond platform plane action).2

/-- The state after some actions on a new control plane. -/
def run (actions : List Action) : ControlPlane := runs.run (step platform) ControlPlane.start actions

end rwa.control_plane
