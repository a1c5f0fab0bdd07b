import RwaControlPlane.Catalog.Schema
import RwaControlPlane.Library.JsText

open checked js_value

namespace rwa.catalog

/-- What the catalog takes from outside: the cryptographic library, the hash and
the writing and reading of dates and numbers. -/
structure ProductCatalogService where
  verify (message publicKeyPem signature : String) : Bool
  /-- Type of the public key that a PEM holds. -/
  asymmetricKeyType : String → Option String
  sha256 : String → String
  dateTime : String → Option Int
  isoText : Int → String
  numberText : Rat → String
  maxEvidenceClockSkewMs : Int
  maxEvidenceValidityMs : Int

def invalidInput (field : String) : Failure := ⟨"INVALID_CATALOG_INPUT", field ++ " is invalid"⟩

def typeError (message : String) : Failure := ⟨"", message⟩

/-- One character of the first class, then some of the second. -/
def leads (first rest : Char → Bool) (least most : Nat) (text : String) : Bool :=
  match text.toList with
  | [] => false
  | char :: chars => first char && chars.all rest && decide (least ≤ chars.length ∧ chars.length ≤ most)

def isLowerId (char : Char) : Bool := char.isLower || char.isDigit

def isLowerIdPart (char : Char) : Bool := isLowerId char || char = '-'

def isKeyIdPart (char : Char) : Bool := char.isAlphanum || ['.', '_', ':', '-'].contains char

def anyText : String → Bool := fun _ => true
def tenantIdPattern : String → Bool := leads isLowerId isLowerIdPart 2 62
def institutionIdPattern : String → Bool := leads isLowerId isLowerIdPart 2 99
def productIdPattern : String → Bool := leads isLowerId isLowerIdPart 2 99
def countryPattern : String → Bool := leads Char.isUpper Char.isUpper 1 1
def currencyPattern : String → Bool := leads Char.isUpper Char.isUpper 2 2
def keyIdPattern : String → Bool := leads Char.isAlphanum isKeyIdPart 0 127
def requirementCodePattern : String → Bool :=
  leads Char.isLower (fun char => isLowerId char || char = '_') 2 63

def isHexDigit (char : Char) : Bool := char.isDigit || ('a' ≤ char && char ≤ 'f')

def sha256Pattern : String → Bool := leads isHexDigit isHexDigit 63 63

def productRoles : List String :=
  ["issuer", "distributor", "credential_issuer", "fund_administrator", "custodian", "transfer_agent",
    "cash_provider"]

def requireString (value : Option String) (field : String) (min max : Nat) (pattern : String → Bool) :
    Except Failure String :=
  match value with
  | none => .error (invalidInput field)
  | some text =>
    if js_text.length text < min ∨ max < js_text.length text ∨ pattern text = false then .error (invalidInput field)
    else .ok text

def stringItem (field : String) (pattern : String → Bool) : JsValue → Except Failure String
  | .string text => requireString (some text) field 1 64 pattern
  | _ => .error (invalidInput field)

/-- A list of distinct texts. -/
def stringList (value : Option JsValue) (field : String) (pattern : String → Bool) : Except Failure (List String) :=
  match value with
  | some (.array items) => do
    throwIf (items = [] ∨ 50 < items.length)
      ⟨"INVALID_CATALOG_INPUT", field ++ " must be a non-empty bounded array"⟩
    let texts ← items.mapM (stringItem field pattern)
    throwIf (¬texts.Nodup) ⟨"INVALID_CATALOG_INPUT", field ++ " cannot contain duplicates"⟩
    pure texts
  | _ => .error ⟨"INVALID_CATALOG_INPUT", field ++ " must be a non-empty bounded array"⟩

structure ReviewInput where
  decision : Option String
  reason : Option String

structure Review where
  decision : ReviewDecision
  reason : String

def reviewInput (input : ReviewInput) : Except Failure Review := do
  let decision ← requireString input.decision "review.decision" 1 20 anyText
  let decision ← if decision = "APPROVE" then pure ReviewDecision.approve
    else if decision = "REJECT" then pure ReviewDecision.reject
    else .error ⟨"INVALID_REVIEW_DECISION", "review decision must be APPROVE or REJECT"⟩
  let reason ← requireString input.reason "review.reason" 3 1000 anyText
  pure ⟨decision, reason⟩

structure EvidenceInput where
  id : Option String
  requirementCode : Option String
  sourceInstitutionId : Option String
  schemaVersion : Option String
  contentHash : Option String
  envelopeVersion : Option String
  signatureAlgorithm : Option String
  keyId : Option String
  signature : Option String
  issuedAt : String
  expiresAt : String

structure Evidence where
  id : String
  requirementCode : String
  sourceInstitutionId : String
  schemaVersion : String
  contentHash : String
  envelopeVersion : String
  signatureAlgorithm : String
  keyId : String
  signature : String
  issuedAt : Int
  expiresAt : Int

section Service

variable (service : ProductCatalogService)

def evidenceInput (input : EvidenceInput) : Except Failure Evidence := do
  let invalidTime : Failure :=
    ⟨"INVALID_EVIDENCE_TIME", "evidence requires a valid increasing issuedAt/expiresAt interval"⟩
  let issuedAt ← require (service.dateTime input.issuedAt) invalidTime
  let expiresAt ← require (service.dateTime input.expiresAt) invalidTime
  throwIf (expiresAt ≤ issuedAt) invalidTime
  let id ← requireString input.id "evidence.id" 3 100 productIdPattern
  let requirementCode ← requireString input.requirementCode "evidence.requirementCode" 3 64 requirementCodePattern
  let sourceInstitutionId ←
    requireString input.sourceInstitutionId "evidence.sourceInstitutionId" 3 100 institutionIdPattern
  let schemaVersion ← requireString input.schemaVersion "evidence.schemaVersion" 1 40 anyText
  let contentHash ← requireString input.contentHash "evidence.contentHash" 64 64 sha256Pattern
  let envelopeVersion ← requireString input.envelopeVersion "evidence.envelopeVersion" 1 80 anyText
  let signatureAlgorithm ← requireString input.signatureAlgorithm "evidence.signatureAlgorithm" 1 40 anyText
  let keyId ← requireString input.keyId "evidence.keyId" 1 128 keyIdPattern
  let signature ← requireString input.signature "evidence.signature" 16 16384 anyText
  pure { id, requirementCode, sourceInstitutionId, schemaVersion, contentHash, envelopeVersion, signatureAlgorithm
         keyId, signature, issuedAt, expiresAt }

def evidenceEnvelope : String := "rwa.product-activation-evidence.v1"

def evidenceAlgorithm : String := "Ed25519"

def evidenceVerifier : String := "product-evidence-verifier.v1"

def assertEd25519PublicKey (publicKeyPem : String) : Except Failure Unit := do
  let keyType ← require (service.asymmetricKeyType publicKeyPem)
    ⟨"INVALID_INSTITUTION_SIGNING_KEY", "institution signing key is not valid public-key material"⟩
  throwIf (keyType ≠ "ed25519")
    ⟨"UNSUPPORTED_EVIDENCE_SIGNING_KEY", "product evidence requires an Ed25519 public key"⟩

structure SigningKeyInput where
  keyId : Option String
  algorithm : Option String
  publicKeyPem : Option String
  validFrom : String
  validUntil : Option String

structure NewSigningKey where
  keyId : String
  algorithm : String
  publicKeyPem : String
  validFrom : Int
  validUntil : Option Int

/-- An end that is missing or empty is no end. -/
def validUntilInput (validUntil : Option String) (failure : Failure) : Except Failure (Option Int) :=
  match validUntil with
  | none => .ok none
  | some text => if text = "" then .ok none else (require (service.dateTime text) failure).map some

def signingKeyInput (input : SigningKeyInput) : Except Failure NewSigningKey := do
  let invalidTime : Failure :=
    ⟨"INVALID_SIGNING_KEY_TIME", "signing key requires a valid increasing validity interval"⟩
  let validFrom ← require (service.dateTime input.validFrom) invalidTime
  let validUntil ← validUntilInput service input.validUntil invalidTime
  throwIf (∃ ending, validUntil = some ending ∧ ending ≤ validFrom) invalidTime
  let algorithm ← requireString input.algorithm "signingKey.algorithm" 1 40 anyText
  throwIf (algorithm ≠ evidenceAlgorithm)
    ⟨"UNSUPPORTED_EVIDENCE_ALGORITHM", "product evidence signing keys must use Ed25519"⟩
  let publicKeyPem ← requireString input.publicKeyPem "signingKey.publicKeyPem" 64 16384 anyText
  assertEd25519PublicKey service publicKeyPem
  let keyId ← requireString input.keyId "signingKey.keyId" 1 128 keyIdPattern
  pure { keyId, algorithm, publicKeyPem, validFrom, validUntil }

structure TenantInput where
  id : Option String
  legalName : Option String
  homeJurisdiction : Option String
  dataRegion : Option String

def validateTenantInput (input : TenantInput) : Except Failure Tenant := do
  let id ← requireString input.id "tenant.id" 3 63 tenantIdPattern
  let legalName ← requireString input.legalName "tenant.legalName" 2 200 anyText
  let homeJurisdiction ← requireString input.homeJurisdiction "tenant.homeJurisdiction" 2 2 countryPattern
  let dataRegion ← requireString input.dataRegion "tenant.dataRegion" 2 63 tenantIdPattern
  pure { id, legalName, homeJurisdiction, dataRegion, status := .onboarding }

structure InstitutionInput where
  id : Option String
  legalName : Option String
  jurisdiction : Option String
  publicKeyPem : Option String
  externalReference : Option String

/-- Whether a text stands inside another. -/
def includes (text part : String) : Bool := text.toList.tails.any fun rest => part.toList.isPrefixOf rest

def validateInstitutionInput (input : InstitutionInput) : Except Failure (Institution × Option String) := do
  let publicKeyPem ← requireString input.publicKeyPem "institution.publicKeyPem" 64 16384 anyText
  throwIf (includes publicKeyPem "BEGIN PUBLIC KEY" = false ∨ includes publicKeyPem "PRIVATE KEY" = true)
    ⟨"INVALID_INSTITUTION_KEY", "institution key must be a public-key PEM and must not contain private material"⟩
  assertEd25519PublicKey service publicKeyPem
  let id ← requireString input.id "institution.id" 3 100 institutionIdPattern
  let legalName ← requireString input.legalName "institution.legalName" 2 200 anyText
  let jurisdiction ← requireString input.jurisdiction "institution.jurisdiction" 2 2 countryPattern
  let externalReference ← match input.externalReference with
    | none => pure none
    | some text => (requireString (some text) "institution.externalReference" 1 200 anyText).map some
  pure (⟨id, legalName, jurisdiction, .active, publicKeyPem⟩, externalReference)

structure ProductInput where
  id : Option String
  name : Option String
  jurisdiction : Option String
  issuerId : Option String
  currency : Option String
  templateId : String
  /-- The members of `rules`, when it is an object. -/
  rules : Option (List (String × JsValue))

/-- `\{ ...members, key: value }` -/
def assign (members : List (String × JsValue)) (entry : String × JsValue) : List (String × JsValue) :=
  if entry.1 ∈ members.map (·.1) then members.map fun member => if member.1 = entry.1 then entry else member
  else members ++ [entry]

def lookup (members : List (String × JsValue)) (key : String) : Option JsValue :=
  (members.find? (·.1 = key)).map (·.2)

/-- An integer of basis points. -/
def isBasisPoints : Option JsValue → Bool
  | some (.number value) => decide (value.den = 1 ∧ 0 ≤ value ∧ value ≤ 10000)
  | _ => false

def validateRules (template : ProductTemplate) (currency : String) (suppliedRules : List (String × JsValue)) :
    Except Failure (List (String × JsValue)) := do
  let rules := assign (suppliedRules.foldl assign template.defaultRules) ("currency", .string currency)
  let classes ← stringList (lookup rules "allowedInvestorClasses") "rules.allowedInvestorClasses" anyText
  let jurisdictions ← stringList (lookup rules "allowedJurisdictions") "rules.allowedJurisdictions" countryPattern
  throwIf (isBasisPoints (lookup rules "maxPriceDeviationBps") = false)
    ⟨"INVALID_CATALOG_INPUT", "rules.maxPriceDeviationBps must be an integer from 0 to 10000"⟩
  pure (assign (assign rules ("allowedInvestorClasses", .array (classes.map .string)))
    ("allowedJurisdictions", .array (jurisdictions.map .string)))

def validateProductInput (input : ProductInput) (template : Option ProductTemplate) : Except Failure Product :=
  match template with
  | none => .error ⟨"UNKNOWN_PRODUCT_TEMPLATE", "active product template not found"⟩
  | some template => do
    throwIf (template.status ≠ .active) ⟨"UNKNOWN_PRODUCT_TEMPLATE", "active product template not found"⟩
    let currency ← requireString input.currency "product.currency" 3 3 currencyPattern
    let suppliedRules ← require input.rules ⟨"INVALID_CATALOG_INPUT", "product.rules must be an object"⟩
    let rules ← validateRules template currency suppliedRules
    let id ← requireString input.id "product.id" 3 100 productIdPattern
    let name ← requireString input.name "product.name" 3 200 anyText
    let jurisdiction ← requireString input.jurisdiction "product.jurisdiction" 2 2 countryPattern
    let issuerId ← requireString input.issuerId "product.issuerId" 3 100 institutionIdPattern
    pure { id, name, jurisdiction, issuerId, currency, status := .draft, ruleVersion := 1, rules }

end Service

end rwa.catalog
