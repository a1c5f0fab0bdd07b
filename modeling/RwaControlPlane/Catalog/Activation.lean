import RwaControlPlane.Catalog.Service
import RwaControlPlane.Library.Runs

open checked js_value
open rwa.gate (ProductStatus uniqueViolation)

namespace rwa.catalog

section Service

variable (service : ProductCatalogService)

/-- The object that an institution signs. -/
def productEvidencePayload (tenantId productId : String) (evidence : Evidence) : JsValue :=
  .object
    [("envelope", .string evidenceEnvelope),
      ("tenantId", .string tenantId),
      ("productId", .string productId),
      ("evidenceId", .string evidence.id),
      ("requirementCode", .string evidence.requirementCode),
      ("sourceInstitutionId", .string evidence.sourceInstitutionId),
      ("documentSchemaVersion", .string evidence.schemaVersion),
      ("contentHash", .string evidence.contentHash),
      ("issuedAt", .string (service.isoText evidence.issuedAt)),
      ("expiresAt", .string (service.isoText evidence.expiresAt)),
      ("signatureAlgorithm", .string evidenceAlgorithm),
      ("signingKeyId", .string evidence.keyId)]

def canonicalizeProductEvidence (value : JsValue) : Except Failure String :=
  match canonicalize service.numberText value with
  | .ok text => .ok (text.getD "undefined")
  | .error message => .error (typeError message)

/-- Value of a character of the base64 alphabet. -/
def base64Value (char : Char) : Option Nat :=
  if char.isUpper then some (char.toNat - 65)
  else if char.isLower then some (char.toNat - 71)
  else if char.isDigit then some (char.toNat + 4)
  else if char = '+' then some 62
  else if char = '/' then some 63
  else none

/-- The last digit before the padding carries no bits that are lost. -/
def paddingIsCanonical (digits : List Char) (padding : Nat) : Bool :=
  match digits.getLast?.bind base64Value with
  | none => false
  | some value => if padding = 2 then value % 16 == 0 else if padding = 1 then value % 4 == 0 else padding == 0

/-- Whether a text is what base64 writes. -/
def strictBase64 (text : String) : Except Failure Unit :=
  let digits := text.toList.takeWhile (· ≠ '=')
  let padding := text.toList.dropWhile (· ≠ '=')
  throwIf (js_text.length text < 4 ∨ 16384 < js_text.length text ∨ js_text.length text % 4 ≠ 0 ∨
      ¬digits.all (fun char => (base64Value char).isSome) ∨ ¬padding.all (· = '=') ∨
      paddingIsCanonical digits padding.length = false)
    ⟨"INVALID_EVIDENCE_SIGNATURE_ENCODING", "evidence signature must be canonical base64"⟩

/-- What is verified is the hash of the payload that is stored. -/
def verifyProductEvidenceSignature (tenantId productId : String) (evidence : Evidence) (publicKeyPem : String) :
    Except Failure String := do
  assertEd25519PublicKey service publicKeyPem
  strictBase64 evidence.signature
  let text ← canonicalizeProductEvidence service (productEvidencePayload service tenantId productId evidence)
  throwIf (service.verify text publicKeyPem evidence.signature = false)
    ⟨"INVALID_EVIDENCE_SIGNATURE", "product activation evidence signature is invalid"⟩
  pure (service.sha256 text)

/-- The checks on evidence that need no database. -/
def assertEvidencePolicy (evidence : Evidence) (now : Int) : Except Failure Unit := do
  throwIf (evidence.envelopeVersion ≠ evidenceEnvelope)
    ⟨"UNSUPPORTED_EVIDENCE_ENVELOPE", "product activation evidence envelope version is unsupported"⟩
  throwIf (evidence.signatureAlgorithm ≠ evidenceAlgorithm)
    ⟨"UNSUPPORTED_EVIDENCE_ALGORITHM", "product activation evidence signature algorithm is unsupported"⟩
  throwIf (service.maxEvidenceClockSkewMs < evidence.issuedAt - now)
    ⟨"EVIDENCE_FROM_FUTURE", "product activation evidence issuedAt is too far in the future"⟩
  throwIf (evidence.expiresAt ≤ now) ⟨"EVIDENCE_EXPIRED", "product activation evidence has expired"⟩
  throwIf (service.maxEvidenceValidityMs < evidence.expiresAt - evidence.issuedAt)
    ⟨"EVIDENCE_VALIDITY_TOO_LONG", "product activation evidence validity exceeds policy"⟩

/-- The key that signs evidence is active, and was valid when it signed. -/
def assertSigningKey (evidence : Evidence) (key : SigningKey) : Except Failure Unit := do
  throwIf (key.algorithm ≠ evidence.signatureAlgorithm ∨ key.status ≠ .active ∨ key.revokedAt ≠ none)
    ⟨"EVIDENCE_SIGNING_KEY_UNAVAILABLE", "institution evidence signing key is not active"⟩
  throwIf (evidence.issuedAt < key.validFrom ∨ ∃ ending, key.validUntil = some ending ∧ ending ≤ evidence.issuedAt)
    ⟨"EVIDENCE_SIGNING_KEY_OUTSIDE_VALIDITY", "evidence was signed outside the key validity window"⟩

/-- Store evidence, and let it satisfy its requirement. -/
def Database.satisfy (db : Database) (evidence : ActivationEvidence) : Database :=
  { db with
    evidence := db.evidence ++ [evidence]
    requirements := db.requirements.map fun row =>
      if row.productId = evidence.productId ∧ row.requirementCode = evidence.requirementCode then
        { row with status := .satisfied, evidenceId := some evidence.id }
      else row }

def attachActivationEvidence (tenantId actorRef : String) (productId : Option String)
    (input : EvidenceInput) (now : Int) (db : Database) : Except Failure (ActivationEvidence × Database) := do
  let productId ← requireString productId "productId" 3 100 productIdPattern
  let evidence ← evidenceInput service input
  assertEvidencePolicy service evidence now
  let product ← db.product tenantId productId
  throwIf (product.status ≠ .draft)
    ⟨"PRODUCT_CONFIGURATION_LOCKED", "activation evidence can only be attached to a draft product"⟩
  let requirement ← require (db.findRequirement productId evidence.requirementCode)
    ⟨"UNKNOWN_EVIDENCE_REQUIREMENT", "product evidence requirement not found"⟩
  db.approvedInstitution tenantId evidence.sourceInstitutionId
  throwIf (¬∃ row ∈ db.rolesOf productId,
      row.role = requirement.responsibleRole ∧ row.institutionId = evidence.sourceInstitutionId)
    ⟨"EVIDENCE_SOURCE_ROLE_MISMATCH", "evidence source is not assigned to the responsible product role"⟩
  let key ← require (db.findSigningKey evidence.sourceInstitutionId evidence.keyId)
    ⟨"UNKNOWN_EVIDENCE_SIGNING_KEY", "institution evidence signing key is not registered"⟩
  assertSigningKey evidence key
  let canonicalPayloadHash ← verifyProductEvidenceSignature service tenantId productId evidence key.publicKeyPem
  throwIf (evidence.id ∈ db.evidence.map (·.id)) uniqueViolation
  let row : ActivationEvidence :=
    { id := evidence.id, productId, requirementCode := evidence.requirementCode
      sourceInstitutionId := evidence.sourceInstitutionId, schemaVersion := evidence.schemaVersion
      contentHash := evidence.contentHash, signature := evidence.signature, issuedAt := evidence.issuedAt
      expiresAt := evidence.expiresAt, receivedBy := actorRef, envelopeVersion := evidence.envelopeVersion
      signatureAlgorithm := evidence.signatureAlgorithm, signingKeyId := evidence.keyId, canonicalPayloadHash
      verificationStatus := .verified, verifierVersion := evidenceVerifier, verifiedAt := now }
  let next ← ((db.satisfy row).bumpConfiguration productId).snapshot tenantId productId actorRef
    "product.activation_evidence_attached"
  pure (row, next)

namespace Database

def approvalsOf (db : Database) (productId : String) : List ActivationApproval :=
  db.activationApprovals.filter (·.productId = productId)

/-- The proposals of a product that no checker has decided. -/
def pendingActivations (db : Database) (productId : String) : List ActivationApproval :=
  (db.approvalsOf productId).filter fun row => decide (row.role = .maker) &&
    !(db.approvalsOf productId).any fun other => decide (other.approvalRound = row.approvalRound ∧
      other.role = .checker)

def activationRound (db : Database) (productId : String) : Nat :=
  ((db.approvalsOf productId).map (·.approvalRound)).foldl max 0 + 1

/-- The undecided proposal of the highest round. -/
def pendingActivation (db : Database) (productId : String) : Option ActivationApproval :=
  ((db.pendingActivations productId).insertionSort fun first second =>
    second.approvalRound ≤ first.approvalRound).head?

def insertActivationApproval (db : Database) (row : ActivationApproval) : Except Failure Database := do
  throwIf (row.reason.toList.length < 3) checkViolation
  throwIf ((row.productId, row.approvalRound, row.role) ∈
      db.activationApprovals.map fun other => (other.productId, other.approvalRound, other.role)) uniqueViolation
  pure { db with activationApprovals := db.activationApprovals ++ [row] }

/-- Activate a draft product. -/
def activate (db : Database) (productId : String) : Database :=
  { db with
    products := db.products.map fun row =>
      if row.id = productId ∧ row.status = .draft then { row with status := .active } else row }

end Database

def proposeActivation (tenantId actorRef : String) (productId reason : Option String) (clock : Int) (db : Database) :
    Except Failure (Nat × Database) := do
  let productId ← requireString productId "productId" 3 100 productIdPattern
  let reason ← requireString reason "activation.reason" 3 1000 anyText
  let product ← db.product tenantId productId
  throwIf (product.status ≠ .draft ∨ product.configurationStatus ≠ .readyForEvidence)
    ⟨"PRODUCT_NOT_READY_FOR_ACTIVATION", "product must be draft and READY_FOR_EVIDENCE"⟩
  db.assertActivationReady tenantId productId product.requiredRoles clock
  throwIf (db.pendingActivations productId ≠ [])
    ⟨"ACTIVATION_ALREADY_PENDING", "product activation already has a pending proposal"⟩
  let round := db.activationRound productId
  let next ← db.insertActivationApproval ⟨productId, round, .maker, actorRef, .activate, reason⟩
  let next ← (next.setConfiguration productId .activationPending).snapshot tenantId productId actorRef
    "product.activation_proposed"
  pure (round, next)

/-- The decision of a checker, as its row holds it. -/
def ReviewDecision.activation : ReviewDecision → ActivationDecision
  | approve => .approve
  | reject => .reject

def decideActivation (tenantId actorRef : String) (productId : Option String) (input : ReviewInput) (clock : Int)
    (db : Database) : Except Failure (ConfigurationStatus × Database) := do
  let productId ← requireString productId "productId" 3 100 productIdPattern
  let review ← reviewInput input
  let product ← db.product tenantId productId
  throwIf (product.status ≠ .draft ∨ product.configurationStatus ≠ .activationPending)
    ⟨"ACTIVATION_NOT_PENDING", "product activation is not pending"⟩
  let maker ← require (db.pendingActivation productId)
    ⟨"ACTIVATION_NOT_PENDING", "activation maker proposal is missing"⟩
  throwIf (maker.actorRef = actorRef) ⟨"MAKER_CHECKER_CONFLICT", "activation maker and checker must differ"⟩
  let next ← db.insertActivationApproval
    ⟨productId, maker.approvalRound, .checker, actorRef, review.decision.activation, review.reason⟩
  match review.decision with
  | .approve =>
    next.assertActivationReady tenantId productId product.requiredRoles clock
    let next ← ((next.activate productId).setConfiguration productId .active).snapshot tenantId productId actorRef
      "product.activation_approved"
    pure (.active, next)
  | .reject =>
    let next ← (next.setConfiguration productId .readyForEvidence).snapshot tenantId productId actorRef
      "product.activation_rejected"
    pure (.readyForEvidence, next)

/-- The pause and the resumption of a product, which the workflow service
offers. -/
def setProductStatus (productId : String) (status : ProductStatus) (actorRef : String) (db : Database) :
    Except Failure (ProductStatus × Database) := do
  throwIf (¬(status = .active ∨ status = .paused))
    ⟨"INVALID_PRODUCT_STATUS", "product status must be ACTIVE or PAUSED"⟩
  throwIf (actorRef = "") ⟨"MISSING_ACTOR", "product status change requires an actor"⟩
  let current ← require (db.findProduct productId) ⟨"UNKNOWN_PRODUCT", "product not found"⟩
  let expected := if status = .paused then ProductStatus.active else .paused
  throwIf (current.status ≠ expected)
    ⟨"INVALID_PRODUCT_STATE",
      "product must be " ++ (if status = .paused then "ACTIVE" else "PAUSED") ++ " before transition"⟩
  pure (status,
    { db with products := db.products.map fun row => if row.id = productId then { row with status } else row })

/-- A call of the catalog, or of the workflow service on a product. -/
inductive Call
  | provisionTenant (input : TenantInput)
  | registerInstitution (tenantId : String) (input : InstitutionInput)
  | registerInstitutionSigningKey (tenantId : String) (institutionId : Option String) (input : SigningKeyInput)
  | revokeInstitutionSigningKey (tenantId : String) (institutionId keyId reason : Option String)
  | proposeInstitutionReview (tenantId actorRef : String) (institutionId : Option String) (input : ReviewInput)
  | decideInstitutionReview (tenantId actorRef : String) (institutionId : Option String) (input : ReviewInput)
  | createProduct (tenantId actorRef : String) (input : ProductInput)
  | assignRole (tenantId actorRef : String) (productId : Option String) (role : String) (institutionId : Option String)
  | attachActivationEvidence (tenantId actorRef : String) (productId : Option String) (input : EvidenceInput)
  | proposeActivation (tenantId actorRef : String) (productId reason : Option String)
  | decideActivation (tenantId actorRef : String) (productId : Option String) (input : ReviewInput)
  | setProductStatus (productId : String) (status : ProductStatus) (actorRef : String)

/-- A call, with the time of the service and the time of the database. -/
structure Action where
  now : Int
  clock : Int
  call : Call

/-- What a call returns. -/
inductive Reply
  | tenant (tenant : Tenant)
  | institution (institution : Institution)
  | signingKey (key : NewSigningKey)
  | revoked (institutionId keyId : String)
  | reviewProposed (round : Nat)
  | reviewDecided (state : OnboardingStatus)
  | product (product : Product)
  | roleAssigned (configurationStatus : ConfigurationStatus)
  | evidence (row : ActivationEvidence)
  | activationProposed (round : Nat)
  | activationDecided (state : ConfigurationStatus)
  | productStatus (status : ProductStatus)

/-- The transaction of a call. -/
def perform (action : Action) (db : Database) : Except Failure (Reply × Database) :=
  match action.call with
  | .provisionTenant input => (provisionTenant input db).map fun result => (.tenant result.1, result.2)
  | .registerInstitution tenantId input =>
    (registerInstitution service tenantId input action.clock db).map fun result => (.institution result.1, result.2)
  | .registerInstitutionSigningKey tenantId institutionId input =>
    (registerInstitutionSigningKey service tenantId institutionId input db).map
      fun result => (.signingKey result.1, result.2)
  | .revokeInstitutionSigningKey tenantId institutionId keyId reason =>
    (revokeInstitutionSigningKey tenantId institutionId keyId reason action.now db).map
      fun result => (.revoked result.1.1 result.1.2, result.2)
  | .proposeInstitutionReview tenantId actorRef institutionId input =>
    (proposeInstitutionReview tenantId actorRef institutionId input db).map
      fun result => (.reviewProposed result.1, result.2)
  | .decideInstitutionReview tenantId actorRef institutionId input =>
    (decideInstitutionReview tenantId actorRef institutionId input db).map
      fun result => (.reviewDecided result.1, result.2)
  | .createProduct tenantId actorRef input =>
    (createProduct service tenantId actorRef input action.clock db).map fun result => (.product result.1, result.2)
  | .assignRole tenantId actorRef productId role institutionId =>
    (assignRole tenantId actorRef productId role institutionId action.clock db).map
      fun result => (.roleAssigned result.1, result.2)
  | .attachActivationEvidence tenantId actorRef productId input =>
    (attachActivationEvidence service tenantId actorRef productId input action.now db).map
      fun result => (.evidence result.1, result.2)
  | .proposeActivation tenantId actorRef productId reason =>
    (proposeActivation tenantId actorRef productId reason action.clock db).map
      fun result => (.activationProposed result.1, result.2)
  | .decideActivation tenantId actorRef productId input =>
    (decideActivation tenantId actorRef productId input action.clock db).map
      fun result => (.activationDecided result.1, result.2)
  | .setProductStatus productId status actorRef =>
    (setProductStatus productId status actorRef db).map fun result => (.productStatus result.1, result.2)

/-- Transactions are serializable, so calls take effect one after another. -/
def respond (db : Database) (action : Action) : Except Failure Reply × Database :=
  commit db (perform service action)

def step (db : Database) (action : Action) : Database := (respond service db action).2

/-- The state after some calls on the migrated catalog. -/
def run (actions : List Action) : Database := runs.run (step service) Database.migrated actions

end Service

end rwa.catalog
