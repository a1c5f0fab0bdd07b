import RwaControlPlane.ControlPlane.State

open attempt js_map js_value

namespace rwa.control_plane

variable (platform : Platform)

def TransactionType.text : TransactionType → String
  | .subscribe => "SUBSCRIBE"
  | .transfer => "TRANSFER"
  | .redeem => "REDEEM"

def TransactionState.text : TransactionState → String
  | .requested => "REQUESTED"
  | .policyChecked => "POLICY_CHECKED"
  | .cashReserved => "CASH_RESERVED"
  | .registerPending => "REGISTER_PENDING"
  | .registerFailed => "REGISTER_FAILED"
  | .requiresReview => "REQUIRES_REVIEW"
  | .settled => "SETTLED"
  | .reviewProposed => "REVIEW_PROPOSED"
  | .pendingApproval => "PENDING_APPROVAL"
  | .reviewApproved => "REVIEW_APPROVED"
  | .cancelled => "CANCELLED"
  | .retryBlocked => "RETRY_BLOCKED"
  | .replaced => "REPLACED"

def SettlementMode.text : SettlementMode → String
  | .standard => "STANDARD"
  | .restrictedExit => "RESTRICTED_EXIT"
  | .exceptionReview => "EXCEPTION_REVIEW"

def CashState.text : CashState → String
  | .confirmed => "CONFIRMED"
  | .released => "RELEASED"

/-- An optional text. A missing one is undefined. -/
def optional : Option String → JsValue
  | some text => .string text
  | none => .undefined

/-- An optional text. A missing one is null. -/
def nullable : Option String → JsValue
  | some text => .string text
  | none => .null

/-- A runtime error has no code. -/
def typeError (message : String) : Failure := ⟨"", message⟩

def now : Step Int := read (·.clock)

def record (event : Event) : Step Unit := do
  let time ← now
  modify fun plane =>
    { plane with events := plane.events ++ [⟨plane.events.length + 1, platform.isoText time, event⟩] }

/-- The hash of a canonical text. A value that has none cannot be hashed. -/
def sha256Canonical (value : JsValue) : Except Failure String :=
  match canonicalize platform.numberText value with
  | .ok (some text) => .ok (platform.sha256 text)
  | .ok none => .error (typeError "The data argument must be of type string")
  | .error message => .error (typeError message)

def toBigInt (value : String) : Except Failure Int :=
  match js_text.bigInt value with
  | some number => .ok number
  | none => .error (typeError s!"Cannot convert {value} to a BigInt")

def toNonNegativeInteger (value field : String) : Step Int := do
  let parsed ← lift (toBigInt value)
  ensure (0 ≤ parsed) ⟨"INVALID_AMOUNT", s!"{field} must be non-negative"⟩
  return parsed

/-- `BigInt` of a member that may be missing. -/
def optionalToNonNegativeInteger (value : Option String) (field : String) : Step Int := do
  let present ← require value (typeError "Cannot convert undefined to a BigInt")
  toNonNegativeInteger present field

/-- Whether a date is after a time. A text that is no date compares false. -/
def dateAfter (text : String) (time : Int) : Bool :=
  (platform.dateTime text).any fun date => time < date

/-- Whether a date is not after a time. -/
def dateUntil (text : String) (time : Int) : Bool :=
  (platform.dateTime text).any fun date => date ≤ time

/-- The members of a credential that its issuer signs. -/
def Credential.unsigned (credential : Credential) : JsValue :=
  .object ([("id", .string credential.id), ("issuerId", .string credential.issuerId),
    ("subjectId", .string credential.subjectId), ("productId", .string credential.productId),
    ("investorClass", .string credential.investorClass), ("jurisdiction", .string credential.jurisdiction),
    ("maxUnits", .string credential.maxUnits), ("validFrom", .string credential.validFrom),
    ("validUntil", .string credential.validUntil)] ++ credential.extra)

def EvidencePayload.value (payload : EvidencePayload) : JsValue :=
  .object ([("navPerUnit", optional payload.navPerUnit), ("currency", optional payload.currency)] ++ payload.extra)

/-- The members of an envelope that its source signs. -/
def Evidence.unsigned (evidence : Evidence) : JsValue :=
  .object ([("id", .string evidence.id), ("productId", .string evidence.productId),
    ("dataType", .string evidence.dataType), ("sourceInstitutionId", .string evidence.sourceInstitutionId),
    ("trustTier", .string evidence.trustTier), ("effectiveAt", .string evidence.effectiveAt),
    ("expiresAt", .string evidence.expiresAt), ("schemaVersion", .string evidence.schemaVersion),
    ("payload", evidence.payload.value), ("issuerId", optional evidence.issuerId)] ++ evidence.extra)

def FiniteRules.value (rules : FiniteRules) : JsValue :=
  .object ([("currency", .string rules.currency),
    ("allowedInvestorClasses", .array (rules.allowedInvestorClasses.map .string)),
    ("allowedJurisdictions", .array (rules.allowedJurisdictions.map .string)),
    ("maxPriceDeviationBps", .number rules.maxPriceDeviationBps)] ++ rules.extra)

/-- Whether the rules can be canonicalized: no value in them contains itself, and
none is a BigInt. -/
def ProductRules.canonicalizes (rules : ProductRules) : Bool :=
  rules.cycle.isNone && !hasBigIntMembers rules.extra

/-- Whether the signature of a statement is that of an institution. -/
def verifyStatement (institutionId : String) (body : JsValue) (signature : String) : Step Bool := do
  let institution ← read (·.institutions.get institutionId)
  match institution with
  | none => return false
  | some institution =>
    if signature = "" then return false
    else match canonicalize platform.numberText body with
      | .ok text => return platform.verify (text.getD "") institution.publicKeyPem signature
      | .error message => lift (.error (typeError message))

def hasRole (institutionId role : String) : Step Bool :=
  read fun plane => (plane.institutions.get institutionId).any fun institution => institution.roles.contains role

def product (productId : String) : Step Product := do
  let found ← read (·.products.get productId)
  require found ⟨"UNKNOWN_PRODUCT", "product not found"⟩

def activeProduct (productId : String) : Step Product := do
  let found ← product productId
  ensure (found.status = .active) ⟨"PRODUCT_NOT_ACTIVE", "product is not active"⟩
  return found

/-- Value of an entry of an object. -/
def member (key : String) (members : List (String × String)) : Option String :=
  (members.find? fun entry => entry.1 = key).map Prod.snd

def assertNewTransaction (id : String) : Step Unit := do
  let exists_ ← read (·.transactions.has id)
  ensure (exists_ = false) ⟨"DUPLICATE_TRANSACTION", "transaction already exists"⟩

/-- The balance maps that hold units. -/
inductive UnitLedger where
  | assetBalances
  | legalRegister
deriving DecidableEq

def Tables.units (tables : Tables) : UnitLedger → JsMap String Int
  | .assetBalances => tables.assetBalances
  | .legalRegister => tables.legalRegister

/-- Key of a holder's balance, of units of a product or of cash in a currency. -/
def balanceKey (accountId asset : String) : String := s!"{accountId}:{asset}"

def balanceOf (balances : JsMap String Int) (key : String) : Int := (balances.get key).getD 0

def assetOf (ledger : UnitLedger) (accountId productId : String) : Step Int :=
  read fun plane => balanceOf (plane.units ledger) (balanceKey accountId productId)

def credentialStatus (credentialId : String) : Step CredentialStatus := do
  let restriction ← read (·.credentialRestrictions.get credentialId)
  let credential ← read (·.credentials.get credentialId)
  let time ← now
  match restriction, credential with
  | some restriction, _ => return restriction.status
  | none, none => return .unknown
  | none, some credential =>
    if dateAfter platform credential.validFrom time then return .pending
    else if dateUntil platform credential.validUntil time then return .expired
    else return .active

def assertEligible (product : Product) (investorId credentialId : String) (additionalUnits : Int) : Step Unit := do
  let credential ← read (·.credentials.get credentialId)
  let credential ← require credential ⟨"UNKNOWN_CREDENTIAL", "credential not found"⟩
  let status ← credentialStatus platform credentialId
  ensure (status ≠ .restrictedExit) ⟨"CREDENTIAL_REVOKED", "credential revoked"⟩
  ensure (status = .active) ⟨"CREDENTIAL_TIME", "credential not active"⟩
  ensure (credential.productId = product.id) ⟨"CREDENTIAL_SCOPE", "credential not valid for product"⟩
  ensure (credential.subjectId = investorId) ⟨"CREDENTIAL_SUBJECT", "credential subject mismatch"⟩
  let signed ← verifyStatement platform credential.issuerId credential.unsigned credential.signature
  ensure (signed = true) ⟨"INVALID_SIGNATURE", "credential signature invalid"⟩
  let time ← now
  ensure (dateUntil platform credential.validFrom time = true ∧ dateAfter platform credential.validUntil time = true)
    ⟨"CREDENTIAL_TIME", "credential not active"⟩
  ensure (credential.investorClass ∈ product.rules.allowedInvestorClasses)
    ⟨"INVESTOR_CLASS", "investor class not allowed"⟩
  ensure (credential.jurisdiction ∈ product.rules.allowedJurisdictions)
    ⟨"INVESTOR_JURISDICTION", "jurisdiction not allowed"⟩
  let held ← assetOf .assetBalances investorId product.id
  let maxUnits ← lift (toBigInt credential.maxUnits)
  ensure (held + additionalUnits ≤ maxUnits) ⟨"HOLDING_LIMIT", "credential holding limit exceeded"⟩

def assertExitAllowed (product : Product) (investorId credentialId : String) : Step CredentialStatus := do
  let credential ← read (·.credentials.get credentialId)
  let credential ← require credential ⟨"UNKNOWN_CREDENTIAL", "credential not found"⟩
  ensure (credential.productId = product.id) ⟨"CREDENTIAL_SCOPE", "credential not valid for product"⟩
  ensure (credential.subjectId = investorId) ⟨"CREDENTIAL_SUBJECT", "credential subject mismatch"⟩
  let signed ← verifyStatement platform credential.issuerId credential.unsigned credential.signature
  ensure (signed = true) ⟨"INVALID_SIGNATURE", "credential signature invalid"⟩
  let status ← credentialStatus platform credentialId
  ensure (status ≠ .frozen) ⟨"CREDENTIAL_FROZEN", "credential is frozen by an authorized control"⟩
  ensure (status = .active ∨ status = .restrictedExit) ⟨"EXIT_NOT_ALLOWED", "credential cannot use controlled exit"⟩
  return status

/-- Newest evidence first. The dates were checked when the envelope was
accepted. -/
def newerEvidence (first second : StoredEvidence) : Prop :=
  (platform.dateTime second.effectiveAt).getD 0 ≤ (platform.dateTime first.effectiveAt).getD 0

instance : DecidableRel (newerEvidence platform) := fun first second =>
  inferInstanceAs
    (Decidable ((platform.dateTime second.effectiveAt).getD 0 ≤ (platform.dateTime first.effectiveAt).getD 0))

/-- The evidence of a type that is in effect, newest first. -/
def evidenceCandidates (evidence : List StoredEvidence) (productId dataType : String) (time : Int) :
    List StoredEvidence :=
  (evidence.filter fun item => item.productId = productId && item.dataType = dataType && item.status = .active &&
    dateUntil platform item.effectiveAt time).insertionSort (newerEvidence platform)

def currentEvidence (product : Product) (dataType : String) : Step StoredEvidence := do
  let stored ← read (·.evidence.values)
  let time ← now
  let candidates := evidenceCandidates platform stored product.id dataType time
  let evidence ← require candidates.head? ⟨"MISSING_EVIDENCE", s!"missing {dataType} evidence"⟩
  ensure (dateAfter platform evidence.expiresAt time = true) ⟨"EVIDENCE_EXPIRED", s!"{dataType} evidence expired"⟩
  return evidence

/-- The NAV price of an accepted envelope. -/
def navPrice (nav : StoredEvidence) : Step Int := do
  let text ← require nav.payload.navPerUnit (typeError "Cannot convert undefined to a BigInt")
  lift (toBigInt text)

/-- The hash of a policy snapshot. Rules with a cycle have none. -/
def policySnapshotHash (product : Product) (nav : StoredEvidence) : Except Failure String :=
  match product.rules.cycle with
  | some message => .error (typeError message)
  | none =>
    sha256Canonical platform (.object [("ruleVersion", .number product.ruleVersion),
      ("rules", product.rules.value), ("navEvidenceId", .string nav.id), ("navEffectiveAt", .string nav.effectiveAt),
      ("navExpiresAt", .string nav.expiresAt), ("navSchemaVersion", .string nav.schemaVersion)])

def policySnapshot (product : Product) (nav : StoredEvidence) : Step PolicySnapshot := do
  let hash ← lift (policySnapshotHash platform product nav)
  return ⟨product.ruleVersion, nav.id, nav.effectiveAt, nav.expiresAt, nav.schemaVersion, hash⟩

end rwa.control_plane
