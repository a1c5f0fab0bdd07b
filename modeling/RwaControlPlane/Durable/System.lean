import RwaControlPlane.Durable.Exceptions
import RwaControlPlane.Library.JsJson

open checked js_value
open rwa.gate (ProductStatus CredentialStatus uniqueViolation)
open rwa.control_plane
    (Platform FiniteRules ProductRules EvidencePayload CredentialRestriction Decision ControlPlane typeError)

namespace rwa.durable

variable (service : DurableWorkflowService)

def foreignKeyViolation : Failure := ⟨"23503", "insert violates foreign key constraint"⟩

/-- Store a value in a `jsonb` column. -/
def jsonb (value : JsValue) : Except Failure JsValue :=
  match stored service.isoText value with
  | .ok (some copy) => .ok copy
  | .ok none => .error ⟨"23502", "null value violates not-null constraint"⟩
  | .error message => .error (typeError message)

/-- The rules of a product, as they are read back from their column. `JSON.stringify`
refuses a value that contains itself. -/
def storedRules (rules : ProductRules) : Except Failure FiniteRules := do
  throwIf (rules.cycle ≠ none) (typeError "Converting circular structure to JSON")
  let _ ← jsonb service rules.value
  pure { rules.toFiniteRules with extra := jsonMembers service.isoText rules.extra }

def storedPayload (payload : EvidencePayload) : Except Failure EvidencePayload := do
  let _ ← jsonb service payload.value
  pure { payload with extra := jsonMembers service.isoText payload.extra }

def timestamptz (text : String) : Except Failure Int :=
  require (service.timestamptz text) ⟨"22007", "invalid input syntax for type timestamp with time zone"⟩

def productStatus : control_plane.ProductStatus → ProductStatus
  | .draft => .draft
  | .active => .active
  | .paused => .paused

/-- The status column of a credential. -/
def credentialStatus : Option CredentialRestriction → Except Failure CredentialStatus
  | none => .ok .active
  | some restriction =>
    match restriction.status with
    | .active => .ok .active
    | .restrictedExit => .ok .restrictedExit
    | .frozen => .ok .frozen
    | .expired => .ok .expired
    | .unknown => .error checkViolation
    | .pending => .error checkViolation

def productRoles : List String :=
  ["issuer", "distributor", "credential_issuer", "fund_administrator", "custodian", "transfer_agent",
    "cash_provider"]

def evidenceTypes : List String := ["nav", "custody_balance", "legal_register", "cash_state"]

section Bootstrap

/-- A row that is there already stays as it is, but has to have the same key. -/
def insertInstitution (db : Database) (institution : control_plane.Institution) : Except Failure Database := do
  let db := if institution.id ∈ db.institutions.map (·.id) then db
    else { db with institutions := db.institutions ++ [⟨institution.id, institution.publicKeyPem⟩] }
  let saved ← require (db.institutions.find? (·.id = institution.id)) (typeError "Cannot read properties of undefined")
  throwIf (saved.publicKeyPem ≠ institution.publicKeyPem)
    ⟨"BOOTSTRAP_KEY_MISMATCH", "institution key mismatch: " ++ institution.id⟩
  pure db

/-- Assign a role that nobody has. -/
def insertRole (productId createdAt : String) (db : Database) (assignment : String × String) :
    Except Failure Database := do
  let _ ← timestamptz service createdAt
  throwIf (assignment.1 ∉ productRoles) checkViolation
  if (productId, assignment.1) ∈ db.roleAssignments.map fun row => (row.productId, row.role) then pure db
  else
    throwIf (productId ∉ db.products.map (·.id) ∨ assignment.2 ∉ db.institutions.map (·.id)) foreignKeyViolation
    pure { db with roleAssignments := db.roleAssignments ++ [⟨productId, assignment.1, assignment.2⟩] }

def insertProduct (db : Database) (product : control_plane.Product) : Except Failure Database := do
  let rules ← storedRules service product.rules
  throwIf (¬(IsCurrency product.rules.currency ∧ 0 < product.ruleVersion)) checkViolation
  if product.id ∈ db.products.map (·.id) then
    product.roleAssignments.foldlM (insertRole service product.id product.createdAt) db
  else
    throwIf (product.issuerId ∉ db.institutions.map (·.id)) foreignKeyViolation
    let row : Product :=
      { id := product.id, issuerId := product.issuerId, currency := product.rules.currency
        status := productStatus product.status, ruleVersion := product.ruleVersion, rules }
    product.roleAssignments.foldlM (insertRole service product.id product.createdAt)
      { db with products := db.products ++ [row] }

def insertEvidence (db : Database) (evidence : control_plane.StoredEvidence) : Except Failure Database := do
  let payload ← storedPayload service evidence.payload
  let _ ← sha256Canonical service evidence.payload.value
  let effectiveAt ← timestamptz service evidence.effectiveAt
  let expiresAt ← timestamptz service evidence.expiresAt
  throwIf (evidence.dataType ∉ evidenceTypes ∨ ¬effectiveAt < expiresAt) checkViolation
  if evidence.id ∈ db.evidence.map (·.id) then pure db
  else
    throwIf (evidence.productId ∉ db.products.map (·.id) ∨
      evidence.sourceInstitutionId ∉ db.institutions.map (·.id)) foreignKeyViolation
    let row : Evidence :=
      { id := evidence.id, productId := evidence.productId, dataType := evidence.dataType
        effectiveAt, expiresAt, payload, status := .active }
    pure { db with evidence := db.evidence ++ [row] }

def insertCredential (plane : ControlPlane) (db : Database) (credential : control_plane.Credential) :
    Except Failure Database := do
  let _ ← jsonb service credential.unsigned
  let maxUnits ← require (service.numeric credential.maxUnits) ⟨"22P02", "invalid input syntax for type numeric"⟩
  let validFrom ← timestamptz service credential.validFrom
  let validUntil ← timestamptz service credential.validUntil
  let status ← credentialStatus (plane.credentialRestrictions.get credential.id)
  throwIf (maxUnits ≤ 0 ∨ ¬validFrom < validUntil) checkViolation
  if credential.id ∈ db.credentials.map (·.id) then pure db
  else
    throwIf (credential.productId ∉ db.products.map (·.id) ∨
      credential.issuerId ∉ db.institutions.map (·.id)) foreignKeyViolation
    let row : Credential :=
      { id := credential.id, productId := credential.productId, subjectRef := credential.subjectId
        investorClass := credential.investorClass, jurisdiction := credential.jurisdiction
        maxUnits, validFrom, validUntil, status }
    pure { db with credentials := db.credentials ++ [row] }

/-- Type of the cash account of an owner. -/
def cashType (issuerId owner : String) : AccountType :=
  if owner = issuerId then .issuer else if owner = "EXTERNAL_CASH" then .cashClearing else .investor

/-- The accounts of an owner: cash for all but the treasury, units for all but
the clearing of external cash. -/
def ensureOwner (product : control_plane.Product) (db : Database) (owner : String) : Database :=
  let db := if owner = "TREASURY" then db
    else db.ensureLedgerAccount product.id owner product.rules.currency (cashType product.issuerId owner)
  if owner = "EXTERNAL_CASH" then db
  else
    let unitType := if owner = "TREASURY" then .treasury else .investor
    (db.ensureLedgerAccount product.id owner (unitAssetOf product.id) unitType).ensureRegisterAccount product.id owner
      (unitAssetOf product.id) unitType

/-- The owners of a product's accounts. The accounts of an owner that is named
twice are there already. -/
def ownersOf (plane : ControlPlane) (product : control_plane.Product) : List String :=
  [product.issuerId, "EXTERNAL_CASH", "TREASURY"] ++
    ((plane.credentials.values.filter (·.productId = product.id)).map (·.subjectId))

def ensureAccounts (plane : ControlPlane) (db : Database) (product : control_plane.Product) : Database :=
  ((ownersOf plane product).foldl (ensureOwner product) db).ensureLedgerAccount product.id product.issuerId
    product.rules.currency .fee

/-- The owner and the currency of a cash balance: what stands before and after
the last colon. -/
def splitKey (key : String) : String × String :=
  let currency := key.toList.reverse.takeWhile (· ≠ ':')
  let owner := (key.toList.reverse.drop currency.length).tail
  (String.ofList owner.reverse, String.ofList currency.reverse)

/-- Open a cash balance against the clearing of external cash, once. -/
def openBalance (plane : ControlPlane) (db : Database) (entry : String × Int) : Except Failure Database :=
  if entry.2 = 0 then .ok db
  else
    let (owner, currency) := splitKey entry.1
    match plane.products.values.find? (·.rules.currency = currency) with
    | none => .ok db
    | some product =>
      let batchId := "opening:" ++ product.id ++ ":" ++ owner ++ ":" ++ currency
      if batchId ∈ db.ledgerBatches.map (·.id) then .ok db
      else
        db.appendLedgerBatch batchId none
          [⟨ledgerAccountId product.id owner currency .investor, currency, entry.2⟩,
            ⟨ledgerAccountId product.id "EXTERNAL_CASH" currency .cashClearing, currency, -entry.2⟩]

/-- Load a control plane: what the database has already stays as it is. -/
def bootstrapFromControlPlane (plane : ControlPlane) (db : Database) : Except Failure (Unit × Database) := do
  let db ← plane.institutions.values.foldlM insertInstitution db
  let db ← plane.products.values.foldlM (insertProduct service) db
  let db ← plane.evidence.values.foldlM (insertEvidence service) db
  let db ← plane.credentials.values.foldlM (insertCredential service plane) db
  let db := plane.products.values.foldl (ensureAccounts plane) db
  let db ← plane.cashBalances.entries.foldlM (openBalance plane) db
  pure ((), db)

end Bootstrap

def setProductStatus (productId : String) (status : ProductStatus) (actorRef : String) (db : Database) :
    Except Failure ((String × ProductStatus) × Database) := do
  throwIf (¬(status = .active ∨ status = .paused))
    ⟨"INVALID_PRODUCT_STATUS", "product status must be ACTIVE or PAUSED"⟩
  throwIf (actorRef = "") ⟨"MISSING_ACTOR", "product status change requires an actor"⟩
  let current ← require (db.products.find? (·.id = productId)) ⟨"UNKNOWN_PRODUCT", "product not found"⟩
  let expected := if status = .paused then ProductStatus.active else .paused
  throwIf (current.status ≠ expected)
    ⟨"INVALID_PRODUCT_STATE",
      "product must be " ++ (if status = .paused then "ACTIVE" else "PAUSED") ++ " before transition"⟩
  pure ((productId, status),
    { db with products := db.products.map fun row => if row.id = productId then { row with status } else row })

def restrictCredential (credentialId actorRef reason : String) (db : Database) :
    Except Failure ((String × CredentialStatus) × Database) := do
  throwIf (actorRef = "") ⟨"MISSING_ACTOR", "credential restriction requires an actor"⟩
  throwIf (reason = "") ⟨"MISSING_REASON", "credential restriction requires a reason"⟩
  throwIf (¬∃ row ∈ db.credentials, row.id = credentialId ∧ row.status = .active)
    ⟨"INVALID_CREDENTIAL_STATE", "credential is not active"⟩
  pure ((credentialId, .restrictedExit),
    { db with
      credentials := db.credentials.map fun row =>
        if row.id = credentialId then { row with status := .restrictedExit } else row })

/-- The settlement calls, which have an idempotency key. -/
inductive Operation
  | subscribe | transfer | redeem | simulateRegisterFailure
deriving DecidableEq

/-- The type under which an operation is recorded. -/
def Operation.type : Operation → gate.TransactionType
  | .subscribe => .subscribe
  | .transfer => .transfer
  | .redeem => .redeem
  | .simulateRegisterFailure => .transfer

def settle (operation : Operation) (request : Request) (now : Int) (db : Database) :
    Except Failure (Receipt × Database) :=
  settleInTransaction service operation.type request (operation = .simulateRegisterFailure) now db

/-- A call of the service. A plane to load is one that calls have led to. -/
inductive Call
  | bootstrapFromControlPlane (platform : Platform) (calls : List control_plane.Action)
  | setProductStatus (productId : String) (status : ProductStatus) (actorRef : String)
  | restrictCredential (credentialId actorRef reason : String)
  | settle (operation : Operation) (request : Request)
  | proposeExceptionResolution (caseId makerId : String) (decision : Decision)
      (replacementTransactionId : Option String)
  | approveExceptionResolution (caseId checkerId : String) (decision : ApprovalDecision)

/-- A call, and the time at which it is made. -/
structure Action where
  now : Int
  call : Call

/-- What a call returns. -/
inductive Reply
  | done
  | product (productId : String) (state : ProductStatus)
  | credential (credentialId : String) (state : CredentialStatus)
  | receipt (receipt : Receipt)
  | proposed (proposed : Proposed)
  | decided (decided : Decided)
deriving DecidableEq

/-- Transactions are serializable, so calls take effect one after another. -/
def respond (db : Database) (action : Action) : Except Failure Reply × Database :=
  match action.call with
  | .bootstrapFromControlPlane platform calls =>
    commit db fun db => (bootstrapFromControlPlane service (control_plane.run platform calls) db).map
      fun result => (.done, result.2)
  | .setProductStatus productId status actorRef =>
    commit db fun db => (setProductStatus productId status actorRef db).map
      fun result => (.product result.1.1 result.1.2, result.2)
  | .restrictCredential credentialId actorRef reason =>
    commit db fun db => (restrictCredential credentialId actorRef reason db).map
      fun result => (.credential result.1.1 result.1.2, result.2)
  | .settle operation request =>
    commit db fun db => (settle service operation request action.now db).map fun result => (.receipt result.1, result.2)
  | .proposeExceptionResolution caseId makerId decision replacementTransactionId =>
    commit db fun db => (proposeExceptionResolution caseId makerId decision replacementTransactionId db).map
      fun result => (.proposed result.1, result.2)
  | .approveExceptionResolution caseId checkerId decision =>
    commit db fun db => (approveExceptionResolution service caseId checkerId decision action.now db).map
      fun result => (.decided result.1, result.2)

def step (db : Database) (action : Action) : Database := (respond service db action).2

/-- The state after some calls on an empty database. -/
def run (actions : List Action) : Database := runs.run (step service) Database.empty actions

end rwa.durable
