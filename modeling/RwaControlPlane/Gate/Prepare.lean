import RwaControlPlane.Gate.EligibleAcceptance

open checked rwa.security rwa.merkle

namespace rwa.gate

/-- The request whose hash binds an idempotency key. -/
structure ConfidentialRequest where
  transactionId : String
  productId : String
  fee : FieldElement
  recipient : FieldElement
  relayer : FieldElement
  expiresAt : Int
  senderInvestorId : String
  senderCredentialId : String
  recipientInvestorId : String
  recipientCredentialId : String
deriving DecidableEq

structure ConfidentialTransferService where
  circuitId : String
  circuitVersion : String
  tenantId : String
  requestHash : ConfidentialRequest → String

structure PrepareRequest where
  transactionId : String
  idempotencyKey : String
  productId : String
  fee : String
  recipient : String
  relayer : String
  authorizedBy : String
  tenantId : String
  expiresAt : Option Int
  senderInvestorId : String
  senderCredentialId : String
  recipientInvestorId : String
  recipientCredentialId : String
  originatingInstitutionId : String

/-- The transaction of a request, as it is inserted. -/
def PrepareRequest.transaction (request : PrepareRequest) (requestHash : String) : TransactionIntent where
  id := request.transactionId
  tenantId := request.tenantId
  productId := request.productId
  transactionType := .transfer
  currentState := .requested
  requestHash := requestHash
  settlementRail := .confidentialNote
  originatingInstitutionId := some request.originatingInstitutionId

/-- The instruction of a request. It names the parties. -/
def PrepareRequest.instruction (request : PrepareRequest) (requestHash : String) (fee recipient relayer : FieldElement)
    (expiresAt : Int) : ExecutionInstruction where
  transactionId := request.transactionId
  tenantId := request.tenantId
  requestHash := requestHash
  fee := fee
  recipient := recipient
  relayer := relayer
  authorizedBy := request.authorizedBy
  expiresAt := expiresAt
  senderSubjectRef := request.senderInvestorId
  senderCredentialId := request.senderCredentialId
  recipientSubjectRef := request.recipientInvestorId
  recipientCredentialId := request.recipientCredentialId

/-- The idempotency key of a row of `transaction_intents`. -/
structure IntentKey where
  tenantId : String
  idempotencyKey : String
  transactionId : String
deriving DecidableEq

/-- The tables of the rail with the idempotency keys of the transactions. -/
structure KeyedDatabase where
  db : Database
  keys : List IntentKey

/-- The transaction of an idempotency key: a new one, or the one that has used
the key with the same request. -/
def createTransactionIntent (keyed : KeyedDatabase) (row : TransactionIntent) (idempotencyKey : String) :
    Except Failure (Bool × TransactionIntent × KeyedDatabase) :=
  match keyed.keys.find? fun key => key.tenantId = row.tenantId && key.idempotencyKey = idempotencyKey with
  | none => do
    throwIf (row.id ∈ keyed.db.transactions.map (·.id)) uniqueViolation
    pure (true, row,
      { db := { keyed.db with transactions := keyed.db.transactions ++ [row] }
        keys := keyed.keys ++ [{ tenantId := row.tenantId, idempotencyKey, transactionId := row.id }] })
  | some key => do
    let existing ← require (keyed.db.transactions.find? (·.id = key.transactionId))
      ⟨"IDEMPOTENCY_CONFLICT", "idempotency key reused for a different request"⟩
    throwIf (existing.requestHash ≠ row.requestHash ∨ existing.originatingInstitutionId ≠ row.originatingInstitutionId)
      ⟨"IDEMPOTENCY_CONFLICT", "idempotency key reused for a different request"⟩
    pure (false, existing, keyed)

/-- An instruction names its parties, once for each transaction. -/
def Database.insertInstruction (db : Database) (row : ExecutionInstruction) : Except Failure Database := do
  throwIf (row.transactionId ∈ db.instructions.map (·.transactionId)) uniqueViolation
  pure { db with instructions := db.instructions ++ [row] }

/-- The field elements of an instruction. -/
def instructionField (value label : String) : Except Failure FieldElement :=
  rethrow (fun cause => ⟨"INVALID_CONFIDENTIAL_INSTRUCTION", cause.message⟩) (normalizeFieldElement value label)

def assertPartiesNamed (request : PrepareRequest) : Except Failure Unit := do
  for (label, value) in [("senderInvestorId", request.senderInvestorId),
      ("senderCredentialId", request.senderCredentialId), ("recipientInvestorId", request.recipientInvestorId),
      ("recipientCredentialId", request.recipientCredentialId)] do
    throwIf (¬js_text.Bounded value 200)
      ⟨"INVALID_CONFIDENTIAL_INSTRUCTION", label ++ " is required for an eligible confidential transfer"⟩

/-- What a prepared transfer returns. -/
structure PreparedTransfer where
  transactionId : String
  state : TransactionState
  contextId : FieldElement
  assetType : FieldElement
  expiresAt : Int
  created : Bool
deriving DecidableEq

/-- The product with its active context for the service's circuit. -/
def ConfidentialTransferService.policy (service : ConfidentialTransferService) (db : Database)
    (productId tenantId : String) : Option (Product × ProductContext) := do
  let product ← db.reference.products.find? fun row => row.id = productId && row.status = .active
  let context ← single (db.contexts.filter fun context =>
    context.productId = product.id && !context.retired && context.circuitId = service.circuitId &&
      context.circuitVersion = service.circuitVersion &&
      (db.findCircuit context.circuitId context.circuitVersion).any (·.status = .active) &&
      db.tenantHasProduct product.id tenantId)
  pure (product, context)

/-- Prepare a confidential transfer between eligible parties. -/
def prepare (service : ConfidentialTransferService) (request : PrepareRequest) (now : Int) (keyed : KeyedDatabase) :
    Except Failure (PreparedTransfer × KeyedDatabase) := do
  throwIf (request.tenantId ≠ service.tenantId)
    ⟨"TENANT_SCOPE_MISMATCH", "confidential transfer tenant is outside this runtime scope"⟩
  throwIf (¬js_text.Bounded request.idempotencyKey 200)
    ⟨"INVALID_IDEMPOTENCY_KEY", "a bounded idempotency key is required"⟩
  throwIf (¬js_text.Bounded request.transactionId 200 ∨ ¬js_text.Bounded request.productId 200 ∨
      ¬js_text.Bounded request.authorizedBy 200)
    ⟨"INVALID_CONFIDENTIAL_INSTRUCTION", "product and server-authorized actor are required"⟩
  let expiresAt ← require (request.expiresAt.filter fun expiry => now < expiry && expiry - now ≤ 24 * 60 * 60 * 1000)
    ⟨"INVALID_CONFIDENTIAL_INSTRUCTION", "expiry must be in the future and no more than 24 hours away"⟩
  let fee ← instructionField request.fee "fee"
  let recipient ← instructionField request.recipient "recipient"
  let relayer ← instructionField request.relayer "relayer"
  throwIf (18446744073709551616 ≤ fee.val)
    ⟨"INVALID_CONFIDENTIAL_INSTRUCTION", "fee must fit in an unsigned 64-bit integer"⟩
  throwIf (recipient = 0) ⟨"INVALID_CONFIDENTIAL_INSTRUCTION", "recipient cannot be the zero field element"⟩
  throwIf (¬js_text.Bounded request.originatingInstitutionId 200)
    ⟨"AUTHORIZATION_DENIED", "confidential transfers must be originated by an institution member"⟩
  assertPartiesNamed request
  let requestHash := service.requestHash
    { transactionId := request.transactionId, productId := request.productId, fee, recipient, relayer, expiresAt
      senderInvestorId := request.senderInvestorId, senderCredentialId := request.senderCredentialId
      recipientInvestorId := request.recipientInvestorId, recipientCredentialId := request.recipientCredentialId }
  let (product, context) ← require (service.policy keyed.db request.productId request.tenantId)
    ⟨"UNAPPROVED_PROOF_CONTEXT", "product has no active context for the pinned proof circuit"⟩
  assertEligibleCredential keyed.db.reference product.id product.rules request.senderInvestorId
    request.senderCredentialId now "sender"
  assertEligibleCredential keyed.db.reference product.id product.rules request.recipientInvestorId
    request.recipientCredentialId now "recipient"
  assertRegisteredRecipientKey keyed.db.reference product.id recipient request.recipientInvestorId
    request.recipientCredentialId
  let (created, transaction, keyed) ← createTransactionIntent keyed (request.transaction requestHash)
    request.idempotencyKey
  if created = false then
    let instruction ← require ((keyed.db.findInstruction transaction.id).filter fun _ =>
        transaction.settlementRail = .confidentialNote)
      ⟨"IDEMPOTENCY_INTEGRITY_FAILURE", "existing idempotent transaction is not a confidential transfer"⟩
    pure ({ transactionId := transaction.id, state := transaction.currentState, contextId := context.contextId,
            assetType := context.assetType, expiresAt := instruction.expiresAt, created := false }, keyed)
  else
    let db ← keyed.db.insertInstruction
      (request.instruction transaction.requestHash fee recipient relayer expiresAt)
    let db ← db.transitionTransaction request.transactionId .policyChecked
    let db ← db.transitionTransaction request.transactionId .proofPending
    pure ({ transactionId := request.transactionId, state := .proofPending, contextId := context.contextId,
            assetType := context.assetType, expiresAt, created := true }, { keyed with db })

section Created

variable {keyed next : KeyedDatabase}

private theorem createTransactionIntent_created {row transaction : TransactionIntent} {idempotencyKey : String}
    (h : createTransactionIntent keyed row idempotencyKey = .ok (true, transaction, next)) :
    row.id ∉ keyed.db.transactions.map (·.id) ∧ transaction = row ∧
      next.db = { keyed.db with transactions := keyed.db.transactions ++ [row] } := by
  unfold createTransactionIntent at h
  split at h
  · simp only [bind_eq_ok_iff, throwIf_eq_ok_iff, exists_unit, pure_eq_ok_iff, Prod.mk.injEq, true_and] at h
    obtain ⟨hfresh, rfl, rfl⟩ := h
    exact ⟨hfresh, rfl, rfl⟩
  · simp only [bind_eq_ok_iff, pure_eq_ok_iff, Prod.mk.injEq] at h
    obtain ⟨_, _, _, _, hcreated, _⟩ := h
    cases hcreated

/-- Moving the transaction that was added last leaves the others alone. -/
private theorem setState_concat {db : Database} {rows : List TransactionIntent} {row : TransactionIntent}
    {toState : TransactionState} (hfresh : row.id ∉ rows.map (·.id)) :
    ({ db with transactions := rows ++ [row] } : Database).setState row.id toState =
      { db with transactions := rows ++ [{ row with currentState := toState }] } := by
  have hkept : rows.map (fun other => if other.id = row.id then { other with currentState := toState } else other) =
      rows := by
    conv_rhs => rw [← List.map_id rows]
    refine List.map_congr_left fun other hother => ?_
    have hne : other.id ≠ row.id := fun heq => hfresh (heq ▸ List.mem_map_of_mem hother)
    simp [hne]
  simp only [Database.setState, List.map_append, hkept, List.map_cons, List.map_nil, if_pos]

/-- The statements of a preparation write what one insertion of the awaiting
transaction writes. -/
private theorem insert_prepared {db : Database} {row : TransactionIntent} {instruction : ExecutionInstruction}
    (hfresh : row.id ∉ db.transactions.map (·.id))
    (hinstruction : instruction.transactionId ∉ db.instructions.map (·.transactionId)) :
    insertTransaction { row with currentState := .proofPending } (some instruction) db =
      .ok ((), (({ db with
        transactions := db.transactions ++ [row]
        instructions := db.instructions ++ [instruction] } : Database).setState row.id .policyChecked).setState row.id
          .proofPending) := by
  have hchecked :=
    @setState_concat { db with instructions := db.instructions ++ [instruction] } _ _ .policyChecked hfresh
  have hpending := @setState_concat { db with instructions := db.instructions ++ [instruction] } db.transactions
    { row with currentState := .policyChecked } .proofPending hfresh
  simp only at hchecked hpending
  rw [hchecked, hpending]
  have hfree : ¬∃ other ∈ some instruction, other.transactionId ∈ db.instructions.map (·.transactionId) := by
    rintro ⟨other, hother, htaken⟩
    obtain rfl := Option.mem_some.mp hother
    exact hinstruction htaken
  simp only [insertTransaction, throwIf, if_neg hfresh, if_neg hfree, gateOwned]
  cases row.settlementRail <;> rfl

/-- A transfer that is prepared anew is one write of the rail: a transaction that
awaits its proof, with an instruction that names the parties of the request, who
were eligible. -/
theorem prepare_created {service : ConfidentialTransferService} {request : PrepareRequest} {now : Int}
    {prepared : PreparedTransfer} (h : prepare service request now keyed = .ok (prepared, next))
    (hcreated : prepared.created = true) :
    ∃ requestHash fee recipient relayer expiresAt product,
      insertTransaction { request.transaction requestHash with currentState := .proofPending }
        (some (request.instruction requestHash fee recipient relayer expiresAt)) keyed.db = .ok ((), next.db) ∧
      now < expiresAt ∧
      (∃ credential ∈ keyed.db.reference.credentials, credential.id = request.senderCredentialId ∧
        credential.Eligible product request.senderInvestorId now) ∧
      ∃ credential ∈ keyed.db.reference.credentials, credential.id = request.recipientCredentialId ∧
        credential.Eligible product request.recipientInvestorId now := by
  simp only [prepare, bind_eq_ok_iff, throwIf_eq_ok_iff, exists_unit, require_eq_ok_iff, Prod.exists] at h
  obtain ⟨_, _, _, expiresAt, hexpiry, fee, _, recipient, _, relayer, _, _, _, _, _, product, context, _, hsender,
    hrecipient, _, created, transaction, middle, hintent, h⟩ := h
  have hexpiry := (Option.filter_eq_some_iff.mp hexpiry).2
  simp only [Bool.and_eq_true, decide_eq_true_eq] at hexpiry
  cases created with
  | false =>
    simp only [if_true, bind_eq_ok_iff, pure_eq_ok_iff, Prod.mk.injEq] at h
    obtain ⟨_, _, rfl, _⟩ := h
    cases hcreated
  | true =>
    simp only [Bool.true_eq_false, if_false, bind_eq_ok_iff, pure_eq_ok_iff, Prod.mk.injEq] at h
    obtain ⟨inserted, hinserted, checked, hchecked, moved, hmoved, _, rfl⟩ := h
    obtain ⟨hfresh, rfl, hmiddle⟩ := createTransactionIntent_created hintent
    simp only [Database.insertInstruction, bind_eq_ok_iff, throwIf_eq_ok_iff, exists_unit, pure_eq_ok_iff] at hinserted
    obtain ⟨hinstruction, rfl⟩ := hinserted
    obtain rfl := transitionTransaction_ok hchecked
    obtain rfl := transitionTransaction_ok hmoved
    rw [hmiddle] at hinstruction ⊢
    exact ⟨_, fee, recipient, relayer, expiresAt, product, insert_prepared hfresh hinstruction, hexpiry.1,
      assertEligibleCredential_ok hsender, assertEligibleCredential_ok hrecipient⟩

end Created

end rwa.gate
