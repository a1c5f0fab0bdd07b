import RwaControlPlane.Gate.Prepare

open checked rwa.security

namespace rwa.gate

variable {service : ConfidentialTransferService} {request : PrepareRequest} {now : Int} {keyed next : KeyedDatabase}

/-- The checks of `prepare` that come before the idempotency key is looked up. -/
def preparation (service : ConfidentialTransferService) (request : PrepareRequest) (now : Int) (db : Database) :
    Except Failure (ConfidentialRequest × ProductContext) := do
  throwIf (request.tenantId ≠ service.tenantId)
    ⟨"TENANT_SCOPE_MISMATCH", "confidential transfer tenant is outside this runtime scope"⟩
  throwIf (¬js_text.Bounded request.idempotencyKey 200)
    ⟨"INVALID_IDEMPOTENCY_KEY", "a bounded idempotency key is required"⟩
  throwIf (¬js_text.Bounded request.transactionId 200 ∨ ¬js_text.Bounded request.productId 200 ∨
      ¬js_text.Bounded request.authorizedBy 200)
    ⟨"INVALID_CONFIDENTIAL_INSTRUCTION", "product and server-authorized actor are required"⟩
  let expiresAt ← require (request.expiresAt.filter fun expiry => now < expiry && expiry - now ≤ 24 * 60 * 60 * 1000)
    ⟨"INVALID_CONFIDENTIAL_INSTRUCTION", "expiry must be in the future and no more than 24 hours away"⟩
  let fee ← instructionField request.fee "fee"
  let recipient ← instructionField request.recipient "recipient"
  let relayer ← instructionField request.relayer "relayer"
  throwIf (18446744073709551616 ≤ fee.val)
    ⟨"INVALID_CONFIDENTIAL_INSTRUCTION", "fee must fit in an unsigned 64-bit integer"⟩
  throwIf (recipient = 0) ⟨"INVALID_CONFIDENTIAL_INSTRUCTION", "recipient cannot be the zero field element"⟩
  throwIf (¬js_text.Bounded request.originatingInstitutionId 200)
    ⟨"AUTHORIZATION_DENIED", "confidential transfers must be originated by an institution member"⟩
  assertPartiesNamed request
  let (product, context) ← require (service.policy db request.productId request.tenantId)
    ⟨"UNAPPROVED_PROOF_CONTEXT", "product has no active context for the pinned proof circuit"⟩
  assertEligibleCredential db.reference product.id product.rules request.senderInvestorId request.senderCredentialId now
    "sender"
  assertEligibleCredential db.reference product.id product.rules request.recipientInvestorId
    request.recipientCredentialId now "recipient"
  assertRegisteredRecipientKey db.reference product.id recipient request.recipientInvestorId
    request.recipientCredentialId
  pure
    ({ transactionId := request.transactionId, productId := request.productId, fee, recipient, relayer, expiresAt
       senderInvestorId := request.senderInvestorId, senderCredentialId := request.senderCredentialId
       recipientInvestorId := request.recipientInvestorId, recipientCredentialId := request.recipientCredentialId },
      context)

/-- What `prepare` does with the idempotency key. -/
def enter (request : PrepareRequest) (requestHash : String) (confidential : ConfidentialRequest)
    (context : ProductContext) (keyed : KeyedDatabase) : Except Failure (PreparedTransfer × KeyedDatabase) := do
  let (created, transaction, keyed) ← createTransactionIntent keyed (request.transaction requestHash)
    request.idempotencyKey
  if created = false then
    let instruction ← require ((keyed.db.findInstruction transaction.id).filter fun _ =>
        transaction.settlementRail = .confidentialNote)
      ⟨"IDEMPOTENCY_INTEGRITY_FAILURE", "existing idempotent transaction is not a confidential transfer"⟩
    pure ({ transactionId := transaction.id, state := transaction.currentState, contextId := context.contextId,
            assetType := context.assetType, expiresAt := instruction.expiresAt, created := false }, keyed)
  else
    let db ← keyed.db.insertInstruction
      (request.instruction transaction.requestHash confidential.fee confidential.recipient confidential.relayer
        confidential.expiresAt)
    let db ← db.transitionTransaction request.transactionId .policyChecked
    let db ← db.transitionTransaction request.transactionId .proofPending
    pure ({ transactionId := request.transactionId, state := .proofPending, contextId := context.contextId,
            assetType := context.assetType, expiresAt := confidential.expiresAt, created := true }, { keyed with db })

theorem prepare_eq : prepare service request now keyed = (do
    let (confidential, context) ← preparation service request now keyed.db
    enter request (service.requestHash confidential) confidential context keyed) := by
  simp only [prepare, preparation, enter, bind_assoc, pure_bind]

section Checks

variable {db : Database} {confidential : ConfidentialRequest} {context : ProductContext}

private theorem instructionField_eq_ok_iff {value label : String} {element : FieldElement} :
    instructionField value label = .ok element ↔ value = toText element := by
  rw [instructionField, rethrow_eq_ok_iff, normalizeFieldElement_eq_ok_iff]

/-- A request as it is hashed. -/
structure PrepareRequest.Reads (request : PrepareRequest) (confidential : ConfidentialRequest) : Prop where
  transactionId : request.transactionId = confidential.transactionId
  productId : request.productId = confidential.productId
  fee : request.fee = toText confidential.fee
  recipient : request.recipient = toText confidential.recipient
  relayer : request.relayer = toText confidential.relayer
  expiresAt : request.expiresAt = some confidential.expiresAt
  senderInvestorId : request.senderInvestorId = confidential.senderInvestorId
  senderCredentialId : request.senderCredentialId = confidential.senderCredentialId
  recipientInvestorId : request.recipientInvestorId = confidential.recipientInvestorId
  recipientCredentialId : request.recipientCredentialId = confidential.recipientCredentialId

/-- A request that passes the checks is the one that is hashed. -/
theorem preparation_reads (h : preparation service request now db = .ok (confidential, context)) :
    request.Reads confidential := by
  simp only [preparation, bind_eq_ok_iff, throwIf_eq_ok_iff, exists_unit, require_eq_ok_iff, instructionField_eq_ok_iff,
    Prod.exists, pure_eq_ok_iff, Prod.mk.injEq] at h
  obtain ⟨-, -, -, expiresAt, hexpiry, fee, hfee, recipient, hrecipient, relayer, hrelayer, -, -, -, -,
    -, -, -, -, -, -, rfl, -⟩ := h
  exact
    { transactionId := rfl, productId := rfl, fee := hfee, recipient := hrecipient, relayer := hrelayer
      expiresAt := (Option.filter_eq_some_iff.mp hexpiry).1, senderInvestorId := rfl, senderCredentialId := rfl
      recipientInvestorId := rfl, recipientCredentialId := rfl }

def idempotencyConflict : Failure := ⟨"IDEMPOTENCY_CONFLICT", "idempotency key reused for a different request"⟩

private def NoConflict (failure : Failure) : Prop := failure.code ≠ "IDEMPOTENCY_CONFLICT"

private theorem noConflict_of_code {code message : String} (h : code ≠ "IDEMPOTENCY_CONFLICT") :
    NoConflict ⟨code, message⟩ := h

private theorem partiesNamed_noConflict : FailsWith NoConflict (assertPartiesNamed request) := by
  have hparty {value label : String} : FailsWith NoConflict (throwIf (¬js_text.Bounded value 200)
      ⟨"INVALID_CONFIDENTIAL_INSTRUCTION", label ++ " is required for an eligible confidential transfer"⟩) :=
    FailsWith.throwIf (noConflict_of_code (by decide))
  simp only [assertPartiesNamed, List.forIn_cons, List.forIn_nil, bind_assoc, pure_bind]
  iterate 4 refine FailsWith.bind hparty fun _ _ => ?_
  exact FailsWith.ok

/-- No check before the key is looked up reports a conflict. -/
theorem preparation_noConflict : FailsWith (·.code ≠ "IDEMPOTENCY_CONFLICT") (preparation service request now db) := by
  have hfield {value label : String} : FailsWith NoConflict (instructionField value label) :=
    FailsWith.rethrow fun cause => noConflict_of_code (by decide)
  have heligible {product : Product} {subjectRef credentialId party : String} :
      FailsWith NoConflict (assertEligibleCredential db.reference product.id product.rules subjectRef credentialId now
        party) := by
    unfold assertEligibleCredential
    refine FailsWith.bind (FailsWith.throwIf (noConflict_of_code (by decide))) fun _ _ => ?_
    refine FailsWith.bind (FailsWith.throwIf (noConflict_of_code (by decide))) fun _ _ => ?_
    refine FailsWith.bind (FailsWith.throwIf (noConflict_of_code (by decide))) fun _ _ => ?_
    exact FailsWith.throwIf (noConflict_of_code (by decide))
  change FailsWith NoConflict _
  unfold preparation
  iterate 3 refine FailsWith.bind (FailsWith.throwIf (noConflict_of_code (by decide))) fun _ _ => ?_
  refine FailsWith.bind (FailsWith.require (noConflict_of_code (by decide))) fun _ _ => ?_
  iterate 3 refine FailsWith.bind hfield fun _ _ => ?_
  iterate 3 refine FailsWith.bind (FailsWith.throwIf (noConflict_of_code (by decide))) fun _ _ => ?_
  refine FailsWith.bind partiesNamed_noConflict fun _ _ => ?_
  refine FailsWith.bind (FailsWith.require (noConflict_of_code (by decide))) fun _ _ => ?_
  refine FailsWith.bind heligible fun _ _ => ?_
  refine FailsWith.bind heligible fun _ _ => ?_
  refine FailsWith.bind (FailsWith.throwIf (noConflict_of_code (by decide))) fun _ _ => ?_
  exact FailsWith.ok

end Checks

end rwa.gate
