import RwaControlPlane.Gate.Store

open checked rwa.security

namespace rwa.gate

/-- The first reason why a credential does not make its holder eligible. -/
def ineligibilityReason (rules : ProductRules) (subjectRef : String) (now : Int) : Option Credential → Option String
  | none => some "UNKNOWN_CREDENTIAL"
  | some credential =>
    if credential.subjectRef ≠ subjectRef then some "CREDENTIAL_SUBJECT_MISMATCH"
    else if now < credential.validFrom ∨ credential.validUntil ≤ now then some "CREDENTIAL_NOT_CURRENT"
    else if credential.status ≠ .active then some "CREDENTIAL_RESTRICTED"
    else if credential.investorClass ∉ rules.allowedInvestorClasses.getD [] then some "INVESTOR_CLASS_NOT_ALLOWED"
    else if credential.jurisdiction ∉ rules.allowedJurisdictions.getD [] then
      some "INVESTOR_JURISDICTION_NOT_ALLOWED"
    else none

def assertEligibleCredential (reference : ReferenceData) (productId : String) (rules : ProductRules)
    (subjectRef credentialId : String) (now : Int) (party : String) : Except Failure Unit := do
  throwIf (rules.allowedInvestorClasses = none ∨ rules.allowedJurisdictions = none)
    ⟨"PRODUCT_ELIGIBILITY_RULES_MISSING", "product has no investor eligibility rules for confidential transfers"⟩
  throwIf (¬js_text.Bounded subjectRef 200)
    ⟨"INVALID_CONFIDENTIAL_PARTY", party ++ " subjectRef must be a bounded non-empty string"⟩
  throwIf (¬js_text.Bounded credentialId 200)
    ⟨"INVALID_CONFIDENTIAL_PARTY", party ++ " credentialId must be a bounded non-empty string"⟩
  let credential := reference.credentials.find? fun row => row.id = credentialId && row.productId = productId
  throwIf (ineligibilityReason rules subjectRef now credential ≠ none)
    ⟨"CONFIDENTIAL_PARTY_INELIGIBLE", party ++ " is not eligible for this confidential transfer"⟩

def assertRegisteredRecipientKey (reference : ReferenceData) (productId : String) (ownerPublicKey : FieldElement)
    (subjectRef credentialId : String) : Except Failure Unit :=
  throwIf (¬∃ key, (reference.ownerKeys.find? fun row =>
        row.productId = productId && row.ownerPublicKey = ownerPublicKey) = some key ∧
      key.status = .active ∧ key.subjectRef = subjectRef ∧ key.credentialId = credentialId)
    ⟨"RECIPIENT_KEY_NOT_REGISTERED",
      "recipient is not an active note owner key registered to the named recipient credential"⟩

/-- Both parties of a stored instruction, checked again at authorize and accept
time. -/
def assertInstructionParties (reference : ReferenceData) (productId : String) (rules : ProductRules)
    (instruction : ExecutionInstruction) (now : Int) : Except Failure Unit := do
  throwIf (instruction.senderSubjectRef = "" ∨ instruction.senderCredentialId = "" ∨
      instruction.recipientSubjectRef = "" ∨ instruction.recipientCredentialId = "")
    ⟨"CONFIDENTIAL_PARTIES_MISSING",
      "execution instruction does not identify eligible sender and recipient credentials"⟩
  assertEligibleCredential reference productId rules instruction.senderSubjectRef instruction.senderCredentialId now
    "sender"
  assertEligibleCredential reference productId rules instruction.recipientSubjectRef
    instruction.recipientCredentialId now "recipient"
  assertRegisteredRecipientKey reference productId instruction.recipient instruction.recipientSubjectRef
    instruction.recipientCredentialId

end rwa.gate
