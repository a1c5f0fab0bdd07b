import RwaControlPlane.Callbacks.Schema
import RwaControlPlane.Library.JsCanonical

open checked js_value
open rwa.callbacks (CommitmentContext)
open rwa.storage (typeError IsHash)

namespace rwa.security

/-- A committer computes the MAC of a text under the key that an id names, where it
has that key. -/
structure EconomicCommitter (mac : String → String → String) where
  version : String
  keyId : String
  generateMac (keyId message : String) : Except Failure String
  computes : ∀ keyId message result, generateMac keyId message = .ok result → result = mac keyId message

/-- `EconomicCommitter`, with the ids of the keys that it holds. The active key is
one of them. -/
def heldKeys (mac : String → String → String) (keyIds : List String) (keyId : String) (_ : keyId ∈ keyIds) :
    EconomicCommitter mac where
  version := "HMAC-SHA256-v1"
  keyId := keyId
  generateMac wanted message :=
    if wanted ∈ keyIds then .ok (mac wanted message)
    else .error ⟨"UNKNOWN_ECONOMIC_COMMITMENT_KEY", "economic commitment key " ++ wanted ++ " is unavailable"⟩
  computes wanted message result h := by
    split at h
    · exact (Except.ok.inj h).symm
    · cases h

/-- `KmsEconomicCommitter`, with the digits that its provider answers. -/
def kmsKeys (mac : String → String → String) (generateMac : String → String → Except Failure String)
    (computes : ∀ keyId message result, generateMac keyId message = .ok result → result = mac keyId message)
    (keyId : String) : EconomicCommitter mac where
  version := "KMS-HMAC-SHA256-v1"
  keyId := keyId
  generateMac wanted message := do
    let result ← generateMac wanted message
    throwIf (¬IsHash result)
      ⟨"INVALID_KMS_MAC_RESPONSE", "KMS provider returned an invalid economic commitment MAC"⟩
    pure result
  computes wanted message result h := by
    simp only [bind_eq_ok_iff, exists_unit, pure_eq_ok_iff] at h
    obtain ⟨_, hresult, -, rfl⟩ := h
    exact computes wanted message _ hresult

/-- The members of the text that a commitment authenticates. -/
def economicMembers (context : CommitmentContext) : List (String × String) :=
  [("domain", "rwa.economic-commitment.v1"), ("tenantId", context.tenantId), ("transactionId", context.transactionId),
    ("productId", context.productId), ("field", context.field), ("value", context.value)]

variable {mac : String → String → String} (numberText : Rat → String)

def economicMessage (context : CommitmentContext) : Except Failure String :=
  match canonicalize numberText (texts (economicMembers context)) with
  | .ok (some message) => .ok message
  | .ok none => .error (typeError "The data argument must be of type string")
  | .error message => .error (typeError message)

def EconomicCommitter.commit (committer : EconomicCommitter mac) (context : CommitmentContext) (keyId : String) :
    Except Failure String := do
  let message ← economicMessage numberText context
  committer.generateMac keyId message

/-- What is no digest is not matched, and no key is asked for it. -/
def EconomicCommitter.matches (committer : EconomicCommitter mac) (context : CommitmentContext)
    (expectedHex keyId : String) : Except Failure Bool :=
  if IsHash expectedHex then do
    let actual ← committer.commit numberText context keyId
    pure (actual = expectedHex)
  else .ok false

variable {numberText} {committer : EconomicCommitter mac} {context : CommitmentContext} {keyId : String}

private theorem economicMessage_eq_ok {message : String} (h : economicMessage numberText context = .ok message) :
    canonicalize numberText (texts (economicMembers context)) = .ok (some message) := by
  unfold economicMessage at h
  split at h
  · next text htext =>
    obtain rfl := Except.ok.inj h
    exact htext
  · cases h
  · cases h

/-- What is committed to can be read from the text. -/
theorem economicMessage_inj {other : CommitmentContext} {message : String}
    (h : economicMessage numberText context = .ok message) (h' : economicMessage numberText other = .ok message) :
    context = other := by
  have hsame := (economicMessage_eq_ok h).trans (economicMessage_eq_ok h').symm
  have hmembers := eq_of_perm_of_keys (by simp [economicMembers]) (by simp [economicMembers])
    (canonicalize_texts_inj hsame)
  obtain ⟨tenantId, transactionId, productId, field, value⟩ := context
  obtain ⟨tenantId', transactionId', productId', field', value'⟩ := other
  simpa [economicMembers] using hmembers

theorem EconomicCommitter.commit_eq_ok {text : String} (h : committer.commit numberText context keyId = .ok text) :
    ∃ message, economicMessage numberText context = .ok message ∧ text = mac keyId message := by
  obtain ⟨message, hmessage, hmac⟩ := bind_eq_ok_iff.mp h
  exact ⟨message, hmessage, committer.computes keyId message text hmac⟩

/-- A commitment is matched by what was committed to, and by nothing else. -/
theorem EconomicCommitter.matches_iff {committed : CommitmentContext} {message : String} {verdict : Bool}
    (hdigests : ∀ message, IsHash (mac keyId message)) {messages : Set String} (hmac : Set.InjOn (mac keyId) messages)
    (hcommitted : economicMessage numberText committed = .ok message) (hmem : message ∈ messages)
    (hstated : ∀ stated, economicMessage numberText context = .ok stated → stated ∈ messages)
    (h : committer.matches numberText context (mac keyId message) keyId = .ok verdict) :
    verdict = true ↔ context = committed := by
  rw [EconomicCommitter.matches, if_pos (hdigests message)] at h
  obtain ⟨actual, hactual, hverdict⟩ := bind_eq_ok_iff.mp h
  obtain rfl := pure_eq_ok_iff.mp hverdict
  obtain ⟨stated, hmessage, rfl⟩ := committer.commit_eq_ok hactual
  rw [decide_eq_true_iff]
  constructor
  · intro hsame
    obtain rfl := hmac (hstated stated hmessage) hmem hsame
    exact economicMessage_inj hmessage hcommitted
  · rintro rfl
    rw [Except.ok.inj (hmessage.symm.trans hcommitted)]

end rwa.security
