import RwaControlPlane.Security.PublicInputs

open checked

namespace rwa.security

/-- The pinned Groth16 adapter. The verifier is the external library called
with the pinned verification key; it answers or fails with a message. -/
structure Groth16JoinSplitProofAdapter (Proof : Type) where
  circuitId : String
  circuitVersion : String
  verificationKeyHash : String
  manifestHash : String
  verify : List String → Proof → Except String Bool
  sha256 : String → String
  proofHash : Proof → String

/-- What a successful verification returns. -/
structure Verification where
  circuitId : String
  circuitVersion : String
  verificationKeyHash : String
  manifestHash : String
  proofHash : String
  publicSignalsHash : String
deriving DecidableEq, Repr

section Verify

variable {Proof : Type}

/-- Normalize the submitted signals, each labelled with the signal of its
position. -/
def normalizeSignals : List PublicSignal → List String → Except Failure (List FieldElement)
  | signal :: signals, value :: values => do
    let normalized ← normalizeFieldElement value signal.name
    let rest ← normalizeSignals signals values
    pure (normalized :: rest)
  | _, _ => pure []

/-- Compare the signals position by position with the expected inputs. -/
def assertSignals (expected : JoinSplitPublicInputs FieldElement) :
    List PublicSignal → List FieldElement → Except Failure Unit
  | signal :: signals, value :: values => do
    throwIf (value ≠ expected.get signal)
      ⟨"PROOF_CONTEXT_MISMATCH",
        "public signal " ++ signal.name ++ " does not match the authorized transaction context"⟩
    assertSignals expected signals values
  | _, _ => pure ()

/-- Verify a proof package against the expected public inputs. -/
def verifyJoinSplit (adapter : Groth16JoinSplitProofAdapter Proof) (proof : Option Proof)
    (publicSignals : List String) (expectedPublicInputs : JoinSplitPublicInputs FieldElement) :
    Except Failure Verification := do
  throwIf (proof.isNone ∨ publicSignals.length ≠ joinSplitPublicSignalOrder.length)
    ⟨"INVALID_PROOF_PACKAGE", "proof and exactly 13 public signals are required"⟩
  let package ← require proof ⟨"INVALID_PROOF_PACKAGE", "proof and exactly 13 public signals are required"⟩
  let normalized ← normalizeSignals joinSplitPublicSignalOrder publicSignals
  assertSignals expectedPublicInputs joinSplitPublicSignalOrder normalized
  let verified ← rethrow
    (fun cause => ⟨"PROOF_VERIFIER_UNAVAILABLE", "Groth16 verifier failed: " ++ cause⟩)
    (adapter.verify (normalized.map toText) package)
  throwIf (verified ≠ true) ⟨"INVALID_ZERO_KNOWLEDGE_PROOF", "Groth16 proof verification failed"⟩
  pure
    { circuitId := adapter.circuitId
      circuitVersion := adapter.circuitVersion
      verificationKeyHash := adapter.verificationKeyHash
      manifestHash := adapter.manifestHash
      proofHash := adapter.proofHash package
      publicSignalsHash := adapter.sha256 (canonicalizeTexts (normalized.map toText)) }

variable {adapter : Groth16JoinSplitProofAdapter Proof} {expected : JoinSplitPublicInputs FieldElement}

theorem length_normalizeSignals {signals : List PublicSignal} :
    ∀ {values : List String} {normalized : List FieldElement}, signals.length = values.length →
      normalizeSignals signals values = .ok normalized →
      normalized.length = signals.length ∧ values = normalized.map toText := by
  induction signals with
  | nil =>
    intro values normalized hlength h
    obtain rfl : values = [] := List.length_eq_zero_iff.mp hlength.symm
    obtain rfl := pure_eq_ok_iff.mp h
    exact ⟨rfl, rfl⟩
  | cons signal signals ih =>
    intro values normalized hlength h
    cases values with
    | nil => simp at hlength
    | cons value values =>
      simp only [normalizeSignals, bind_eq_ok_iff, pure_eq_ok_iff, normalizeFieldElement_eq_ok_iff] at h
      obtain ⟨first, hfirst, rest, hrest, rfl⟩ := h
      obtain ⟨hcount, hvalues⟩ := ih (by simpa using hlength) hrest
      exact ⟨by simp [hcount], by rw [hfirst, hvalues, List.map_cons]⟩

theorem assertSignals_eq_ok {signals : List PublicSignal} :
    ∀ {values : List FieldElement}, values.length = signals.length →
      assertSignals expected signals values = .ok () → values = signals.map expected.get := by
  induction signals with
  | nil =>
    intro values hlength _
    exact List.length_eq_zero_iff.mp hlength
  | cons signal signals ih =>
    intro values hlength h
    cases values with
    | nil => simp at hlength
    | cons value values =>
      simp only [assertSignals, bind_eq_ok_iff, throwIf_eq_ok_iff, exists_unit, not_not] at h
      rw [h.1, ih (by simpa using hlength) h.2, List.map_cons]

/-- A verification succeeds only for a package whose signals are, position by
position, the texts of the expected inputs, and which the verifier accepts. -/
theorem verifyJoinSplit_eq_ok {proof : Option Proof} {publicSignals : List String} {verification : Verification}
    (h : verifyJoinSplit adapter proof publicSignals expected = .ok verification) :
    ∃ package, proof = some package ∧
      publicSignals = expected.toList.map toText ∧
      adapter.verify (expected.toList.map toText) package = .ok true ∧
      verification =
        { circuitId := adapter.circuitId
          circuitVersion := adapter.circuitVersion
          verificationKeyHash := adapter.verificationKeyHash
          manifestHash := adapter.manifestHash
          proofHash := adapter.proofHash package
          publicSignalsHash := joinSplitPublicInputsHash adapter.sha256 expected } := by
  simp only [verifyJoinSplit, bind_eq_ok_iff, throwIf_eq_ok_iff, exists_unit, require_eq_ok_iff,
    rethrow_eq_ok_iff, pure_eq_ok_iff, not_or, not_not] at h
  obtain ⟨⟨_, hlength⟩, package, hpackage, normalized, hnormalized, hsignals, verified, hverified, htrue, rfl⟩ := h
  obtain ⟨hcount, htexts⟩ := length_normalizeSignals hlength.symm hnormalized
  have hvalues : normalized = expected.toList := assertSignals_eq_ok hcount hsignals
  subst hvalues
  exact ⟨package, hpackage, htexts, htrue ▸ hverified, rfl⟩

end Verify

end rwa.security
