import RwaControlPlane.Circuit.Witness

open rwa.security bit_decomposition

namespace rwa.circuit

variable {poseidon : List FieldElement → FieldElement}
variable {pedersen : List FieldElement → FieldElement × FieldElement}

/-- Value conservation and ownership of the JoinSplit circuit. Every satisfying
assignment moves value between four notes of the public asset type without
wrap-around; the inputs belong to the proved secrets, the first output to the
public recipient and the second to the owner of the first input. -/
theorem joinSplit_conserves_value_and_ownership {TREE_DEPTH : Nat} {signals : ConfidentialLedgerJoinSplit TREE_DEPTH}
    (h : signals.Constraints poseidon pedersen) :
    (signals.inputAmount 0).val + (signals.inputAmount 1).val =
        (signals.outputAmount 0).val + (signals.outputAmount 1).val + signals.fee.val ∧
      (∀ i, (signals.inputAmount i).val < 2 ^ 64) ∧
      (∀ i, (signals.outputAmount i).val < 2 ^ 64) ∧
      signals.fee.val < 2 ^ 64 ∧
      ∃ inputs outputs : Fin 2 → Note,
        (∀ i, (signals.inputNote i).out = (inputs i).commitment pedersen ∧
          (inputs i).amount = (signals.inputAmount i).val ∧
          (inputs i).assetType = signals.assetType.val ∧
          (inputs i).ownerPubKey = ownerPubKey poseidon (signals.inputOwnerSecret i)) ∧
        (∀ i, (signals.outputCommitmentX i, signals.outputCommitmentY i) = (outputs i).commitment pedersen ∧
          (outputs i).amount = (signals.outputAmount i).val ∧
          (outputs i).assetType = signals.assetType.val) ∧
        (outputs 0).ownerPubKey = signals.recipient ∧
        (outputs 1).ownerPubKey = (inputs 0).ownerPubKey := by
  have hconservation := h.conservation_nat
  simp only [ConfidentialLedgerJoinSplit.Constraints.input_amount,
    ConfidentialLedgerJoinSplit.Constraints.output_amount] at hconservation
  refine ⟨hconservation, fun i => ?_, fun i => ?_, h.fee_lt, h.input, h.output, fun i => ?_, fun i => ?_, ?_, ?_⟩
  · rw [← h.input_amount i]
    exact (h.input i).amount_lt
  · rw [← h.output_amount i]
    exact (h.output i).amount_lt
  · exact ⟨h.inputNote_out i, h.input_amount i, h.input_assetType i, h.input_owner i⟩
  · exact ⟨h.outputCommitment i, h.output_amount i, h.output_assetType i⟩
  · rw [h.output_ownerPubKey, h.outputOwner_recipient]
  · rw [h.output_ownerPubKey, h.outputOwner_change, h.input_ownerPubKey]

/-- A note of asset type 7. -/
def sampleNote (amount : Fin (2 ^ 64)) (owner : FieldElement) (nonce : Fin (2 ^ 128)) : Note where
  amount := amount
  assetType := 7
  ownerPubKey := owner
  nonce := nonce
  blinding := 1
  amount_lt := amount.isLt
  assetType_lt := by decide
  nonce_lt := nonce.isLt
  blinding_lt := by decide

/-- The two input notes are the first two leaves of the tree, so each is the
sibling of the other. -/
def sampleWitness (poseidon : List FieldElement → FieldElement)
    (pedersen : List FieldElement → FieldElement × FieldElement) : JoinSplitWitness merkle.merkleTreeDepth :=
  let owner := ownerPubKey poseidon 11
  let inputs : Fin 2 → Note := ![sampleNote 700 owner 1, sampleNote 5 owner 3]
  { inputs
    ownerSecret := fun _ => 11
    path := fun i level =>
      if level.val = 0 then (decide (i = 1), (inputs (1 - i)).commitmentHash poseidon pedersen)
      else (false, merkle.merkleZeros (poseidon3 poseidon) level)
    outputs := ![sampleNote 300 22 2, sampleNote 402 owner 4]
    contextId := 1
    assetType := 7
    fee := 3
    recipient := 22
    relayer := 0 }

/-- A hash of field elements that is good enough to evaluate examples. -/
def sampleHash : List FieldElement → FieldElement := fun values => fieldValue values + 1

def samplePedersen : List FieldElement → FieldElement × FieldElement := fun bits => (fieldValue bits, 0)

theorem sampleWitness_valid : (sampleWitness sampleHash samplePedersen).Valid sampleHash samplePedersen where
  assetType_lt := by decide
  fee_lt := by decide
  inputs_assetType := by decide
  outputs_assetType := by decide
  inputs_owner := by decide
  roots := by decide +kernel
  nullifiers := by decide +kernel
  recipient := by decide
  change := by decide
  conservation := by decide

theorem joinSplit_conserves_value_and_ownership_sample :
    ∃ inputs outputs : Fin 2 → Note,
      (inputs 0).amount + (inputs 1).amount = (outputs 0).amount + (outputs 1).amount + 3 ∧
        (outputs 0).ownerPubKey = 22 ∧ (outputs 1).ownerPubKey = (inputs 0).ownerPubKey := by
  have hconstraints := JoinSplitWitness.assign_constraints sampleWitness_valid
  obtain ⟨hvalue, -, -, -, inputs, outputs, hinputs, houtputs, hrecipient, hchange⟩ :=
    joinSplit_conserves_value_and_ownership hconstraints
  refine ⟨inputs, outputs, ?_, hrecipient, hchange⟩
  rw [(hinputs 0).2.1, (hinputs 1).2.1, (houtputs 0).2.1, (houtputs 1).2.1, hvalue]
  rfl

end rwa.circuit
