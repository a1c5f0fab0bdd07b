import RwaControlPlane.Circuit.JoinSplit

open rwa.security bit_decomposition padded_tree

namespace rwa.circuit

/-- What a prover knows. -/
structure JoinSplitWitness (TREE_DEPTH : Nat) where
  inputs : Fin 2 → Note
  ownerSecret : Fin 2 → FieldElement
  path : Fin 2 → Fin TREE_DEPTH → Bool × FieldElement
  outputs : Fin 2 → Note
  contextId : FieldElement
  assetType : Nat
  fee : Nat
  recipient : FieldElement
  relayer : FieldElement

section Assignment

variable (poseidon : List FieldElement → FieldElement)
variable (pedersen : List FieldElement → FieldElement × FieldElement)

def Num2Bits.assign (n value : Nat) : Num2Bits where
  input := value
  out := bitsOf bn254ScalarField n value

def NoteCommitment.assign (note : Note) : NoteCommitment where
  amount := note.amount
  assetType := note.assetType
  ownerPubKey := note.ownerPubKey
  nonce := note.nonce
  blinding := note.blinding
  out := note.commitment pedersen
  amountBits := Num2Bits.assign 64 note.amount
  assetBits := Num2Bits.assign 32 note.assetType
  pkBits := Num2Bits.assign 254 note.ownerPubKey.val
  nonceBits := Num2Bits.assign 128 note.nonce
  blindBits := Num2Bits.assign 248 note.blinding
  pedersenIn := note.message

/-- The node of a path below level `level`. -/
def pathLevel {DEPTH : Nat} (path : Fin DEPTH → Bool × FieldElement) (leaf : FieldElement) (level : Nat) :
    FieldElement :=
  pathRoot (merkle.merkleNode (poseidon3 poseidon)) ((List.ofFn path).take level) leaf

def MerklePath.assign {DEPTH : Nat} (path : Fin DEPTH → Bool × FieldElement) (leaf : FieldElement) :
    MerklePath DEPTH where
  leaf := leaf
  pathElements := fun i => (path i).2
  pathDirections := fun i => if (path i).1 then 1 else 0
  root := pathLevel poseidon path leaf DEPTH
  level := fun i => pathLevel poseidon path leaf i
  left := fun i => (pathChildren (path i) (pathLevel poseidon path leaf i)).1
  right := fun i => (pathChildren (path i) (pathLevel poseidon path leaf i)).2

namespace JoinSplitWitness

variable {TREE_DEPTH : Nat}

/-- Root computed from one of the inputs. -/
def root (witness : JoinSplitWitness TREE_DEPTH) (i : Fin 2) : FieldElement :=
  pathLevel poseidon (witness.path i) ((witness.inputs i).commitmentHash poseidon pedersen) TREE_DEPTH

def nullifier (witness : JoinSplitWitness TREE_DEPTH) (i : Fin 2) : FieldElement :=
  poseidon [poseidon [nullifierDomain, witness.contextId, witness.ownerSecret i], (witness.inputs i).nonce,
    (witness.inputs i).commitmentHash poseidon pedersen]

def outputSetHash (witness : JoinSplitWitness TREE_DEPTH) : FieldElement :=
  poseidon [outputSetDomain, ((witness.outputs 0).commitment pedersen).1, ((witness.outputs 0).commitment pedersen).2,
    ((witness.outputs 1).commitment pedersen).1, ((witness.outputs 1).commitment pedersen).2]

def txCore (witness : JoinSplitWitness TREE_DEPTH) : FieldElement :=
  poseidon [txContextDomain, witness.contextId, witness.root poseidon pedersen 0, witness.assetType, witness.fee,
    witness.recipient]

def txMid (witness : JoinSplitWitness TREE_DEPTH) : FieldElement :=
  poseidon [witness.txCore poseidon pedersen, witness.relayer, witness.nullifier poseidon pedersen 0,
    witness.nullifier poseidon pedersen 1]

def transactionHash (witness : JoinSplitWitness TREE_DEPTH) : FieldElement :=
  poseidon [witness.txMid poseidon pedersen, witness.outputSetHash poseidon pedersen]

/-- The assignment computed from a witness. -/
def assign (witness : JoinSplitWitness TREE_DEPTH) : ConfidentialLedgerJoinSplit TREE_DEPTH where
  merkleRoot := witness.root poseidon pedersen 0
  contextId := witness.contextId
  assetType := witness.assetType
  fee := witness.fee
  recipient := witness.recipient
  relayer := witness.relayer
  transactionHash := witness.transactionHash poseidon pedersen
  inputNullifiers := witness.nullifier poseidon pedersen
  outputCommitmentX := fun i => ((witness.outputs i).commitment pedersen).1
  outputCommitmentY := fun i => ((witness.outputs i).commitment pedersen).2
  inputAmount := fun i => (witness.inputs i).amount
  inputOwnerPubKey := fun i => (witness.inputs i).ownerPubKey
  inputOwnerSecret := witness.ownerSecret
  inputNonce := fun i => (witness.inputs i).nonce
  inputBlinding := fun i => (witness.inputs i).blinding
  pathElements := fun i d => (witness.path i d).2
  pathDirections := fun i d => if (witness.path i d).1 then 1 else 0
  outputAmount := fun i => (witness.outputs i).amount
  outputOwnerPubKey := fun i => (witness.outputs i).ownerPubKey
  outputNonce := fun i => (witness.outputs i).nonce
  outputBlinding := fun i => (witness.outputs i).blinding
  assetTypeBits := Num2Bits.assign 32 witness.assetType
  feeBits := Num2Bits.assign 64 witness.fee
  ownerPk := fun i => ownerPubKey poseidon (witness.ownerSecret i)
  inputNote := fun i => NoteCommitment.assign pedersen (witness.inputs i)
  inputLeaf := fun i => (witness.inputs i).commitmentHash poseidon pedersen
  inputPath := fun i =>
    MerklePath.assign poseidon (witness.path i) ((witness.inputs i).commitmentHash poseidon pedersen)
  inputCommitmentHash := fun i => (witness.inputs i).commitmentHash poseidon pedersen
  nullifierKey := fun i => poseidon [nullifierDomain, witness.contextId, witness.ownerSecret i]
  nullifierHash := witness.nullifier poseidon pedersen
  nullifiersEqual :=
    { left := witness.nullifier poseidon pedersen 0
      right := witness.nullifier poseidon pedersen 1
      out := if witness.nullifier poseidon pedersen 0 = witness.nullifier poseidon pedersen 1 then 1 else 0 }
  outputNote := fun i => NoteCommitment.assign pedersen (witness.outputs i)
  outputSetHash := witness.outputSetHash poseidon pedersen
  txCore := witness.txCore poseidon pedersen
  txMid := witness.txMid poseidon pedersen
  txFinal := witness.transactionHash poseidon pedersen

/-- The relation a prover has to meet. -/
structure Valid (witness : JoinSplitWitness TREE_DEPTH) : Prop where
  assetType_lt : witness.assetType < 2 ^ 32
  fee_lt : witness.fee < 2 ^ 64
  inputs_assetType (i : Fin 2) : (witness.inputs i).assetType = witness.assetType
  outputs_assetType (i : Fin 2) : (witness.outputs i).assetType = witness.assetType
  inputs_owner (i : Fin 2) : (witness.inputs i).ownerPubKey = ownerPubKey poseidon (witness.ownerSecret i)
  roots : witness.root poseidon pedersen 1 = witness.root poseidon pedersen 0
  nullifiers : witness.nullifier poseidon pedersen 0 ≠ witness.nullifier poseidon pedersen 1
  recipient : (witness.outputs 0).ownerPubKey = witness.recipient
  change : (witness.outputs 1).ownerPubKey = (witness.inputs 0).ownerPubKey
  conservation : (witness.inputs 0).amount + (witness.inputs 1).amount =
    (witness.outputs 0).amount + (witness.outputs 1).amount + witness.fee

end JoinSplitWitness

end Assignment

section Completeness

variable {poseidon : List FieldElement → FieldElement}
variable {pedersen : List FieldElement → FieldElement × FieldElement}

theorem Num2Bits.assign_constraints {n value : Nat} (h : value < 2 ^ n) : (Num2Bits.assign n value).Constraints n where
  length := bitsOf_length n value
  bits := fun _ hbit => isBit_of_mem_bitsOf hbit
  sum := fieldValue_bitsOf h

private theorem natValue_bitsOf {n value : Nat} (h : value < 2 ^ n) :
    natValue (bitsOf bn254ScalarField n value) = value := by
  have hbits : ∀ bit ∈ bitsOf bn254ScalarField n value, IsBit bit := fun _ hbit => isBit_of_mem_bitsOf hbit
  have hback := eq_bitsOf_natValue hbits
  have hlt := natValue_lt hbits
  rw [bitsOf_length] at hback hlt
  exact (bitsOf_injective h hlt hback).symm

theorem NoteCommitment.assign_constraints (note : Note) :
    (NoteCommitment.assign pedersen note).Constraints pedersen noteDomain where
  amountBits := Num2Bits.assign_constraints note.amount_lt
  assetBits := Num2Bits.assign_constraints note.assetType_lt
  pkBits :=
    { bits := Num2Bits.assign_constraints (note.ownerPubKey.val_lt.trans bn254ScalarField_lt)
      aliasCheck := by
        simp only [assign, Num2Bits.assign]
        rw [natValue_bitsOf (note.ownerPubKey.val_lt.trans bn254ScalarField_lt)]
        exact note.ownerPubKey.val_lt }
  nonceBits := Num2Bits.assign_constraints note.nonce_lt
  blindBits := Num2Bits.assign_constraints note.blinding_lt
  amountBits_in := rfl
  assetBits_in := rfl
  pkBits_in := ZMod.natCast_zmod_val note.ownerPubKey
  nonceBits_in := rfl
  blindBits_in := rfl
  pedersen_in := rfl
  out := rfl

/-- A component that was assigned from a note is wired to the fields of that
note. -/
private theorem assign_wiring {note : Note} {assetType : Nat} (hasset : note.assetType = assetType) :
    NoteWiring pedersen (NoteCommitment.assign pedersen note) note.amount assetType note.ownerPubKey note.nonce
      note.blinding where
  component := NoteCommitment.assign_constraints note
  amount := rfl
  assetType := congrArg Nat.cast hasset
  ownerPubKey := rfl
  nonce := rfl
  blinding := rfl

theorem MerklePath.assign_constraints {DEPTH : Nat} (path : Fin DEPTH → Bool × FieldElement) (leaf : FieldElement) :
    (MerklePath.assign poseidon path leaf).Constraints poseidon merkle.merkleNodeDomain where
  level_zero := rfl
  direction := fun i => by
    simp only [assign]
    cases (path i).1 <;> simp [IsBit]
  left := fun i => by
    simp only [assign, pathChildren, Fin.val_castSucc]
    cases (path i).1 <;> simp
  right := fun i => by
    simp only [assign, pathChildren, Fin.val_castSucc]
    cases (path i).1 <;> simp
  level_succ := fun i => by
    have hlength : (i : Nat) < (List.ofFn path).length := by simp
    simp only [assign, pathLevel, Fin.val_succ]
    rw [List.take_succ_eq_append_getElem hlength, pathRoot_concat]
    simp only [List.getElem_ofFn, Fin.eta]
    rfl
  root := rfl

/-- Completeness: the assignment computed from a valid witness satisfies every
constraint. -/
theorem JoinSplitWitness.assign_constraints {TREE_DEPTH : Nat} {witness : JoinSplitWitness TREE_DEPTH}
    (h : witness.Valid poseidon pedersen) : (witness.assign poseidon pedersen).Constraints poseidon pedersen where
  assetTypeBits := Num2Bits.assign_constraints h.assetType_lt
  assetTypeBits_in := rfl
  feeBits := Num2Bits.assign_constraints h.fee_lt
  feeBits_in := rfl
  ownerPk := fun _ => rfl
  inputOwnerPubKey := h.inputs_owner
  inputNote := fun i => assign_wiring (h.inputs_assetType i)
  inputLeaf := fun _ => rfl
  inputCommitmentHash := fun _ => rfl
  inputPath := fun i => MerklePath.assign_constraints (witness.path i) _
  inputPath_leaf := fun _ => rfl
  inputPath_elements := fun _ _ => rfl
  inputPath_directions := fun _ _ => rfl
  inputPath_root := Fin.forall_fin_two.mpr ⟨rfl, h.roots⟩
  nullifierKey := fun _ => rfl
  nullifierHash := fun _ => rfl
  inputNullifiers := fun _ => rfl
  nullifiersEqual := rfl
  nullifiersEqual_left := rfl
  nullifiersEqual_right := rfl
  nullifiersEqual_out := if_neg h.nullifiers
  outputNote := fun i => assign_wiring (h.outputs_assetType i)
  outputCommitmentX := fun _ => rfl
  outputCommitmentY := fun _ => rfl
  outputOwner_recipient := h.recipient
  outputOwner_change := h.change
  conservation := by
    have hcast := congrArg (Nat.cast (R := FieldElement)) h.conservation
    push_cast at hcast
    exact hcast
  outputSetHash := rfl
  txCore := rfl
  txMid := rfl
  txFinal := rfl
  transactionHash := rfl

end Completeness

end rwa.circuit
