import RwaControlPlane.Circuit.Templates

open rwa.security bit_decomposition

namespace rwa.circuit

def nullifierDomain : FieldElement := 0x434c324e554c4c01

def txContextDomain : FieldElement := 0x434c325458435401

def outputSetDomain : FieldElement := 0x434c324f55545301

/-- An assignment to the signals of `ConfidentialLedgerJoinSplit(TREE_DEPTH)`.
A Poseidon component is represented by its output signal; its input signals are
wired to the expressions named in the constraint on that output. -/
structure ConfidentialLedgerJoinSplit (TREE_DEPTH : Nat) where
  merkleRoot : FieldElement
  contextId : FieldElement
  assetType : FieldElement
  fee : FieldElement
  recipient : FieldElement
  relayer : FieldElement
  transactionHash : FieldElement
  inputNullifiers : Fin 2 → FieldElement
  outputCommitmentX : Fin 2 → FieldElement
  outputCommitmentY : Fin 2 → FieldElement
  inputAmount : Fin 2 → FieldElement
  inputOwnerPubKey : Fin 2 → FieldElement
  inputOwnerSecret : Fin 2 → FieldElement
  inputNonce : Fin 2 → FieldElement
  inputBlinding : Fin 2 → FieldElement
  pathElements : Fin 2 → Fin TREE_DEPTH → FieldElement
  pathDirections : Fin 2 → Fin TREE_DEPTH → FieldElement
  outputAmount : Fin 2 → FieldElement
  outputOwnerPubKey : Fin 2 → FieldElement
  outputNonce : Fin 2 → FieldElement
  outputBlinding : Fin 2 → FieldElement
  assetTypeBits : Num2Bits
  feeBits : Num2Bits
  ownerPk : Fin 2 → FieldElement
  inputNote : Fin 2 → NoteCommitment
  inputLeaf : Fin 2 → FieldElement
  inputPath : Fin 2 → MerklePath TREE_DEPTH
  inputCommitmentHash : Fin 2 → FieldElement
  nullifierKey : Fin 2 → FieldElement
  nullifierHash : Fin 2 → FieldElement
  nullifiersEqual : IsEqual
  outputNote : Fin 2 → NoteCommitment
  outputSetHash : FieldElement
  txCore : FieldElement
  txMid : FieldElement
  txFinal : FieldElement
deriving Inhabited

section Constraints

variable (poseidon : List FieldElement → FieldElement)
variable (pedersen : List FieldElement → FieldElement × FieldElement)

/-- A note commitment component satisfies its template and is wired to the
signals of one note. -/
structure NoteWiring (signals : NoteCommitment)
    (amount assetType ownerPubKey nonce blinding : FieldElement) : Prop where
  component : signals.Constraints pedersen noteDomain
  amount : signals.amount = amount
  assetType : signals.assetType = assetType
  ownerPubKey : signals.ownerPubKey = ownerPubKey
  nonce : signals.nonce = nonce
  blinding : signals.blinding = blinding

/-- All constraints of the circuit, in the order of the source. -/
structure ConfidentialLedgerJoinSplit.Constraints {TREE_DEPTH : Nat}
    (signals : ConfidentialLedgerJoinSplit TREE_DEPTH) : Prop where
  -- 1. public scalar range binding
  assetTypeBits : signals.assetTypeBits.Constraints 32
  assetTypeBits_in : signals.assetTypeBits.input = signals.assetType
  feeBits : signals.feeBits.Constraints 64
  feeBits_in : signals.feeBits.input = signals.fee
  -- 2. ownership
  ownerPk (i : Fin 2) : signals.ownerPk i = poseidon [signals.inputOwnerSecret i]
  inputOwnerPubKey (i : Fin 2) : signals.inputOwnerPubKey i = signals.ownerPk i
  -- 3. input notes
  inputNote (i : Fin 2) : NoteWiring pedersen (signals.inputNote i) (signals.inputAmount i) signals.assetType
    (signals.inputOwnerPubKey i) (signals.inputNonce i) (signals.inputBlinding i)
  inputLeaf (i : Fin 2) : signals.inputLeaf i =
    poseidon [merkle.merkleLeafDomain, (signals.inputNote i).out.1, (signals.inputNote i).out.2]
  inputCommitmentHash (i : Fin 2) : signals.inputCommitmentHash i = signals.inputLeaf i
  inputPath (i : Fin 2) : (signals.inputPath i).Constraints poseidon merkle.merkleNodeDomain
  inputPath_leaf (i : Fin 2) : (signals.inputPath i).leaf = signals.inputCommitmentHash i
  inputPath_elements (i : Fin 2) (d : Fin TREE_DEPTH) :
    (signals.inputPath i).pathElements d = signals.pathElements i d
  inputPath_directions (i : Fin 2) (d : Fin TREE_DEPTH) :
    (signals.inputPath i).pathDirections d = signals.pathDirections i d
  inputPath_root (i : Fin 2) : (signals.inputPath i).root = signals.merkleRoot
  -- 4. nullifiers
  nullifierKey (i : Fin 2) : signals.nullifierKey i =
    poseidon [nullifierDomain, signals.contextId, signals.inputOwnerSecret i]
  nullifierHash (i : Fin 2) : signals.nullifierHash i =
    poseidon [signals.nullifierKey i, signals.inputNonce i, signals.inputCommitmentHash i]
  inputNullifiers (i : Fin 2) : signals.inputNullifiers i = signals.nullifierHash i
  nullifiersEqual : signals.nullifiersEqual.Constraints
  nullifiersEqual_left : signals.nullifiersEqual.left = signals.inputNullifiers 0
  nullifiersEqual_right : signals.nullifiersEqual.right = signals.inputNullifiers 1
  nullifiersEqual_out : signals.nullifiersEqual.out = 0
  -- 5. output notes
  outputNote (i : Fin 2) : NoteWiring pedersen (signals.outputNote i) (signals.outputAmount i) signals.assetType
    (signals.outputOwnerPubKey i) (signals.outputNonce i) (signals.outputBlinding i)
  outputCommitmentX (i : Fin 2) : signals.outputCommitmentX i = (signals.outputNote i).out.1
  outputCommitmentY (i : Fin 2) : signals.outputCommitmentY i = (signals.outputNote i).out.2
  -- 5b. ownership of outputs
  outputOwner_recipient : signals.outputOwnerPubKey 0 = signals.recipient
  outputOwner_change : signals.outputOwnerPubKey 1 = signals.inputOwnerPubKey 0
  -- 6. value conservation
  conservation : signals.inputAmount 0 + signals.inputAmount 1 =
    signals.outputAmount 0 + signals.outputAmount 1 + signals.fee
  -- 7. transaction-context binding
  outputSetHash : signals.outputSetHash = poseidon [outputSetDomain, signals.outputCommitmentX 0,
    signals.outputCommitmentY 0, signals.outputCommitmentX 1, signals.outputCommitmentY 1]
  txCore : signals.txCore = poseidon [txContextDomain, signals.contextId, signals.merkleRoot, signals.assetType,
    signals.fee, signals.recipient]
  txMid : signals.txMid = poseidon [signals.txCore, signals.relayer, signals.inputNullifiers 0,
    signals.inputNullifiers 1]
  txFinal : signals.txFinal = poseidon [signals.txMid, signals.outputSetHash]
  transactionHash : signals.transactionHash = signals.txFinal

end Constraints

section Soundness

variable {poseidon : List FieldElement → FieldElement}
variable {pedersen : List FieldElement → FieldElement × FieldElement}
variable {TREE_DEPTH : Nat} {signals : ConfidentialLedgerJoinSplit TREE_DEPTH}

/-- The note behind an input of a satisfying assignment. -/
def ConfidentialLedgerJoinSplit.Constraints.input (h : signals.Constraints poseidon pedersen) (i : Fin 2) : Note :=
  (h.inputNote i).component.note

/-- The note behind an output of a satisfying assignment. -/
def ConfidentialLedgerJoinSplit.Constraints.output (h : signals.Constraints poseidon pedersen) (i : Fin 2) : Note :=
  (h.outputNote i).component.note

namespace ConfidentialLedgerJoinSplit.Constraints

@[simp] theorem input_amount (h : signals.Constraints poseidon pedersen) (i : Fin 2) :
    (h.input i).amount = (signals.inputAmount i).val :=
  congrArg ZMod.val (h.inputNote i).amount

@[simp] theorem input_assetType (h : signals.Constraints poseidon pedersen) (i : Fin 2) :
    (h.input i).assetType = signals.assetType.val :=
  congrArg ZMod.val (h.inputNote i).assetType

@[simp] theorem input_ownerPubKey (h : signals.Constraints poseidon pedersen) (i : Fin 2) :
    (h.input i).ownerPubKey = signals.inputOwnerPubKey i :=
  (h.inputNote i).ownerPubKey

@[simp] theorem input_nonce (h : signals.Constraints poseidon pedersen) (i : Fin 2) :
    (h.input i).nonce = (signals.inputNonce i).val :=
  congrArg ZMod.val (h.inputNote i).nonce

@[simp] theorem output_amount (h : signals.Constraints poseidon pedersen) (i : Fin 2) :
    (h.output i).amount = (signals.outputAmount i).val :=
  congrArg ZMod.val (h.outputNote i).amount

@[simp] theorem output_assetType (h : signals.Constraints poseidon pedersen) (i : Fin 2) :
    (h.output i).assetType = signals.assetType.val :=
  congrArg ZMod.val (h.outputNote i).assetType

@[simp] theorem output_ownerPubKey (h : signals.Constraints poseidon pedersen) (i : Fin 2) :
    (h.output i).ownerPubKey = signals.outputOwnerPubKey i :=
  (h.outputNote i).ownerPubKey

theorem inputNote_out (h : signals.Constraints poseidon pedersen) (i : Fin 2) :
    (signals.inputNote i).out = (h.input i).commitment pedersen :=
  (h.inputNote i).component.out_eq

/-- The published output coordinates commit to the output note. -/
theorem outputCommitment (h : signals.Constraints poseidon pedersen) (i : Fin 2) :
    (signals.outputCommitmentX i, signals.outputCommitmentY i) = (h.output i).commitment pedersen := by
  rw [h.outputCommitmentX, h.outputCommitmentY]
  exact (h.outputNote i).component.out_eq

theorem inputCommitmentHash_eq (h : signals.Constraints poseidon pedersen) (i : Fin 2) :
    signals.inputCommitmentHash i = (h.input i).commitmentHash poseidon pedersen := by
  rw [h.inputCommitmentHash, h.inputLeaf, h.inputNote_out]
  rfl

/-- Each input note is under the public root. -/
theorem merkleRoot_eq (h : signals.Constraints poseidon pedersen) (i : Fin 2) :
    signals.merkleRoot = padded_tree.pathRoot (merkle.merkleNode (poseidon3 poseidon)) (signals.inputPath i).steps
      ((h.input i).commitmentHash poseidon pedersen) := by
  rw [← h.inputPath_root i, (h.inputPath i).root_eq, h.inputPath_leaf, h.inputCommitmentHash_eq]
  rfl

/-- The owner key of an input note is the hash of the secret proved for it. -/
theorem input_owner (h : signals.Constraints poseidon pedersen) (i : Fin 2) :
    (h.input i).ownerPubKey = ownerPubKey poseidon (signals.inputOwnerSecret i) := by
  rw [h.input_ownerPubKey, h.inputOwnerPubKey, h.ownerPk]
  rfl

/-- A published nullifier is determined by the context, the secret and the
note. -/
theorem inputNullifier_eq (h : signals.Constraints poseidon pedersen) (i : Fin 2) :
    signals.inputNullifiers i =
      poseidon [poseidon [nullifierDomain, signals.contextId, signals.inputOwnerSecret i],
        ((h.input i).nonce : FieldElement), (h.input i).commitmentHash poseidon pedersen] := by
  rw [h.inputNullifiers, h.nullifierHash, h.nullifierKey, h.inputCommitmentHash_eq, h.input_nonce,
    ZMod.natCast_zmod_val]

theorem inputNullifiers_ne (h : signals.Constraints poseidon pedersen) :
    signals.inputNullifiers 0 ≠ signals.inputNullifiers 1 := by
  have hequal := h.nullifiersEqual
  rw [IsEqual.Constraints, h.nullifiersEqual_left, h.nullifiersEqual_right, h.nullifiersEqual_out] at hequal
  intro heq
  rw [if_pos heq] at hequal
  exact zero_ne_one hequal

theorem fee_lt (h : signals.Constraints poseidon pedersen) : signals.fee.val < 2 ^ 64 :=
  h.feeBits_in ▸ (h.feeBits.range (by decide)).1

/-- The conservation constraint holds over the integers: both sides stay far
below the field order, so the equation cannot wrap around. -/
theorem conservation_nat (h : signals.Constraints poseidon pedersen) :
    (h.input 0).amount + (h.input 1).amount = (h.output 0).amount + (h.output 1).amount + signals.fee.val := by
  have hfee := h.fee_lt
  have hinput0 := (h.input 0).amount_lt
  have hinput1 := (h.input 1).amount_lt
  have houtput0 := (h.output 0).amount_lt
  have houtput1 := (h.output 1).amount_lt
  have hfield : (((h.input 0).amount + (h.input 1).amount : Nat) : FieldElement) =
      (((h.output 0).amount + (h.output 1).amount + signals.fee.val : Nat) : FieldElement) := by
    simp only [input_amount, output_amount]
    push_cast
    simp only [ZMod.natCast_zmod_val]
    exact h.conservation
  have hwide : 2 ^ 66 < bn254ScalarField := by decide
  rwa [ZMod.natCast_eq_natCast_iff', Nat.mod_eq_of_lt (by omega), Nat.mod_eq_of_lt (by omega)] at hfield

end ConfidentialLedgerJoinSplit.Constraints

end Soundness

end rwa.circuit
