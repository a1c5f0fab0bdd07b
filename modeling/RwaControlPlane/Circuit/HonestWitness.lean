import RwaControlPlane.Circuit.Builder

open checked rwa.security rwa.merkle padded_tree

namespace rwa.circuit.reference

/-- A text that the witness calculator reads as a signal: it takes the number
modulo the field order. -/
def Denotes (text : String) (signal : FieldElement) : Prop :=
  ∃ value : Int, text = value.repr ∧ (value : FieldElement) = signal

/-- The texts assign the input signals of the circuit. -/
structure JoinSplitInput.Assigns (input : JoinSplitInput) (signals : ConfidentialLedgerJoinSplit merkleTreeDepth) :
    Prop where
  merkleRoot : Denotes input.merkleRoot signals.merkleRoot
  contextId : Denotes input.contextId signals.contextId
  assetType : Denotes input.assetType signals.assetType
  fee : Denotes input.fee signals.fee
  recipient : Denotes input.recipient signals.recipient
  relayer : Denotes input.relayer signals.relayer
  transactionHash : Denotes input.transactionHash signals.transactionHash
  inputNullifiers : List.Forall₂ Denotes input.inputNullifiers (List.ofFn signals.inputNullifiers)
  outputCommitmentX : List.Forall₂ Denotes input.outputCommitmentX (List.ofFn signals.outputCommitmentX)
  outputCommitmentY : List.Forall₂ Denotes input.outputCommitmentY (List.ofFn signals.outputCommitmentY)
  inputAmount : List.Forall₂ Denotes input.inputAmount (List.ofFn signals.inputAmount)
  inputOwnerPubKey : List.Forall₂ Denotes input.inputOwnerPubKey (List.ofFn signals.inputOwnerPubKey)
  inputOwnerSecret : List.Forall₂ Denotes input.inputOwnerSecret (List.ofFn signals.inputOwnerSecret)
  inputNonce : List.Forall₂ Denotes input.inputNonce (List.ofFn signals.inputNonce)
  inputBlinding : List.Forall₂ Denotes input.inputBlinding (List.ofFn signals.inputBlinding)
  pathElements : List.Forall₂ (fun texts elements => List.Forall₂ Denotes texts (List.ofFn elements))
    input.pathElements (List.ofFn signals.pathElements)
  pathDirections : List.Forall₂ (fun texts directions => List.Forall₂ Denotes texts (List.ofFn directions))
    input.pathDirections (List.ofFn signals.pathDirections)
  outputAmount : List.Forall₂ Denotes input.outputAmount (List.ofFn signals.outputAmount)
  outputOwnerPubKey : List.Forall₂ Denotes input.outputOwnerPubKey (List.ofFn signals.outputOwnerPubKey)
  outputNonce : List.Forall₂ Denotes input.outputNonce (List.ofFn signals.outputNonce)
  outputBlinding : List.Forall₂ Denotes input.outputBlinding (List.ofFn signals.outputBlinding)

/-- Arguments about notes that their owner can spend. An array has fewer than
2^32 elements. -/
structure Honest (poseidon : List FieldElement → FieldElement)
    (pedersen : List FieldElement → FieldElement × FieldElement) (leaves : List FieldElement)
    (args : JoinSplitArguments) : Prop where
  array : leaves.length < 2 ^ 32
  tree : args.tree = buildTree (poseidon3 poseidon) leaves merkleTreeDepth
  owned : ∀ input ∈ args.inputs, input.note.ownerPubKey = (ownerPubKey poseidon input.ownerSecret).val
  leaf : ∀ input ∈ args.inputs, ∃ hash, commitmentHash poseidon pedersen input.note = .ok hash ∧
    leaves[input.index]? = some hash
  outputs : ∀ note ∈ args.outputs, 0 ≤ note.ownerPubKey ∧ note.ownerPubKey < (bn254ScalarField : Nat)
  contextId : 0 ≤ args.contextId ∧ args.contextId < (bn254ScalarField : Nat)
  relayer : 0 ≤ args.relayer ∧ args.relayer < (bn254ScalarField : Nat)
  recipient : args.outputs[0]?.map ReferenceNote.ownerPubKey = some args.recipient
  change : args.outputs[1]?.map ReferenceNote.ownerPubKey =
    args.inputs[0]?.map fun input => input.note.ownerPubKey

section Texts

theorem denotes_repr {value : Int} : Denotes value.repr value := ⟨value, rfl, rfl⟩

/-- A canonical number is printed like the element it denotes. -/
theorem repr_canonical {value : Int} (h : 0 ≤ value ∧ value < (bn254ScalarField : Nat)) :
    value.repr = toText (value : FieldElement) := by
  obtain ⟨number, rfl⟩ := Int.eq_ofNat_of_zero_le h.1
  have hlt : number < bn254ScalarField := by omega
  rw [toText, Int.cast_natCast, ZMod.val_natCast_of_lt hlt]
  rfl

theorem denotes_toText {element : FieldElement} : Denotes (toText element) element :=
  ⟨element.val, rfl, by rw [Int.cast_natCast, ZMod.natCast_zmod_val]⟩

/-- No number is printed as "undefined". -/
theorem not_denotes_undefined {signal : FieldElement} : ¬Denotes "undefined" signal := by
  rintro ⟨value, htext, -⟩
  cases value with
  | ofNat number =>
    have hcanonical := decimal.isCanonical_repr number
    rw [← show "undefined" = number.repr from htext] at hcanonical
    exact absurd hcanonical (by decide)
  | negSucc number =>
    have hfirst := congrArg (fun text : String => text.toList.head?) htext
    simp [Int.repr] at hfirst

end Texts

section Paths

variable {poseidon : List FieldElement → FieldElement} {leaves : List FieldElement} {index : Nat}

/-- The path of an index, as the signals of the circuit take it. -/
def stepsAt (poseidon : List FieldElement → FieldElement) (leaves : List FieldElement) (index : Nat) :
    Fin merkleTreeDepth → Bool × FieldElement :=
  fun i => (indexPath (poseidon3 poseidon) leaves 0 merkleTreeDepth index).get
    ⟨i, lt_length_indexPath poseidon leaves index i⟩

theorem ofFn_stepsAt {β : Type} {value : Bool × FieldElement → β} :
    (List.ofFn fun i => value (stepsAt poseidon leaves index i)) =
      (indexPath (poseidon3 poseidon) leaves 0 merkleTreeDepth index).map value := by
  apply List.ext_getElem
  · rw [List.length_ofFn, List.length_map, length_indexPath]
  · intro i _ _
    simp [stepsAt]

theorem pathElements_assigned (hindex : index < 2 ^ 31) :
    List.Forall₂ Denotes
      ((merkleProof (buildTree (poseidon3 poseidon) leaves merkleTreeDepth) index).pathElements.map elementText)
      (List.ofFn fun i => (stepsAt poseidon leaves index i).2) := by
  have hproof := @proofSteps_buildTree (poseidon3 poseidon) leaves merkleTreeDepth merkleTreeDepth 0 index
    (Nat.zero_add _) hindex
  simp only [buildTree] at hproof
  simp only [merkleProof, buildTree, hproof, List.map_map, ofFn_stepsAt]
  rw [List.forall₂_map_left_iff, List.forall₂_map_right_iff]
  exact List.forall₂_same.mpr fun _ _ => denotes_toText

theorem pathDirections_assigned (hindex : index < 2 ^ 31) :
    List.Forall₂ Denotes
      ((merkleProof (buildTree (poseidon3 poseidon) leaves merkleTreeDepth) index).pathDirections.map Int.repr)
      (List.ofFn fun i => if (stepsAt poseidon leaves index i).1 then 1 else 0) := by
  have hproof := @proofSteps_buildTree (poseidon3 poseidon) leaves merkleTreeDepth merkleTreeDepth 0 index
    (Nat.zero_add _) hindex
  simp only [buildTree] at hproof
  simp only [merkleProof, buildTree, hproof, List.map_map,
    @ofFn_stepsAt poseidon leaves index _ fun step => if step.1 then (1 : FieldElement) else 0]
  rw [List.forall₂_map_left_iff, List.forall₂_map_right_iff]
  refine List.forall₂_same.mpr fun step _ => ⟨_, rfl, ?_⟩
  obtain ⟨direction, element⟩ := step
  cases direction <;> simp

/-- The path of a leaf leads to the root. -/
theorem pathLevel_stepsAt (hindex : index < 2 ^ 31) {leaf : FieldElement} (hleaf : leaves[index]? = some leaf) :
    pathLevel poseidon (stepsAt poseidon leaves index) leaf merkleTreeDepth =
      (buildTree (poseidon3 poseidon) leaves merkleTreeDepth).root := by
  have hpadded : padded 0 leaves index = leaf := by
    rw [padded, List.getD_eq_getElem?_getD, hleaf, Option.getD_some]
  have hroot := merklePath_complete hindex (MerklePath.assign_constraints _ _) rfl
    (@proofSignals_carries poseidon leaves index hindex)
  rw [← hpadded, ← hroot]
  rfl

end Paths

/-- `^ 1` of a number from 2^31 on is negative. -/
theorem xorOne_neg {index : Nat} (hlow : 2 ^ 31 ≤ index) (hhigh : index < 2 ^ 32) : xorOne index < 0 := by
  have hmsb : (BitVec.ofInt 32 index ^^^ 1#32).msb = true := by
    rw [BitVec.msb_xor, BitVec.ofInt_natCast]
    have hset : (BitVec.ofNat 32 index).msb = true := by
      rw [BitVec.msb_eq_decide, BitVec.toNat_ofNat, Nat.mod_eq_of_lt hhigh]
      exact decide_eq_true hlow
    rw [hset]
    rfl
  rw [xorOne]
  exact BitVec.toInt_neg_of_msb_true hmsb

/-- The first element of the path of such an index is missing. -/
theorem pathElements_undefined {tree : BuiltTree} {index : Nat} (hdepth : tree.depth = merkleTreeDepth)
    (hlow : 2 ^ 31 ≤ index) (hhigh : index < 2 ^ 32) :
    ∃ rest, (merkleProof tree index).pathElements.map elementText = "undefined" :: rest := by
  have hneg := xorOne_neg hlow hhigh
  have hinside (length : Nat) : xorOne index < length := by omega
  refine ⟨((proofSteps tree 1 31 (shiftOne index)).map Prod.fst).map elementText, ?_⟩
  simp only [merkleProof, hdepth, merkleTreeDepth, proofSteps, proofStep, List.map_cons, hinside, if_true, nodeAt, hneg]
  rfl

section Witness

variable {poseidon : List FieldElement → FieldElement}
variable {pedersen : List FieldElement → FieldElement × FieldElement}
variable {leaves : List FieldElement} {args : JoinSplitArguments} {first second : ReferenceInput}
  {payment change : ReferenceNote}

/-- The circuit commits to an accepted note as the builder does. -/
theorem circuitNote_commitment {note : ReferenceNote} (h : note.InRange)
    (hcanonical : note.ownerPubKey < (bn254ScalarField : Nat)) :
    h.circuitNote.commitment pedersen = pedersen (bitsOfBytes note.bytes) :=
  congrArg pedersen (h.message_eq_iff.mpr hcanonical)

theorem circuitNote_commitmentHash {note : ReferenceNote} (h : note.InRange)
    (hcanonical : note.ownerPubKey < (bn254ScalarField : Nat)) :
    h.circuitNote.commitmentHash poseidon pedersen = leafOf poseidon pedersen note := by
  rw [Note.commitmentHash, circuitNote_commitment h hcanonical]
  rfl

/-- What the prover knows for accepted arguments. -/
def Accepted.witness (h : Accepted poseidon pedersen args first second payment change) (leaves : List FieldElement) :
    JoinSplitWitness merkleTreeDepth where
  inputs := ![h.notes.1.circuitNote, h.notes.2.1.circuitNote]
  ownerSecret := ![first.ownerSecret, second.ownerSecret]
  path := ![stepsAt poseidon leaves first.index, stepsAt poseidon leaves second.index]
  outputs := ![h.notes.2.2.1.circuitNote, h.notes.2.2.2.circuitNote]
  contextId := args.contextId
  assetType := args.assetType.toNat
  fee := args.fee.toNat
  recipient := args.recipient
  relayer := args.relayer

/-- The facts about two inputs and two outputs that honest arguments give. -/
structure HonestNotes (poseidon : List FieldElement → FieldElement)
    (pedersen : List FieldElement → FieldElement × FieldElement) (leaves : List FieldElement)
    (args : JoinSplitArguments) (first second : ReferenceInput) (payment change : ReferenceNote) : Prop where
  owned : first.note.ownerPubKey = (ownerPubKey poseidon first.ownerSecret).val ∧
    second.note.ownerPubKey = (ownerPubKey poseidon second.ownerSecret).val
  leaf : leaves[first.index]? = some (leafOf poseidon pedersen first.note) ∧
    leaves[second.index]? = some (leafOf poseidon pedersen second.note)
  canonical : first.note.ownerPubKey < (bn254ScalarField : Nat) ∧
    second.note.ownerPubKey < (bn254ScalarField : Nat) ∧ payment.ownerPubKey < (bn254ScalarField : Nat) ∧
    change.ownerPubKey < (bn254ScalarField : Nat)
  recipient : payment.ownerPubKey = args.recipient
  change : change.ownerPubKey = first.note.ownerPubKey

theorem Accepted.honestNotes (h : Accepted poseidon pedersen args first second payment change)
    (hhonest : Honest poseidon pedersen leaves args) :
    HonestNotes poseidon pedersen leaves args first second payment change := by
  have hfirst : first ∈ args.inputs := by simp [h.inputs]
  have hsecond : second ∈ args.inputs := by simp [h.inputs]
  have hpayment : payment ∈ args.outputs := by simp [h.outputs]
  have hchange : change ∈ args.outputs := by simp [h.outputs]
  have hleaf {input : ReferenceInput} (hinput : input ∈ args.inputs) :
      leaves[input.index]? = some (leafOf poseidon pedersen input.note) := by
    obtain ⟨hash, hhash, hleaf⟩ := hhonest.leaf input hinput
    rw [hleaf, (commitmentHash_eq_ok_iff.mp hhash).2]
  have hkey {input : ReferenceInput} (hinput : input ∈ args.inputs) :
      input.note.ownerPubKey < (bn254ScalarField : Nat) := by
    rw [hhonest.owned input hinput, Int.ofNat_lt]
    exact ZMod.val_lt _
  have hrecipient := hhonest.recipient
  have hreturned := hhonest.change
  simp only [h.outputs, h.inputs, List.getElem?_cons_zero, List.getElem?_cons_succ, Option.map_some,
    Option.some_inj] at hrecipient hreturned
  exact
    { owned := ⟨hhonest.owned first hfirst, hhonest.owned second hsecond⟩
      leaf := ⟨hleaf hfirst, hleaf hsecond⟩
      canonical := ⟨hkey hfirst, hkey hsecond, (hhonest.outputs payment hpayment).2,
        (hhonest.outputs change hchange).2⟩
      recipient := hrecipient
      change := hreturned }

theorem Accepted.nullifier_zero (h : Accepted poseidon pedersen args first second payment change)
    (hnotes : HonestNotes poseidon pedersen leaves args first second payment change) :
    (h.witness leaves).nullifier poseidon pedersen 0 = nullifierOf poseidon pedersen args.contextId first := by
  rw [nullifierOf, ← circuitNote_commitmentHash h.notes.1 hnotes.canonical.1, ← natCast_toNat h.notes.1.nonce.1]
  rfl

theorem Accepted.nullifier_one (h : Accepted poseidon pedersen args first second payment change)
    (hnotes : HonestNotes poseidon pedersen leaves args first second payment change) :
    (h.witness leaves).nullifier poseidon pedersen 1 = nullifierOf poseidon pedersen args.contextId second := by
  rw [nullifierOf, ← circuitNote_commitmentHash h.notes.2.1 hnotes.canonical.2.1, ← natCast_toNat h.notes.2.1.nonce.1]
  rfl

private theorem cast_owner {key : Int} {owner : FieldElement} (h : key = owner.val) : (key : FieldElement) = owner := by
  rw [h, Int.cast_natCast, ZMod.natCast_zmod_val]

/-- The relation of the circuit holds for what the prover knows. -/
theorem Accepted.witness_valid (h : Accepted poseidon pedersen args first second payment change)
    (hnotes : HonestNotes poseidon pedersen leaves args first second payment change)
    (htree : first.index < 2 ^ 31 ∧ second.index < 2 ^ 31) :
    (h.witness leaves).Valid poseidon pedersen ∧
      (h.witness leaves).root poseidon pedersen 0 = (buildTree (poseidon3 poseidon) leaves merkleTreeDepth).root := by
  have hroot0 : (h.witness leaves).root poseidon pedersen 0 =
      (buildTree (poseidon3 poseidon) leaves merkleTreeDepth).root := by
    rw [← @pathLevel_stepsAt poseidon leaves _ htree.1 _ hnotes.leaf.1,
      ← circuitNote_commitmentHash h.notes.1 hnotes.canonical.1]
    rfl
  have hroot1 : (h.witness leaves).root poseidon pedersen 1 =
      (buildTree (poseidon3 poseidon) leaves merkleTreeDepth).root := by
    rw [← @pathLevel_stepsAt poseidon leaves _ htree.2 _ hnotes.leaf.2,
      ← circuitNote_commitmentHash h.notes.2.1 hnotes.canonical.2.1]
    rfl
  have hnullifier0 := h.nullifier_zero hnotes
  have hnullifier1 := h.nullifier_one hnotes
  refine ⟨?_, hroot0⟩
  exact
    { assetType_lt := h.assetType.2
      fee_lt := h.fee.2
      inputs_assetType := Fin.forall_fin_two.mpr
        ⟨congrArg Int.toNat h.assetTypes.1, congrArg Int.toNat h.assetTypes.2.1⟩
      outputs_assetType := Fin.forall_fin_two.mpr
        ⟨congrArg Int.toNat h.assetTypes.2.2.1, congrArg Int.toNat h.assetTypes.2.2.2⟩
      inputs_owner := Fin.forall_fin_two.mpr
        ⟨cast_owner hnotes.owned.1, cast_owner hnotes.owned.2⟩
      roots := hroot1.trans hroot0.symm
      nullifiers := by
        rw [hnullifier0, hnullifier1]
        exact h.nullifiers
      recipient := congrArg Int.cast hnotes.recipient
      change := congrArg Int.cast hnotes.change
      conservation := by
        have hconserved := h.conserved
        have hsigns := And.intro h.notes.1.amount.1 h.notes.2.1.amount.1
        have houtSigns := And.intro h.notes.2.2.1.amount.1 h.notes.2.2.2.amount.1
        have hfee := h.fee.1
        change first.note.amount.toNat + second.note.amount.toNat =
          payment.amount.toNat + change.amount.toNat + args.fee.toNat
        omega }

/-- What the builder returns for accepted arguments. -/
abbrev Accepted.built (_ : Accepted poseidon pedersen args first second payment change) : BuiltJoinSplit :=
  assemble poseidon args first second payment change
    (nullifierOf poseidon pedersen args.contextId first, nullifierOf poseidon pedersen args.contextId second)
    (pedersen (bitsOfBytes payment.bytes), pedersen (bitsOfBytes change.bytes))

private theorem denotes_natCast {value : Int} (h : 0 ≤ value) :
    Denotes value.repr ((value.toNat : Nat) : FieldElement) := by
  rw [natCast_toNat h]
  exact denotes_repr

private theorem denotes_of_eq {element signal : FieldElement} (h : signal = element) :
    Denotes (toText element) signal := by
  rw [h]
  exact denotes_toText

private theorem forall₂_pair {α β : Type} {relation : α → β → Prop} {left right : α} {values : Fin 2 → β}
    (hleft : relation left (values 0)) (hright : relation right (values 1)) :
    List.Forall₂ relation [left, right] (List.ofFn values) :=
  .cons hleft (.cons hright .nil)

theorem Accepted.outputCommitments (h : Accepted poseidon pedersen args first second payment change)
    (hnotes : HonestNotes poseidon pedersen leaves args first second payment change) :
    ((h.witness leaves).outputs 0).commitment pedersen = pedersen (bitsOfBytes payment.bytes) ∧
      ((h.witness leaves).outputs 1).commitment pedersen = pedersen (bitsOfBytes change.bytes) :=
  ⟨circuitNote_commitment h.notes.2.2.1 hnotes.canonical.2.2.1,
    circuitNote_commitment h.notes.2.2.2 hnotes.canonical.2.2.2⟩

/-- The transaction hash of the builder is that of the circuit. -/
theorem Accepted.transactionHash_eq (h : Accepted poseidon pedersen args first second payment change)
    (hnotes : HonestNotes poseidon pedersen leaves args first second payment change)
    (hroot : (h.witness leaves).root poseidon pedersen 0 = args.tree.root) :
    (h.witness leaves).transactionHash poseidon pedersen =
      transactionHash poseidon args
        (nullifierOf poseidon pedersen args.contextId first, nullifierOf poseidon pedersen args.contextId second)
        (pedersen (bitsOfBytes payment.bytes), pedersen (bitsOfBytes change.bytes)) := by
  obtain ⟨hpayment, hchange⟩ := h.outputCommitments hnotes
  have hassetType : ((h.witness leaves).assetType : FieldElement) = args.assetType := natCast_toNat h.assetType.1
  have hfee : ((h.witness leaves).fee : FieldElement) = args.fee := natCast_toNat h.fee.1
  rw [JoinSplitWitness.transactionHash, JoinSplitWitness.txMid, JoinSplitWitness.txCore, JoinSplitWitness.outputSetHash,
    h.nullifier_zero hnotes, h.nullifier_one hnotes, hpayment, hchange, hroot, hassetType, hfee]
  rfl

/-- The texts of the builder assign the signals that the circuit computes from
what the prover knows. -/
theorem Accepted.assigns (h : Accepted poseidon pedersen args first second payment change)
    (hnotes : HonestNotes poseidon pedersen leaves args first second payment change)
    (htree : args.tree = buildTree (poseidon3 poseidon) leaves merkleTreeDepth)
    (hroot : (h.witness leaves).root poseidon pedersen 0 = args.tree.root)
    (hindex : first.index < 2 ^ 31 ∧ second.index < 2 ^ 31) :
    h.built.input.Assigns ((h.witness leaves).assign poseidon pedersen) := by
  obtain ⟨hpayment, hchange⟩ := h.outputCommitments hnotes
  refine
    { merkleRoot := ?_
      contextId := denotes_repr
      assetType := denotes_natCast h.assetType.1
      fee := denotes_natCast h.fee.1
      recipient := denotes_repr
      relayer := denotes_repr
      transactionHash := ?_
      inputNullifiers := forall₂_pair ?_ ?_
      outputCommitmentX := forall₂_pair ?_ ?_
      outputCommitmentY := forall₂_pair ?_ ?_
      inputAmount := forall₂_pair (denotes_natCast h.notes.1.amount.1) (denotes_natCast h.notes.2.1.amount.1)
      inputOwnerPubKey := forall₂_pair denotes_repr denotes_repr
      inputOwnerSecret := forall₂_pair denotes_repr denotes_repr
      inputNonce := forall₂_pair (denotes_natCast h.notes.1.nonce.1) (denotes_natCast h.notes.2.1.nonce.1)
      inputBlinding := forall₂_pair (denotes_natCast h.notes.1.blinding.1) (denotes_natCast h.notes.2.1.blinding.1)
      pathElements := ?_
      pathDirections := ?_
      outputAmount := forall₂_pair (denotes_natCast h.notes.2.2.1.amount.1) (denotes_natCast h.notes.2.2.2.amount.1)
      outputOwnerPubKey := forall₂_pair denotes_repr denotes_repr
      outputNonce := forall₂_pair (denotes_natCast h.notes.2.2.1.nonce.1) (denotes_natCast h.notes.2.2.2.nonce.1)
      outputBlinding :=
        forall₂_pair (denotes_natCast h.notes.2.2.1.blinding.1) (denotes_natCast h.notes.2.2.2.blinding.1) }
  case refine_1 => exact denotes_of_eq hroot
  case refine_2 => exact denotes_of_eq (h.transactionHash_eq hnotes hroot)
  case refine_3 => exact denotes_of_eq (h.nullifier_zero hnotes)
  case refine_4 => exact denotes_of_eq (h.nullifier_one hnotes)
  case refine_5 => exact denotes_of_eq (congrArg Prod.fst hpayment)
  case refine_6 => exact denotes_of_eq (congrArg Prod.fst hchange)
  case refine_7 => exact denotes_of_eq (congrArg Prod.snd hpayment)
  case refine_8 => exact denotes_of_eq (congrArg Prod.snd hchange)
  case refine_9 =>
    simp only [assemble, htree]
    exact forall₂_pair (pathElements_assigned hindex.1) (pathElements_assigned hindex.2)
  case refine_10 =>
    simp only [assemble, htree]
    exact forall₂_pair (pathDirections_assigned hindex.1) (pathDirections_assigned hindex.2)

/-- The public texts are those of the signals. -/
theorem Accepted.publicSignals_eq (h : Accepted poseidon pedersen args first second payment change)
    (hhonest : Honest poseidon pedersen leaves args)
    (hnotes : HonestNotes poseidon pedersen leaves args first second payment change)
    (hroot : (h.witness leaves).root poseidon pedersen 0 = args.tree.root) :
    h.built.input.publicSignals = ((h.witness leaves).assign poseidon pedersen).publicInputs.toList.map toText := by
  obtain ⟨hpayment, hchange⟩ := h.outputCommitments hnotes
  have hrange {count : Nat} {value : Int} (hvalue : 0 ≤ value ∧ value.toNat < 2 ^ count) (hfits : count ≤ 253) :
      value.repr = toText ((value.toNat : Nat) : FieldElement) := by
    have hbound := two_pow_le_bn254ScalarField hfits
    rw [natCast_toNat hvalue.1]
    exact repr_canonical ⟨hvalue.1, by omega⟩
  have hrecipient : args.recipient.repr = toText (args.recipient : FieldElement) := by
    have hsign := h.notes.2.2.1.ownerPubKey.1
    have hcanonical := hnotes.canonical.2.2.1
    rw [hnotes.recipient] at hsign hcanonical
    exact repr_canonical ⟨hsign, hcanonical⟩
  simp only [JoinSplitInput.publicSignals, assemble, JoinSplitPublicInputs.toList, joinSplitPublicSignalOrder,
    List.map_cons, List.map_nil, JoinSplitPublicInputs.get, ConfidentialLedgerJoinSplit.publicInputs,
    JoinSplitWitness.assign, hroot, h.transactionHash_eq hnotes hroot, h.nullifier_zero hnotes, h.nullifier_one hnotes,
    hpayment, hchange, List.cons_append, List.nil_append]
  rw [repr_canonical hhonest.contextId, repr_canonical hhonest.relayer, hrecipient, hrange h.assetType (by decide),
    hrange h.fee (by decide)]
  rfl

end Witness

section Satisfied

variable {poseidon : List FieldElement → FieldElement}
variable {pedersen : List FieldElement → FieldElement × FieldElement}

/-- The texts assign signals that satisfy the circuit, and their public part is
the vector that the adapter requires for the public inputs of these signals. -/
def Satisfies (poseidon : List FieldElement → FieldElement)
    (pedersen : List FieldElement → FieldElement × FieldElement) (input : JoinSplitInput) : Prop :=
  ∃ signals : ConfidentialLedgerJoinSplit merkleTreeDepth, input.Assigns signals ∧
    signals.Constraints poseidon pedersen ∧ input.publicSignals = signals.publicInputs.toList.map toText

/-- An input whose path has a missing element assigns no signals. -/
theorem not_satisfies_of_index {leaves : List FieldElement} {args : JoinSplitArguments} {first second : ReferenceInput}
    {payment change : ReferenceNote} (h : Accepted poseidon pedersen args first second payment change)
    (hhonest : Honest poseidon pedersen leaves args) {input : ReferenceInput} (hinput : input ∈ args.inputs)
    (hindex : 2 ^ 31 ≤ input.index) : ¬Satisfies poseidon pedersen h.built.input := by
  rintro ⟨signals, hassigns, -⟩
  obtain ⟨hash, -, hleaf⟩ := hhonest.leaf input hinput
  obtain ⟨hinside, -⟩ := List.getElem?_eq_some_iff.mp hleaf
  have hdepth : args.tree.depth = merkleTreeDepth := by
    rw [hhonest.tree]
    rfl
  obtain ⟨rest, hpath⟩ := pathElements_undefined hdepth hindex (hinside.trans hhonest.array)
  have hmissing {elements : Fin merkleTreeDepth → FieldElement}
      (htexts : List.Forall₂ Denotes ((merkleProof args.tree input.index).pathElements.map elementText)
        (List.ofFn elements)) : False := by
    rw [hpath] at htexts
    cases htexts with
    | cons hfirst _ => exact not_denotes_undefined hfirst
  have hpaths := hassigns.pathElements
  simp only [assemble] at hpaths
  cases hpaths with
  | cons hfirst hrest =>
    cases hrest with
    | cons hsecond _ =>
      rw [h.inputs] at hinput
      simp only [List.mem_cons, List.not_mem_nil, or_false] at hinput
      cases hinput with
      | inl heq =>
        subst heq
        exact hmissing hfirst
      | inr heq =>
        subst heq
        exact hmissing hsecond

/-- What the builder returns for honest arguments satisfies the circuit exactly
when both indexes are below 2^31. The path of an index is walked with operators
on signed numbers of 32 bits, which leave the tree from there on. -/
theorem buildJoinSplit_satisfies_iff {leaves : List FieldElement} {args : JoinSplitArguments} {built : BuiltJoinSplit}
    (hhonest : Honest poseidon pedersen leaves args) (haccepted : buildJoinSplit poseidon pedersen args = .ok built) :
    Satisfies poseidon pedersen built.input ↔ ∀ input ∈ args.inputs, input.index < 2 ^ 31 := by
  obtain ⟨first, second, payment, change, h, rfl⟩ := buildJoinSplit_eq_ok_iff.mp haccepted
  constructor
  · intro hsatisfies input hinput
    by_contra hindex
    exact not_satisfies_of_index h hhonest hinput (by omega) hsatisfies
  · intro hindexes
    have hnotes := h.honestNotes hhonest
    have hindex : first.index < 2 ^ 31 ∧ second.index < 2 ^ 31 :=
      ⟨hindexes first (by simp [h.inputs]), hindexes second (by simp [h.inputs])⟩
    obtain ⟨hvalid, hroot⟩ := h.witness_valid hnotes hindex
    rw [← hhonest.tree] at hroot
    exact ⟨_, h.assigns hnotes hhonest.tree hroot hindex, JoinSplitWitness.assign_constraints hvalid,
      h.publicSignals_eq hhonest hnotes hroot⟩

end Satisfied

section Sample

private def ownedNote (amount nonce : Int) : ReferenceNote := ⟨amount, 7, 12, nonce, 1⟩

private def firstLeaf : FieldElement := leafOf sampleHash samplePedersen (ownedNote 700 1)

private def secondLeaf : FieldElement := leafOf sampleHash samplePedersen (ownedNote 5 3)

/-- The arguments over some leaves, with the place of the first note. -/
private def sampleArguments (leaves : List FieldElement) (first second : Nat) : JoinSplitArguments where
  inputs := [⟨ownedNote 700 1, 11, first⟩, ⟨ownedNote 5 3, 11, second⟩]
  outputs := [⟨300, 7, 22, 2, 1⟩, ownedNote 402 4]
  tree := buildTree (poseidon3 sampleHash) leaves merkleTreeDepth
  contextId := 1
  assetType := 7
  fee := 3
  recipient := 22
  relayer := 0

private theorem ownedNote_inRange :
    (ownedNote 700 1).InRange ∧ (ownedNote 5 3).InRange ∧ (⟨300, 7, 22, 2, 1⟩ : ReferenceNote).InRange ∧
      (ownedNote 402 4).InRange :=
  ⟨⟨by decide, by decide, by decide, by decide, by decide⟩, ⟨by decide, by decide, by decide, by decide, by decide⟩,
    ⟨by decide, by decide, by decide, by decide, by decide⟩, ⟨by decide, by decide, by decide, by decide, by decide⟩⟩

private theorem sampleArguments_accepted (leaves : List FieldElement) (first second : Nat) :
    Accepted sampleHash samplePedersen (sampleArguments leaves first second) ⟨ownedNote 700 1, 11, first⟩
      ⟨ownedNote 5 3, 11, second⟩ ⟨300, 7, 22, 2, 1⟩ (ownedNote 402 4) where
  inputs := rfl
  outputs := rfl
  fee := by simp [sampleArguments]
  assetType := by simp [sampleArguments]
  conserved := rfl
  assetTypes := ⟨rfl, rfl, rfl, rfl⟩
  notes := ownedNote_inRange
  nullifiers := by
    have hdistinct : nullifierOf sampleHash samplePedersen 1 ⟨ownedNote 700 1, 11, 0⟩ ≠
        nullifierOf sampleHash samplePedersen 1 ⟨ownedNote 5 3, 11, 0⟩ := by
      decide +kernel
    exact hdistinct

private theorem sampleArguments_honest {leaves : List FieldElement} {first second : Nat}
    (harray : leaves.length < 2 ^ 32) (hfirst : leaves[first]? = some firstLeaf)
    (hsecond : leaves[second]? = some secondLeaf) :
    Honest sampleHash samplePedersen leaves (sampleArguments leaves first second) where
  array := harray
  tree := rfl
  owned := by
    simp only [sampleArguments, List.mem_cons, List.not_mem_nil, or_false, forall_eq_or_imp, forall_eq, ownedNote]
    decide +kernel
  leaf := by
    simp only [sampleArguments, List.mem_cons, List.not_mem_nil, or_false, forall_eq_or_imp, forall_eq,
      commitmentHash_eq_ok_iff]
    exact ⟨⟨_, ⟨ownedNote_inRange.1, rfl⟩, hfirst⟩, _, ⟨ownedNote_inRange.2.1, rfl⟩, hsecond⟩
  outputs := by
    simp only [sampleArguments, List.mem_cons, List.not_mem_nil, or_false, forall_eq_or_imp, forall_eq, ownedNote]
    decide
  contextId := by simp [sampleArguments, bn254ScalarField]
  relayer := by simp [sampleArguments, bn254ScalarField]
  recipient := rfl
  change := rfl

theorem buildJoinSplit_satisfies_sample :
    ∃ built, buildJoinSplit sampleHash samplePedersen (sampleArguments [firstLeaf, secondLeaf] 0 1) = .ok built ∧
      Satisfies sampleHash samplePedersen built.input := by
  have haccepted := buildJoinSplit_eq_ok_iff.mpr
    ⟨_, _, _, _, sampleArguments_accepted [firstLeaf, secondLeaf] 0 1, rfl⟩
  have hhonest : Honest sampleHash samplePedersen [firstLeaf, secondLeaf]
    (sampleArguments [firstLeaf, secondLeaf] 0 1) :=
    sampleArguments_honest (by simp) rfl rfl
  refine ⟨_, haccepted, (buildJoinSplit_satisfies_iff hhonest haccepted).mpr ?_⟩
  simp [sampleArguments]

/-- A tree with 2^31 copies of the second note's leaf and the first note's leaf
behind them: the builder accepts, but its texts assign no signals. -/
theorem buildJoinSplit_large_index :
    ∃ built, buildJoinSplit sampleHash samplePedersen
        (sampleArguments (List.replicate (2 ^ 31) secondLeaf ++ [firstLeaf]) (2 ^ 31) 0) = .ok built ∧
      Honest sampleHash samplePedersen (List.replicate (2 ^ 31) secondLeaf ++ [firstLeaf])
        (sampleArguments (List.replicate (2 ^ 31) secondLeaf ++ [firstLeaf]) (2 ^ 31) 0) ∧
      ¬Satisfies sampleHash samplePedersen built.input := by
  have haccepted := sampleArguments_accepted (List.replicate (2 ^ 31) secondLeaf ++ [firstLeaf]) (2 ^ 31) 0
  have hhonest : Honest sampleHash samplePedersen (List.replicate (2 ^ 31) secondLeaf ++ [firstLeaf])
      (sampleArguments (List.replicate (2 ^ 31) secondLeaf ++ [firstLeaf]) (2 ^ 31) 0) := by
    apply sampleArguments_honest
    · rw [List.length_append, List.length_replicate, List.length_singleton]
      decide
    · rw [List.getElem?_append_right (by rw [List.length_replicate]), List.length_replicate, Nat.sub_self]
      rfl
    · rw [List.getElem?_append_left (by rw [List.length_replicate]; decide), List.getElem?_replicate]
      rfl
  exact ⟨_, buildJoinSplit_eq_ok_iff.mpr ⟨_, _, _, _, haccepted, rfl⟩, hhonest,
    not_satisfies_of_index haccepted hhonest List.mem_cons_self (le_refl _)⟩

end Sample

end rwa.circuit.reference
