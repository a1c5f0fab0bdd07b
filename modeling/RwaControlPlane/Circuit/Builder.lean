import RwaControlPlane.Circuit.Membership
import RwaControlPlane.Circuit.Nullifier
import RwaControlPlane.Circuit.ReferenceNote

open checked rwa.security rwa.merkle padded_tree

namespace rwa.circuit.reference

structure ReferenceInput where
  note : ReferenceNote
  ownerSecret : Int
  index : Nat

structure JoinSplitArguments where
  inputs : List ReferenceInput
  outputs : List ReferenceNote
  tree : BuiltTree
  contextId : Int
  assetType : Int
  fee : Int
  recipient : Int
  relayer : Int

/-- The input signals of the circuit by name, as texts. -/
structure JoinSplitInput where
  merkleRoot : String
  contextId : String
  assetType : String
  fee : String
  recipient : String
  relayer : String
  transactionHash : String
  inputNullifiers : List String
  outputCommitmentX : List String
  outputCommitmentY : List String
  inputAmount : List String
  inputOwnerPubKey : List String
  inputOwnerSecret : List String
  inputNonce : List String
  inputBlinding : List String
  pathElements : List (List String)
  pathDirections : List (List String)
  outputAmount : List String
  outputOwnerPubKey : List String
  outputNonce : List String
  outputBlinding : List String

structure DerivedValues where
  nullifiers : List FieldElement
  outCommitments : List (FieldElement × FieldElement)
  txHash : FieldElement
  root : FieldElement

structure BuiltJoinSplit where
  input : JoinSplitInput
  derived : DerivedValues

/-- The public part in the order of the circuit's declarations. -/
def JoinSplitInput.publicSignals (input : JoinSplitInput) : List String :=
  [input.merkleRoot, input.contextId, input.assetType, input.fee, input.recipient, input.relayer,
    input.transactionHash] ++ input.inputNullifiers ++ input.outputCommitmentX ++ input.outputCommitmentY

/-- `String(element)` of an array element that may be missing. -/
def elementText : Option FieldElement → String
  | some element => toText element
  | none => "undefined"

section Build

variable (poseidon : List FieldElement → FieldElement)
variable (pedersen : List FieldElement → FieldElement × FieldElement)

/-- The commitment of a note. Pedersen is a hash of bits, which the library takes
from the bytes. -/
def noteCommitment (note : ReferenceNote) : Except Failure (FieldElement × FieldElement) := do
  let msg ← noteMessage note
  throwIf (msg.length ≠ 99) ⟨"", s!"note message must be 99 bytes, got {msg.length}"⟩
  pure (pedersen (bitsOfBytes msg))

def commitmentHash (note : ReferenceNote) : Except Failure FieldElement := do
  let point ← noteCommitment pedersen note
  pure (poseidon [merkleLeafDomain, point.1, point.2])

def nullifierKey (contextId ownerSecret : Int) : FieldElement :=
  poseidon [nullifierDomain, contextId, ownerSecret]

def inputNullifier (note : ReferenceNote) (ownerSecret contextId : Int) : Except Failure FieldElement := do
  let hash ← commitmentHash poseidon pedersen note
  pure (poseidon [nullifierKey poseidon contextId ownerSecret, note.nonce, hash])

def outputSetHash (first second : FieldElement × FieldElement) : FieldElement :=
  poseidon [outputSetDomain, first.1, first.2, second.1, second.2]

def transactionHash (args : JoinSplitArguments) (nullifiers : FieldElement × FieldElement)
    (outCommitments : (FieldElement × FieldElement) × (FieldElement × FieldElement)) : FieldElement :=
  let txCore := poseidon [txContextDomain, args.contextId, args.tree.root, args.assetType, args.fee, args.recipient]
  let txMid := poseidon [txCore, args.relayer, nullifiers.1, nullifiers.2]
  poseidon [txMid, outputSetHash poseidon outCommitments.1 outCommitments.2]

/-- Every note carries the public asset type. -/
def assertAssetType (assetType : Int) (note : ReferenceNote) : Except Failure Unit :=
  throwIf (note.assetType ≠ assetType) ⟨"", "every note must carry the transaction's public assetType"⟩

/-- What is returned once every check has passed. -/
def assemble (args : JoinSplitArguments) (first second : ReferenceInput) (payment change : ReferenceNote)
    (nullifiers : FieldElement × FieldElement)
    (outCommitments : (FieldElement × FieldElement) × (FieldElement × FieldElement)) : BuiltJoinSplit :=
  let txHash := transactionHash poseidon args nullifiers outCommitments
  let firstProof := merkleProof args.tree first.index
  let secondProof := merkleProof args.tree second.index
  { input :=
      { merkleRoot := toText args.tree.root
        contextId := args.contextId.repr
        assetType := args.assetType.repr
        fee := args.fee.repr
        recipient := args.recipient.repr
        relayer := args.relayer.repr
        transactionHash := toText txHash
        inputNullifiers := [toText nullifiers.1, toText nullifiers.2]
        outputCommitmentX := [toText outCommitments.1.1, toText outCommitments.2.1]
        outputCommitmentY := [toText outCommitments.1.2, toText outCommitments.2.2]
        inputAmount := [first.note.amount.repr, second.note.amount.repr]
        inputOwnerPubKey := [first.note.ownerPubKey.repr, second.note.ownerPubKey.repr]
        inputOwnerSecret := [first.ownerSecret.repr, second.ownerSecret.repr]
        inputNonce := [first.note.nonce.repr, second.note.nonce.repr]
        inputBlinding := [first.note.blinding.repr, second.note.blinding.repr]
        pathElements := [firstProof.pathElements.map elementText, secondProof.pathElements.map elementText]
        pathDirections := [firstProof.pathDirections.map Int.repr, secondProof.pathDirections.map Int.repr]
        outputAmount := [payment.amount.repr, change.amount.repr]
        outputOwnerPubKey := [payment.ownerPubKey.repr, change.ownerPubKey.repr]
        outputNonce := [payment.nonce.repr, change.nonce.repr]
        outputBlinding := [payment.blinding.repr, change.blinding.repr] }
    derived :=
      { nullifiers := [nullifiers.1, nullifiers.2]
        outCommitments := [outCommitments.1, outCommitments.2]
        txHash
        root := args.tree.root } }

def buildJoinSplit (args : JoinSplitArguments) : Except Failure BuiltJoinSplit :=
  match args.inputs, args.outputs with
  | [first, second], [payment, change] => do
    assertRange "fee" 64 args.fee
    assertRange "assetType" 32 args.assetType
    let sumIn := first.note.amount + second.note.amount
    let sumOut := payment.amount + change.amount + args.fee
    throwIf (sumIn ≠ sumOut) ⟨"", s!"value not conserved: in={sumIn} out+fee={sumOut}"⟩
    assertAssetType args.assetType first.note
    assertAssetType args.assetType second.note
    assertAssetType args.assetType payment
    assertAssetType args.assetType change
    let firstNullifier ← inputNullifier poseidon pedersen first.note first.ownerSecret args.contextId
    let secondNullifier ← inputNullifier poseidon pedersen second.note second.ownerSecret args.contextId
    throwIf (firstNullifier = secondNullifier)
      ⟨"", "the two input notes must be distinct; the circuit rejects equal nullifiers"⟩
    let paymentCommitment ← noteCommitment pedersen payment
    let changeCommitment ← noteCommitment pedersen change
    pure (assemble poseidon args first second payment change (firstNullifier, secondNullifier)
      (paymentCommitment, changeCommitment))
  | _, _ => .error ⟨"", "this circuit is a fixed 2-in / 2-out JoinSplit"⟩

end Build

section Spec

variable {poseidon : List FieldElement → FieldElement}
variable {pedersen : List FieldElement → FieldElement × FieldElement}

theorem noteCommitment_eq_ok_iff {note : ReferenceNote} {point : FieldElement × FieldElement} :
    noteCommitment pedersen note = .ok point ↔ note.InRange ∧ point = pedersen (bitsOfBytes note.bytes) := by
  simp only [noteCommitment, bind_eq_ok_iff, throwIf_eq_ok_iff, exists_unit, pure_eq_ok_iff, noteMessage_eq_ok_iff,
    not_not]
  constructor
  · rintro ⟨_, ⟨hrange, rfl⟩, -, rfl⟩
    exact ⟨hrange, rfl⟩
  · rintro ⟨hrange, rfl⟩
    exact ⟨_, ⟨hrange, rfl⟩, ReferenceNote.length_bytes, rfl⟩

/-- The leaf of a note of the builder. -/
def leafOf (poseidon : List FieldElement → FieldElement) (pedersen : List FieldElement → FieldElement × FieldElement)
    (note : ReferenceNote) : FieldElement :=
  poseidon [merkleLeafDomain, (pedersen (bitsOfBytes note.bytes)).1, (pedersen (bitsOfBytes note.bytes)).2]

theorem commitmentHash_eq_ok_iff {note : ReferenceNote} {hash : FieldElement} :
    commitmentHash poseidon pedersen note = .ok hash ↔ note.InRange ∧ hash = leafOf poseidon pedersen note := by
  simp only [commitmentHash, bind_eq_ok_iff, pure_eq_ok_iff, noteCommitment_eq_ok_iff]
  constructor
  · rintro ⟨_, ⟨hrange, rfl⟩, rfl⟩
    exact ⟨hrange, rfl⟩
  · rintro ⟨hrange, rfl⟩
    exact ⟨_, ⟨hrange, rfl⟩, rfl⟩

/-- The nullifier of a note of the builder. -/
def nullifierOf (poseidon : List FieldElement → FieldElement)
    (pedersen : List FieldElement → FieldElement × FieldElement) (contextId : Int) (input : ReferenceInput) :
    FieldElement :=
  poseidon [nullifierKey poseidon contextId input.ownerSecret, input.note.nonce, leafOf poseidon pedersen input.note]

theorem inputNullifier_eq_ok_iff {input : ReferenceInput} {contextId : Int} {nullifier : FieldElement} :
    inputNullifier poseidon pedersen input.note input.ownerSecret contextId = .ok nullifier ↔
      input.note.InRange ∧ nullifier = nullifierOf poseidon pedersen contextId input := by
  simp only [inputNullifier, bind_eq_ok_iff, pure_eq_ok_iff, commitmentHash_eq_ok_iff]
  constructor
  · rintro ⟨_, ⟨hrange, rfl⟩, rfl⟩
    exact ⟨hrange, rfl⟩
  · rintro ⟨hrange, rfl⟩
    exact ⟨_, ⟨hrange, rfl⟩, rfl⟩

/-- What the checks of the builder leave. -/
structure Accepted (poseidon : List FieldElement → FieldElement)
    (pedersen : List FieldElement → FieldElement × FieldElement) (args : JoinSplitArguments)
    (first second : ReferenceInput) (payment change : ReferenceNote) : Prop where
  inputs : args.inputs = [first, second]
  outputs : args.outputs = [payment, change]
  fee : 0 ≤ args.fee ∧ args.fee.toNat < 2 ^ 64
  assetType : 0 ≤ args.assetType ∧ args.assetType.toNat < 2 ^ 32
  conserved : first.note.amount + second.note.amount = payment.amount + change.amount + args.fee
  assetTypes : first.note.assetType = args.assetType ∧ second.note.assetType = args.assetType ∧
    payment.assetType = args.assetType ∧ change.assetType = args.assetType
  notes : first.note.InRange ∧ second.note.InRange ∧ payment.InRange ∧ change.InRange
  nullifiers : nullifierOf poseidon pedersen args.contextId first ≠ nullifierOf poseidon pedersen args.contextId second

/-- Exactly the arguments that pass the checks are built. -/
theorem buildJoinSplit_eq_ok_iff {args : JoinSplitArguments} {built : BuiltJoinSplit} :
    buildJoinSplit poseidon pedersen args = .ok built ↔
      ∃ first second payment change, Accepted poseidon pedersen args first second payment change ∧
        built = assemble poseidon args first second payment change
          (nullifierOf poseidon pedersen args.contextId first, nullifierOf poseidon pedersen args.contextId second)
          (pedersen (bitsOfBytes payment.bytes), pedersen (bitsOfBytes change.bytes)) := by
  constructor
  · intro h
    unfold buildJoinSplit at h
    split at h
    · next first second payment change hinputs houtputs =>
      simp only [bind_eq_ok_iff, throwIf_eq_ok_iff, exists_unit, pure_eq_ok_iff, assertRange_eq_ok_iff,
        assertAssetType, inputNullifier_eq_ok_iff, noteCommitment_eq_ok_iff, not_not] at h
      obtain ⟨hfee, hassetType, hconserved, hfirstType, hsecondType, hpaymentType, hchangeType, _, ⟨hfirst, rfl⟩, _,
        ⟨hsecond, rfl⟩, hdistinct, _, ⟨hpayment, rfl⟩, _, ⟨hchange, rfl⟩, rfl⟩ := h
      exact ⟨first, second, payment, change,
        ⟨hinputs, houtputs, hfee, hassetType, hconserved, ⟨hfirstType, hsecondType, hpaymentType, hchangeType⟩,
          ⟨hfirst, hsecond, hpayment, hchange⟩, hdistinct⟩, rfl⟩
    · nomatch h
  · rintro ⟨first, second, payment, change, h, rfl⟩
    obtain ⟨hfirstType, hsecondType, hpaymentType, hchangeType⟩ := h.assetTypes
    obtain ⟨hfirst, hsecond, hpayment, hchange⟩ := h.notes
    simp only [buildJoinSplit, h.inputs, h.outputs, bind_eq_ok_iff, throwIf_eq_ok_iff, exists_unit, pure_eq_ok_iff,
      assertRange_eq_ok_iff, assertAssetType, inputNullifier_eq_ok_iff, noteCommitment_eq_ok_iff, not_not]
    exact ⟨h.fee, h.assetType, h.conserved, hfirstType, hsecondType, hpaymentType, hchangeType, _, ⟨hfirst, rfl⟩, _,
      ⟨hsecond, rfl⟩, h.nullifiers, _, ⟨hpayment, rfl⟩, _, ⟨hchange, rfl⟩, rfl⟩

end Spec

end rwa.circuit.reference
