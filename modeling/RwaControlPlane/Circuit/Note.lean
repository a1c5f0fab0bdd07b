import RwaControlPlane.Library.BitDecomposition
import RwaControlPlane.Merkle.Frontier

open rwa.security bit_decomposition

namespace rwa.circuit

/-- Domain tag of a note, "CL2NOTE\x01". -/
def noteDomain : Nat := 0x434c324e4f544501

/-- A note that fits the commitment layout. -/
@[ext] structure Note where
  amount : Nat
  assetType : Nat
  ownerPubKey : FieldElement
  nonce : Nat
  blinding : Nat
  amount_lt : amount < 2 ^ 64
  assetType_lt : assetType < 2 ^ 32
  nonce_lt : nonce < 2 ^ 128
  blinding_lt : blinding < 2 ^ 248
deriving DecidableEq

/-- The 792 bits of a note, every field least significant bit first. The owner
key takes 254 bits and two zero pad bits. -/
def Note.message (note : Note) : List FieldElement :=
  bitsOf bn254ScalarField 64 noteDomain ++ bitsOf bn254ScalarField 64 note.amount ++
    bitsOf bn254ScalarField 32 note.assetType ++ bitsOf bn254ScalarField 254 note.ownerPubKey.val ++
    [0, 0] ++ bitsOf bn254ScalarField 128 note.nonce ++ bitsOf bn254ScalarField 248 note.blinding

/-- Both coordinates of the commitment to a note. -/
def Note.commitment (pedersen : List FieldElement → FieldElement × FieldElement) (note : Note) :
    FieldElement × FieldElement :=
  pedersen note.message

/-- The leaf of a note in the note tree. -/
def Note.commitmentHash (poseidon : List FieldElement → FieldElement)
    (pedersen : List FieldElement → FieldElement × FieldElement) (note : Note) : FieldElement :=
  poseidon [merkle.merkleLeafDomain, (note.commitment pedersen).1, (note.commitment pedersen).2]

/-- The public key of an owner secret. -/
def ownerPubKey (poseidon : List FieldElement → FieldElement) (ownerSecret : FieldElement) : FieldElement :=
  poseidon [ownerSecret]

/-- Poseidon with three inputs, the hash of the note tree. -/
def poseidon3 (poseidon : List FieldElement → FieldElement) (first second third : FieldElement) : FieldElement :=
  poseidon [first, second, third]

theorem bn254ScalarField_lt : bn254ScalarField < 2 ^ 254 := by decide

theorem two_pow_le_bn254ScalarField {count : Nat} (h : count ≤ 253) : 2 ^ count ≤ bn254ScalarField :=
  (Nat.pow_le_pow_right (by decide) h).trans (by decide)

/-- The commitment layout is injective: a message determines its note. -/
theorem Note.message_injective : Function.Injective Note.message := by
  intro left right h
  simp only [Note.message] at h
  obtain ⟨h, hblinding⟩ := List.append_inj' h (by simp)
  obtain ⟨h, hnonce⟩ := List.append_inj' h (by simp)
  obtain ⟨h, -⟩ := List.append_inj' h rfl
  obtain ⟨h, howner⟩ := List.append_inj' h (by simp)
  obtain ⟨h, hasset⟩ := List.append_inj' h (by simp)
  obtain ⟨-, hamount⟩ := List.append_inj' h (by simp)
  have hownerVal := bitsOf_injective (left.ownerPubKey.val_lt.trans bn254ScalarField_lt)
    (right.ownerPubKey.val_lt.trans bn254ScalarField_lt) howner
  ext
  · exact bitsOf_injective left.amount_lt right.amount_lt hamount
  · exact bitsOf_injective left.assetType_lt right.assetType_lt hasset
  · exact ZMod.val_injective bn254ScalarField hownerVal
  · exact bitsOf_injective left.nonce_lt right.nonce_lt hnonce
  · exact bitsOf_injective left.blinding_lt right.blinding_lt hblinding

end rwa.circuit
