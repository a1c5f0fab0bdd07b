import RwaControlPlane.Circuit.Witness

open checked rwa.security bit_decomposition

namespace rwa.circuit

/-- A note as the builder is given it: five integers. -/
@[ext] structure ReferenceNote where
  amount : Int
  assetType : Int
  ownerPubKey : Int
  nonce : Int
  blinding : Int
deriving DecidableEq

/-- The low bytes of a number, least significant first. -/
def bytesOf : Nat → Nat → List Nat
  | 0, _ => []
  | count + 1, value => value % 256 :: bytesOf count (value / 256)

/-- Little-endian bytes of a fixed width. -/
def leBytes (value : Int) (nBytes : Nat) : Except Failure (List Nat) := do
  throwIf (value < 0) ⟨"", "negative value"⟩
  throwIf ((256 ^ nBytes : Nat) ≤ value) ⟨"", s!"value does not fit in {nBytes} bytes"⟩
  pure (bytesOf nBytes value.toNat)

def assertRange (name : String) (bits : Nat) (value : Int) : Except Failure Unit :=
  throwIf (value < 0 ∨ (2 ^ bits : Nat) ≤ value)
    ⟨"", s!"{name}={value} is outside its {bits}-bit range; the circuit would reject it"⟩

/-- The 99 bytes of a note. -/
def noteMessage (note : ReferenceNote) : Except Failure (List Nat) := do
  assertRange "amount" 64 note.amount
  assertRange "assetType" 32 note.assetType
  assertRange "nonce" 128 note.nonce
  assertRange "blinding" 248 note.blinding
  let domain ← leBytes noteDomain 8
  let amount ← leBytes note.amount 8
  let assetType ← leBytes note.assetType 4
  let ownerPubKey ← leBytes note.ownerPubKey 32
  let nonce ← leBytes note.nonce 16
  let blinding ← leBytes note.blinding 31
  pure (domain ++ amount ++ assetType ++ ownerPubKey ++ nonce ++ blinding)

/-- The bits of bytes, each least significant bit first. -/
def bitsOfBytes (bytes : List Nat) : List FieldElement := bytes.flatMap (bitsOf bn254ScalarField 8)

section Bytes

@[simp] theorem length_bytesOf (count value : Nat) : (bytesOf count value).length = count := by
  induction count generalizing value with
  | zero => rfl
  | succ count ih => rw [bytesOf, List.length_cons, ih]

theorem bytesOf_injective {count first second : Nat} (hfirst : first < 256 ^ count) (hsecond : second < 256 ^ count)
    (h : bytesOf count first = bytesOf count second) : first = second := by
  induction count generalizing first second with
  | zero =>
    simp only [pow_zero, Nat.lt_one_iff] at hfirst hsecond
    rw [hfirst, hsecond]
  | succ count ih =>
    simp only [bytesOf, List.cons.injEq] at h
    rw [pow_succ] at hfirst hsecond
    have hhigh := ih (by omega) (by omega) h.2
    omega

/-- The bits of the bytes of a number are the bits of the number. -/
theorem bitsOfBytes_bytesOf {count value : Nat} :
    bitsOfBytes (bytesOf count value) = bitsOf bn254ScalarField (8 * count) value := by
  induction count generalizing value with
  | zero => rfl
  | succ count ih =>
    have hbits : 8 * (count + 1) = 8 + 8 * count := by omega
    have hlow : bitsOf bn254ScalarField 8 (value % 256) = bitsOf bn254ScalarField 8 value :=
      @bitsOf_mod _ 8 value
    rw [hbits, bitsOf_add, ← ih, bytesOf, bitsOfBytes, List.flatMap_cons, hlow]
    rfl

theorem bitsOfBytes_append {first second : List Nat} :
    bitsOfBytes (first ++ second) = bitsOfBytes first ++ bitsOfBytes second :=
  List.flatMap_append

theorem leBytes_eq_ok_iff {value : Int} {nBytes : Nat} {bytes : List Nat} :
    leBytes value nBytes = .ok bytes ↔
      0 ≤ value ∧ value.toNat < 256 ^ nBytes ∧ bytes = bytesOf nBytes value.toNat := by
  simp only [leBytes, bind_eq_ok_iff, throwIf_eq_ok_iff, exists_unit, pure_eq_ok_iff, not_lt, not_le]
  constructor
  · rintro ⟨hsign, hbound, rfl⟩
    exact ⟨hsign, by omega, rfl⟩
  · rintro ⟨hsign, hbound, rfl⟩
    exact ⟨hsign, by omega, rfl⟩

theorem assertRange_eq_ok_iff {name : String} {bits : Nat} {value : Int} {done : Unit} :
    assertRange name bits value = .ok done ↔ 0 ≤ value ∧ value.toNat < 2 ^ bits := by
  simp only [assertRange, throwIf_eq_ok_iff]
  omega

end Bytes

/-- The fields of a note that are in range. -/
structure ReferenceNote.InRange (note : ReferenceNote) : Prop where
  amount : 0 ≤ note.amount ∧ note.amount.toNat < 2 ^ 64
  assetType : 0 ≤ note.assetType ∧ note.assetType.toNat < 2 ^ 32
  ownerPubKey : 0 ≤ note.ownerPubKey ∧ note.ownerPubKey.toNat < 2 ^ 256
  nonce : 0 ≤ note.nonce ∧ note.nonce.toNat < 2 ^ 128
  blinding : 0 ≤ note.blinding ∧ note.blinding.toNat < 2 ^ 248

/-- The bytes of the fields of a note. -/
def ReferenceNote.bytes (note : ReferenceNote) : List Nat :=
  bytesOf 8 noteDomain ++ bytesOf 8 note.amount.toNat ++ bytesOf 4 note.assetType.toNat ++
    bytesOf 32 note.ownerPubKey.toNat ++ bytesOf 16 note.nonce.toNat ++ bytesOf 31 note.blinding.toNat

/-- Exactly the notes in range are accepted. -/
theorem noteMessage_eq_ok_iff {note : ReferenceNote} {bytes : List Nat} :
    noteMessage note = .ok bytes ↔ note.InRange ∧ bytes = note.bytes := by
  simp only [noteMessage, bind_eq_ok_iff, pure_eq_ok_iff, assertRange_eq_ok_iff, leBytes_eq_ok_iff, exists_unit]
  constructor
  · rintro ⟨hamount, hassetType, hnonce, hblinding, _, ⟨-, -, rfl⟩, _, ⟨-, -, rfl⟩, _, ⟨-, -, rfl⟩, _,
      ⟨hsign, howner, rfl⟩, _, ⟨-, -, rfl⟩, _, ⟨-, -, rfl⟩, rfl⟩
    exact ⟨⟨hamount, hassetType, ⟨hsign, howner⟩, hnonce, hblinding⟩, rfl⟩
  · rintro ⟨⟨hamount, hassetType, howner, hnonce, hblinding⟩, rfl⟩
    exact ⟨hamount, hassetType, hnonce, hblinding, _, ⟨by decide, by decide, rfl⟩, _, ⟨hamount.1, hamount.2, rfl⟩, _,
      ⟨hassetType.1, hassetType.2, rfl⟩, _, ⟨howner.1, howner.2, rfl⟩, _, ⟨hnonce.1, hnonce.2, rfl⟩, _,
      ⟨hblinding.1, hblinding.2, rfl⟩, rfl⟩

theorem ReferenceNote.length_bytes {note : ReferenceNote} : note.bytes.length = 99 := by
  simp [ReferenceNote.bytes]

/-- Accepted notes with the same bytes are the same note. -/
theorem ReferenceNote.InRange.eq_of_bytes {first second : ReferenceNote} (hfirst : first.InRange)
    (hsecond : second.InRange) (h : first.bytes = second.bytes) : first = second := by
  simp only [ReferenceNote.bytes] at h
  obtain ⟨h, hblinding⟩ := List.append_inj' h (by simp)
  obtain ⟨h, hnonce⟩ := List.append_inj' h (by simp)
  obtain ⟨h, howner⟩ := List.append_inj' h (by simp)
  obtain ⟨h, hassetType⟩ := List.append_inj' h (by simp)
  obtain ⟨-, hamount⟩ := List.append_inj' h (by simp)
  have hsame {left right : Int} (hleft : 0 ≤ left) (hright : 0 ≤ right) (hvalues : left.toNat = right.toNat) :
      left = right := by
    omega
  ext
  · exact hsame hfirst.amount.1 hsecond.amount.1 (bytesOf_injective hfirst.amount.2 hsecond.amount.2 hamount)
  · exact hsame hfirst.assetType.1 hsecond.assetType.1
      (bytesOf_injective hfirst.assetType.2 hsecond.assetType.2 hassetType)
  · exact hsame hfirst.ownerPubKey.1 hsecond.ownerPubKey.1
      (bytesOf_injective hfirst.ownerPubKey.2 hsecond.ownerPubKey.2 howner)
  · exact hsame hfirst.nonce.1 hsecond.nonce.1 (bytesOf_injective hfirst.nonce.2 hsecond.nonce.2 hnonce)
  · exact hsame hfirst.blinding.1 hsecond.blinding.1
      (bytesOf_injective hfirst.blinding.2 hsecond.blinding.2 hblinding)

/-- The note of the circuit for an accepted note. A signal is an element of the
field, so the owner key is reduced to one. -/
def ReferenceNote.InRange.circuitNote {note : ReferenceNote} (h : note.InRange) : Note where
  amount := note.amount.toNat
  assetType := note.assetType.toNat
  ownerPubKey := (note.ownerPubKey : FieldElement)
  nonce := note.nonce.toNat
  blinding := note.blinding.toNat
  amount_lt := h.amount.2
  assetType_lt := h.assetType.2
  nonce_lt := h.nonce.2
  blinding_lt := h.blinding.2

/-- The bits of the bytes, field by field. -/
theorem ReferenceNote.bitsOfBytes_bytes {note : ReferenceNote} :
    bitsOfBytes note.bytes =
      bitsOf bn254ScalarField 64 noteDomain ++ bitsOf bn254ScalarField 64 note.amount.toNat ++
        bitsOf bn254ScalarField 32 note.assetType.toNat ++ bitsOf bn254ScalarField 256 note.ownerPubKey.toNat ++
        bitsOf bn254ScalarField 128 note.nonce.toNat ++ bitsOf bn254ScalarField 248 note.blinding.toNat := by
  simp only [ReferenceNote.bytes, bitsOfBytes_append, bitsOfBytes_bytesOf, Nat.reduceMul]

/-- The top two bits of a field element in 256 bits are the padding. -/
private theorem bitsOf_padded {value : Nat} (h : value < bn254ScalarField) :
    bitsOf bn254ScalarField 256 value = bitsOf bn254ScalarField 254 value ++ [0, 0] := by
  have hhigh : value / 2 ^ 254 = 0 := Nat.div_eq_of_lt (h.trans bn254ScalarField_lt)
  have hzeros : bitsOf bn254ScalarField 2 (value / 2 ^ 254) = [0, 0] := by
    rw [hhigh]
    rfl
  rw [← hzeros]
  exact @bitsOf_add bn254ScalarField 254 2 value

/-- The builder hashes the message of the circuit's note exactly when the owner
key is a field element. -/
theorem ReferenceNote.InRange.message_eq_iff {note : ReferenceNote} (h : note.InRange) :
    h.circuitNote.message = bitsOfBytes note.bytes ↔ note.ownerPubKey < (bn254ScalarField : Nat) := by
  have hreduced : ((note.ownerPubKey : FieldElement)).val = note.ownerPubKey.toNat % bn254ScalarField := by
    rw [← ZMod.val_natCast, ← Int.cast_natCast, Int.toNat_of_nonneg h.ownerPubKey.1]
  have hlt : ((note.ownerPubKey : FieldElement)).val < bn254ScalarField := ZMod.val_lt _
  have hmessage : h.circuitNote.message =
      bitsOf bn254ScalarField 64 noteDomain ++ bitsOf bn254ScalarField 64 note.amount.toNat ++
        bitsOf bn254ScalarField 32 note.assetType.toNat ++
        bitsOf bn254ScalarField 256 (note.ownerPubKey : FieldElement).val ++
        bitsOf bn254ScalarField 128 note.nonce.toNat ++ bitsOf bn254ScalarField 248 note.blinding.toNat := by
    rw [bitsOf_padded hlt]
    simp [Note.message, ReferenceNote.InRange.circuitNote]
  rw [hmessage, ReferenceNote.bitsOfBytes_bytes]
  constructor
  · intro hsame
    obtain ⟨hsame, -⟩ := List.append_inj' hsame rfl
    obtain ⟨hsame, -⟩ := List.append_inj' hsame rfl
    obtain ⟨-, howner⟩ := List.append_inj' hsame (by simp)
    have hwide : bn254ScalarField < 2 ^ 256 := by decide
    have hkeys := bitsOf_injective (hlt.trans hwide) h.ownerPubKey.2 howner
    omega
  · intro hcanonical
    have hsmall : note.ownerPubKey.toNat < bn254ScalarField := by omega
    rw [hreduced, Nat.mod_eq_of_lt hsmall]

section Agreement

variable (pedersen : List FieldElement → FieldElement × FieldElement)

/-- Bytes encode a note as `NoteCommitment` does: its constraints can be met for
the fields of the note, and only with the bits of the bytes. -/
structure EncodesNote (note : ReferenceNote) (bytes : List Nat) : Prop where
  length : bytes.length = 99
  satisfiable : ∃ signals : NoteCommitment,
    NoteWiring pedersen signals note.amount note.assetType note.ownerPubKey note.nonce note.blinding
  bits (signals : NoteCommitment) :
    NoteWiring pedersen signals note.amount note.assetType note.ownerPubKey note.nonce note.blinding →
      signals.pedersenIn = bitsOfBytes bytes

end Agreement

section Wiring

variable {pedersen : List FieldElement → FieldElement × FieldElement}
variable {note : ReferenceNote}

theorem natCast_toNat {value : Int} (h : 0 ≤ value) : ((value.toNat : Nat) : FieldElement) = value := by
  rw [← Int.cast_natCast, Int.toNat_of_nonneg h]

/-- The fields of an accepted note can be wired to a commitment. -/
theorem ReferenceNote.InRange.wiring (h : note.InRange) :
    NoteWiring pedersen (NoteCommitment.assign pedersen h.circuitNote) note.amount note.assetType note.ownerPubKey
      note.nonce note.blinding where
  component := NoteCommitment.assign_constraints h.circuitNote
  amount := natCast_toNat h.amount.1
  assetType := natCast_toNat h.assetType.1
  ownerPubKey := rfl
  nonce := natCast_toNat h.nonce.1
  blinding := natCast_toNat h.blinding.1

/-- A commitment wired to the fields of an accepted note hashes the message of
its note. -/
theorem ReferenceNote.InRange.pedersenIn_eq (h : note.InRange) {signals : NoteCommitment}
    (hwiring : NoteWiring pedersen signals note.amount note.assetType note.ownerPubKey note.nonce note.blinding) :
    signals.pedersenIn = h.circuitNote.message := by
  have hval {count : Nat} {value : Int} (hvalue : 0 ≤ value ∧ value.toNat < 2 ^ count) (hfits : count ≤ 253) :
      (value : FieldElement).val = value.toNat := by
    rw [← natCast_toNat hvalue.1]
    exact ZMod.val_natCast_of_lt (hvalue.2.trans_le (two_pow_le_bn254ScalarField hfits))
  rw [hwiring.component.pedersenIn_eq]
  congr 1
  ext
  · exact (congrArg ZMod.val hwiring.amount).trans (hval h.amount (by decide))
  · exact (congrArg ZMod.val hwiring.assetType).trans (hval h.assetType (by decide))
  · exact hwiring.ownerPubKey
  · exact (congrArg ZMod.val hwiring.nonce).trans (hval h.nonce (by decide))
  · exact (congrArg ZMod.val hwiring.blinding).trans (hval h.blinding (by decide))

end Wiring

/-- An accepted note is encoded as in the circuit, by bytes that no other
accepted note has, exactly when its owner key is below the field modulus. The
builder checks only that the key fits into 32 bytes. -/
theorem noteMessage_agrees_iff {pedersen : List FieldElement → FieldElement × FieldElement} {note : ReferenceNote}
    {bytes : List Nat} (h : noteMessage note = .ok bytes) :
    (EncodesNote pedersen note bytes ∧ ∀ other, noteMessage other = .ok bytes → other = note) ↔
      note.ownerPubKey < (bn254ScalarField : Nat) := by
  obtain ⟨hrange, rfl⟩ := noteMessage_eq_ok_iff.mp h
  constructor
  · rintro ⟨hencodes, -⟩
    have hbits := hencodes.bits _ hrange.wiring
    rw [hrange.pedersenIn_eq hrange.wiring] at hbits
    exact hrange.message_eq_iff.mp hbits
  · intro hcanonical
    refine ⟨⟨ReferenceNote.length_bytes, ⟨_, hrange.wiring⟩, fun signals hwiring => ?_⟩, fun other hother => ?_⟩
    · rw [hrange.pedersenIn_eq hwiring]
      exact hrange.message_eq_iff.mpr hcanonical
    · obtain ⟨hotherRange, hbytes⟩ := noteMessage_eq_ok_iff.mp hother
      exact hotherRange.eq_of_bytes hrange hbytes.symm

/-- A note for an owner key. -/
private def keyedNote (ownerPubKey : Int) : ReferenceNote := ⟨5, 7, ownerPubKey, 11, 13⟩

theorem noteMessage_agrees_sample :
    EncodesNote (fun _ => (0, 0)) (keyedNote 3) (keyedNote 3).bytes ∧
      ∀ other, noteMessage other = .ok (keyedNote 3).bytes → other = keyedNote 3 :=
  (noteMessage_agrees_iff (by decide +kernel)).mpr (by decide)

/-- The modulus is accepted as an owner key; its bytes are not the bits that the
circuit hashes for the same note. -/
theorem noteMessage_noncanonical_owner :
    noteMessage (keyedNote bn254ScalarField) = .ok (keyedNote bn254ScalarField).bytes ∧
      ∃ signals : NoteCommitment,
        NoteWiring (fun _ => (0, 0)) signals (keyedNote bn254ScalarField).amount (keyedNote bn254ScalarField).assetType
          (keyedNote bn254ScalarField).ownerPubKey (keyedNote bn254ScalarField).nonce
          (keyedNote bn254ScalarField).blinding ∧
        signals.pedersenIn ≠ bitsOfBytes (keyedNote bn254ScalarField).bytes := by
  have haccepted : noteMessage (keyedNote bn254ScalarField) = .ok (keyedNote bn254ScalarField).bytes := by
    decide +kernel
  obtain ⟨hrange, -⟩ := noteMessage_eq_ok_iff.mp haccepted
  refine ⟨haccepted, _, hrange.wiring, fun hbits => ?_⟩
  rw [hrange.pedersenIn_eq hrange.wiring, hrange.message_eq_iff] at hbits
  exact absurd hbits (lt_irrefl _)

end rwa.circuit
