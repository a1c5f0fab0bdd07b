import Mathlib.Data.List.Basic

namespace ascii

/-- The characters of a text, read off its bytes where each byte is a character. -/
def chars (text : String) : List Char :=
  let bytes := text.toByteArray.data.toList
  if bytes.all (·.toNat < 128) then bytes.map fun byte => Char.ofNat byte.toNat else text.toList

private theorem ofNat_of_small {number : Nat} (h : number ≤ 127) : (UInt8.ofNat number).toNat = number := by
  rw [UInt8.toNat_ofNat']
  omega

/-- The bytes of a character are small only where it is one of them. -/
private theorem decode_char {char : Char} (h : (String.utf8EncodeChar char).all (·.toNat < 128) = true) :
    (String.utf8EncodeChar char).map (fun byte => Char.ofNat byte.toNat) = [char] := by
  unfold String.utf8EncodeChar at h ⊢
  dsimp only at h ⊢
  split at h
  · next hsmall =>
    rw [if_pos hsmall, List.map_singleton, ofNat_of_small hsmall]
    exact congrArg (fun read => [read]) (Char.ofNat_toNat char)
  · exfalso
    split at h
    · simp only [List.all_cons, Bool.and_eq_true, decide_eq_true_eq, UInt8.toNat_ofNat'] at h
      omega
    · split at h
      all_goals
        simp only [List.all_cons, Bool.and_eq_true, decide_eq_true_eq, UInt8.toNat_ofNat'] at h
        omega

private theorem decode_chars {letters : List Char}
    (h : (letters.flatMap String.utf8EncodeChar).all (·.toNat < 128) = true) :
    (letters.flatMap String.utf8EncodeChar).map (fun byte => Char.ofNat byte.toNat) = letters := by
  induction letters with
  | nil => rfl
  | cons char letters ih =>
    rw [List.flatMap_cons, List.all_append, Bool.and_eq_true] at h
    rw [List.flatMap_cons, List.map_append, decode_char h.1, ih h.2]
    rfl

/-- A text has the characters that are read off its bytes, which evaluate much faster. -/
theorem chars_eq (text : String) : chars text = text.toList := by
  obtain ⟨letters, rfl⟩ : ∃ letters, text = String.ofList letters := ⟨text.toList, by simp⟩
  have hbytes : (String.ofList letters).toByteArray.data.toList = letters.flatMap String.utf8EncodeChar := by
    rw [String.toByteArray_ofList, List.utf8Encode]
    simp
  unfold chars
  simp only [hbytes]
  split
  · next hsmall => rw [decode_chars hsmall, String.toList_ofList]
  · rfl

end ascii
