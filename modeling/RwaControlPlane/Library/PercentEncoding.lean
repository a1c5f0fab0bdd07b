import Mathlib
import RwaControlPlane.Library.Instances
import RwaControlPlane.Library.JsText

namespace percent

/-- The characters that `encodeURIComponent` leaves as they are. -/
def isUnreserved (char : Char) : Bool :=
  ('a' ≤ char && char ≤ 'z') || ('A' ≤ char && char ≤ 'Z') || ('0' ≤ char && char ≤ '9') ||
    ['-', '_', '.', '!', '~', '*', Char.ofNat 39, '(', ')'].contains char

def hexDigit (digit : Nat) : Char :=
  if digit < 10 then Char.ofNat (48 + digit) else Char.ofNat (55 + digit)

def encodeByte (byte : UInt8) : List Char :=
  ['%', hexDigit (byte.toNat / 16), hexDigit (byte.toNat % 16)]

def encodeChar (char : Char) : List Char :=
  if isUnreserved char then [char] else (String.utf8EncodeChar char).flatMap encodeByte

/-- `encodeURIComponent` -/
def encode (text : String) : String :=
  String.ofList (text.toList.flatMap encodeChar)

/-- The bytes of a text in UTF-8, its escapes replaced by the bytes they stand for. -/
def bytes : List Char → Option (List UInt8)
  | [] => some []
  | char :: rest =>
    if char = '%' then
      match rest with
      | high :: low :: rest => do
        let high ← js_text.digitValue high
        let low ← js_text.digitValue low
        let rest ← bytes rest
        pure (UInt8.ofNat (16 * high + low) :: rest)
      | _ => none
    else (bytes rest).map (String.utf8EncodeChar char ++ ·)

/-- `decodeURIComponent`: it fails where an escape is cut off or the bytes are no
UTF-8. The bytes of a character that is not escaped are complete, so it makes no
difference that they are decoded with those of the escapes. -/
def decode (text : String) : Option String :=
  (bytes text.toList).bind fun octets =>
    octets.toByteArray.utf8Decode?.map fun chars => String.ofList chars.toList

/-- Unreserved characters are printed in ASCII, and none of them is a space. -/
theorem toNat_of_unreserved {char : Char} (h : isUnreserved char = true) : 33 ≤ char.toNat ∧ char.toNat ≤ 126 := by
  simp only [isUnreserved, Bool.or_eq_true, Bool.and_eq_true, decide_eq_true_eq, Char.le_def, UInt32.le_iff_toNat_le,
    List.contains_eq_mem, List.mem_cons, List.not_mem_nil, or_false] at h
  obtain ((⟨hlow, hhigh⟩ | ⟨hlow, hhigh⟩) | ⟨hlow, hhigh⟩) | hmark := h
  · exact ⟨le_trans (by decide) hlow, le_trans hhigh (by decide)⟩
  · exact ⟨le_trans (by decide) hlow, le_trans hhigh (by decide)⟩
  · exact ⟨le_trans (by decide) hlow, le_trans hhigh (by decide)⟩
  · obtain rfl | rfl | rfl | rfl | rfl | rfl | rfl | rfl | rfl := hmark <;> decide

theorem digitValue_hexDigit {digit : Nat} (h : digit < 16) : js_text.digitValue (hexDigit digit) = some digit := by
  interval_cases digit <;> decide

theorem isUnreserved_hexDigit {digit : Nat} (h : digit < 16) : isUnreserved (hexDigit digit) = true := by
  interval_cases digit <;> decide

theorem bytes_encodeByte {byte : UInt8} {rest : List Char} :
    bytes (encodeByte byte ++ rest) = (bytes rest).map (byte :: ·) := by
  have hbyte := byte.toNat_lt
  have hhigh : byte.toNat / 16 < 16 := by omega
  have hlow : byte.toNat % 16 < 16 := by omega
  have hvalue : UInt8.ofNat (16 * (byte.toNat / 16) + byte.toNat % 16) = byte := by
    rw [Nat.div_add_mod, UInt8.ofNat_toNat]
  simp only [encodeByte, List.cons_append, List.nil_append]
  conv_lhs => unfold bytes
  rw [if_pos rfl]
  simp only [digitValue_hexDigit hhigh, digitValue_hexDigit hlow, Option.bind_eq_bind, Option.bind_some, hvalue]
  cases bytes rest with
  | none => rfl
  | some octets => rfl

private theorem bytes_encodeBytes {octets : List UInt8} {rest : List Char} :
    bytes (octets.flatMap encodeByte ++ rest) = (bytes rest).map (octets ++ ·) := by
  induction octets with
  | nil => simp
  | cons byte octets ih =>
    rw [List.flatMap_cons, List.append_assoc, bytes_encodeByte, ih, Option.map_map]
    rfl

private theorem unreserved_ne_escape {char : Char} (h : isUnreserved char = true) : char ≠ '%' := by
  rintro rfl
  revert h
  decide

theorem bytes_encodeChar {char : Char} {rest : List Char} :
    bytes (encodeChar char ++ rest) = (bytes rest).map (String.utf8EncodeChar char ++ ·) := by
  unfold encodeChar
  split
  · next hunreserved =>
    rw [List.singleton_append]
    conv_lhs => unfold bytes
    rw [if_neg (unreserved_ne_escape hunreserved)]
  · exact bytes_encodeBytes

private theorem bytes_encodeChars {chars : List Char} :
    bytes (chars.flatMap encodeChar) = some (chars.flatMap String.utf8EncodeChar) := by
  induction chars with
  | nil => rfl
  | cons char chars ih => rw [List.flatMap_cons, bytes_encodeChar, ih, Option.map_some, List.flatMap_cons]

/-- Decoding undoes encoding, for every text. -/
theorem decode_encode (text : String) : decode (encode text) = some text := by
  rw [decode, encode, String.toList_ofList, bytes_encodeChars, Option.bind_some, ← List.utf8Encode,
    List.utf8Decode?_utf8Encode, Option.map_some, String.ofList_toList]

/-- An encoded text consists of unreserved characters and escapes. -/
theorem mem_encode {text : String} {char : Char} (h : char ∈ (encode text).toList) :
    isUnreserved char = true ∨ char = '%' := by
  rw [encode, String.toList_ofList, List.mem_flatMap] at h
  obtain ⟨source, -, hchar⟩ := h
  unfold encodeChar at hchar
  split at hchar
  · next hunreserved => exact Or.inl (List.mem_singleton.mp hchar ▸ hunreserved)
  · obtain ⟨byte, -, hbyte⟩ := List.mem_flatMap.mp hchar
    have hsmall := byte.toNat_lt
    simp only [encodeByte, List.mem_cons, List.not_mem_nil, or_false] at hbyte
    obtain rfl | rfl | rfl := hbyte
    · exact Or.inr rfl
    · exact Or.inl (isUnreserved_hexDigit (by omega))
    · exact Or.inl (isUnreserved_hexDigit (by omega))

end percent
