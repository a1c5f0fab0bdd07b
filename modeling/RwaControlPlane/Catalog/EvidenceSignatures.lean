import RwaControlPlane.Catalog.Activation
import RwaControlPlane.Library.Base64

open checked

namespace rwa.catalog

private theorem base64Value_spec {char : Char} {value : Nat} (h : base64Value char = some value) :
    value < 64 ∧ base64.digitChar value = char := by
  have hchar := Char.ofNat_toNat char
  unfold base64Value at h
  unfold base64.digitChar
  split at h
  · next hupper =>
    simp only [Char.isUpper, decide_eq_true_eq] at hupper
    have hlow : 65 ≤ char.toNat := hupper.1
    have hhigh : char.toNat ≤ 90 := hupper.2
    obtain rfl := Option.some.inj h
    rw [if_pos (by omega), Nat.sub_add_cancel hlow]
    exact ⟨by omega, hchar⟩
  · split at h
    · next hlower =>
      simp only [Char.isLower, Bool.and_eq_true, decide_eq_true_eq] at hlower
      have hlow : 97 ≤ char.toNat := hlower.1
      have hhigh : char.toNat ≤ 122 := hlower.2
      obtain rfl := Option.some.inj h
      rw [if_neg (by omega), if_pos (by omega), Nat.sub_add_cancel (by omega)]
      exact ⟨by omega, hchar⟩
    · split at h
      · next hdigit =>
        simp only [Char.isDigit, Bool.and_eq_true, decide_eq_true_eq] at hdigit
        have hlow : 48 ≤ char.toNat := hdigit.1
        have hhigh : char.toNat ≤ 57 := hdigit.2
        obtain rfl := Option.some.inj h
        rw [if_neg (by omega), if_neg (by omega), if_pos (by omega), Nat.add_sub_cancel]
        exact ⟨by omega, hchar⟩
      · split at h
        · next hplus =>
          obtain rfl := Option.some.inj h
          exact ⟨by omega, hplus.symm⟩
        · split at h
          · next hslash =>
            obtain rfl := Option.some.inj h
            exact ⟨by omega, hslash.symm⟩
          · cases h

private theorem base64Value_digitChar {value : Nat} (h : value < 64) :
    base64Value (base64.digitChar value) = some value := by
  interval_cases value <;> decide

private theorem digitChar_facts {value : Nat} (h : value < 64) :
    base64.digitChar value ≠ '=' ∧ (base64.digitChar value).toNat ≤ 0xffff := by
  interval_cases value <;> decide

private theorem length_of_small {chars : List Char} (h : ∀ char ∈ chars, char.toNat ≤ 0xffff) :
    js_text.length (String.ofList chars) = chars.length := by
  rw [js_text.length, String.toList_ofList]
  induction chars with
  | nil => rfl
  | cons char chars ih =>
    obtain ⟨hchar, hchars⟩ := List.forall_mem_cons.mp h
    rw [List.map_cons, List.sum_cons, if_neg (Nat.not_lt.mpr hchar), ih hchars, List.length_cons, Nat.add_comm]

/-- The values of digits. -/
private theorem values_of_digits {digits : List Char}
    (h : digits.all (fun char => (base64Value char).isSome) = true) :
    ∃ values : List Nat, (∀ value ∈ values, value < 64) ∧ digits = values.map base64.digitChar := by
  induction digits with
  | nil => exact ⟨[], List.forall_mem_nil _, rfl⟩
  | cons char digits ih =>
    rw [List.all_cons, Bool.and_eq_true] at h
    obtain ⟨value, hvalue⟩ := Option.isSome_iff_exists.mp h.1
    obtain ⟨hsmall, hchar⟩ := base64Value_spec hvalue
    obtain ⟨values, hvalues, hdigits⟩ := ih h.2
    exact ⟨value :: values, List.forall_mem_cons.mpr ⟨hsmall, hvalues⟩, by rw [List.map_cons, hchar, ← hdigits]⟩

private theorem span_padded {values : List Nat} {count : Nat} (h : ∀ value ∈ values, value < 64) :
    (values.map base64.digitChar ++ List.replicate count '=').takeWhile (· ≠ '=') = values.map base64.digitChar ∧
      (values.map base64.digitChar ++ List.replicate count '=').dropWhile (· ≠ '=') = List.replicate count '=' := by
  have hdigits : ∀ char ∈ values.map base64.digitChar, decide (char ≠ '=') = true := by
    intro char hchar
    obtain ⟨value, hvalue, rfl⟩ := List.mem_map.mp hchar
    exact decide_eq_true (digitChar_facts (h value hvalue)).1
  rw [List.takeWhile_append_of_pos hdigits, List.dropWhile_append_of_pos hdigits]
  cases count with
  | zero => simp
  | succ count => simp [List.replicate_succ]

private theorem padding_of_padded {values : List Nat} {count : Nat} (h : ∀ value ∈ values, value < 64) :
    paddingIsCanonical (values.map base64.digitChar) count = true ↔
      ∃ last ∈ values.getLast?, (count = 2 ∧ last % 16 = 0) ∨ (count = 1 ∧ last % 4 = 0) ∨ count = 0 := by
  unfold paddingIsCanonical
  rw [List.getLast?_map]
  cases hlast : values.getLast? with
  | none => simp
  | some last =>
    rw [Option.map_some, Option.bind_some, base64Value_digitChar (h last (List.mem_of_getLast? hlast))]
    by_cases htwo : count = 2
    · simp [htwo]
    · by_cases hone : count = 1
      · simp [hone]
      · simp [htwo, hone]

private theorem strictBase64_padded {values : List Nat} {count : Nat} (h : ∀ value ∈ values, value < 64) :
    strictBase64 (String.ofList (values.map base64.digitChar ++ List.replicate count '=')) = .ok () ↔
      4 ≤ values.length + count ∧ values.length + count ≤ 16384 ∧ (values.length + count) % 4 = 0 ∧
        ∃ last ∈ values.getLast?, (count = 2 ∧ last % 16 = 0) ∨ (count = 1 ∧ last % 4 = 0) ∨ count = 0 := by
  have hsmall : ∀ char ∈ values.map base64.digitChar ++ List.replicate count '=', char.toNat ≤ 0xffff := by
    intro char hchar
    obtain hdigit | hpadding := List.mem_append.mp hchar
    · obtain ⟨value, hvalue, rfl⟩ := List.mem_map.mp hdigit
      exact (digitChar_facts (h value hvalue)).2
    · rw [List.eq_of_mem_replicate hpadding]
      decide
  have hdigits : (values.map base64.digitChar).all (fun char => (base64Value char).isSome) = true := by
    rw [List.all_eq_true]
    intro char hchar
    obtain ⟨value, hvalue, rfl⟩ := List.mem_map.mp hchar
    rw [base64Value_digitChar (h value hvalue)]
    rfl
  have hpadding : (List.replicate count '=').all (· = '=') = true := by
    rw [List.all_eq_true]
    exact fun char hchar => decide_eq_true (List.eq_of_mem_replicate hchar)
  have hlength : js_text.length (String.ofList (values.map base64.digitChar ++ List.replicate count '=')) =
      values.length + count := by
    rw [length_of_small hsmall, List.length_append, List.length_map, List.length_replicate]
  obtain ⟨htake, hdrop⟩ := @span_padded values count h
  rw [← padding_of_padded h]
  simp only [strictBase64, throwIf_eq_ok_iff, hlength, String.toList_ofList, htake, hdrop, hdigits, hpadding,
    List.length_replicate, not_or, not_not, Bool.not_eq_false, Nat.not_lt, true_and]

private theorem values_of_digitChars {values : List Nat} (h : ∀ value ∈ values, value < 64) :
    (values.map base64.digitChar).map base64Value = values.map some := by
  rw [List.map_map]
  exact List.map_congr_left fun value hvalue => base64Value_digitChar (h value hvalue)

/-- The digits of an encoding, without its padding, determine the bytes. -/
private theorem encode_inj {first second : List Nat} (hfirst : ∀ byte ∈ first, byte < 256)
    (hsecond : ∀ byte ∈ second, byte < 256) (h : base64.encode first = base64.encode second) : first = second := by
  have hdigits : (base64.digitsOf first).map base64.digitChar = (base64.digitsOf second).map base64.digitChar := by
    rw [← (@span_padded _ (base64.paddingOf first.length) (base64.digitsOf_lt hfirst)).1,
      ← (@span_padded _ (base64.paddingOf second.length) (base64.digitsOf_lt hsecond)).1]
    exact congrArg (List.takeWhile (· ≠ '=')) h
  have hvalues := congrArg (List.map base64Value) hdigits
  rw [values_of_digitChars (base64.digitsOf_lt hfirst), values_of_digitChars (base64.digitsOf_lt hsecond)] at hvalues
  have hsame := List.map_injective_iff.mpr (Option.some_injective Nat) hvalues
  rw [← base64.bytesOf_digitsOf hfirst, hsame, base64.bytesOf_digitsOf hsecond]

/-- A text that is accepted is its digits and its padding. -/
private theorem padded_of_strictBase64 {text : String} (h : strictBase64 text = .ok ()) :
    ∃ (values : List Nat) (count : Nat), (∀ value ∈ values, value < 64) ∧
      text = String.ofList (values.map base64.digitChar ++ List.replicate count '=') := by
  simp only [strictBase64, throwIf_eq_ok_iff, not_or, not_not] at h
  obtain ⟨-, -, -, hdigits, hpadding, -⟩ := h
  obtain ⟨values, hvalues, hsame⟩ := values_of_digits hdigits
  have hreplicate : text.toList.dropWhile (· ≠ '=') =
      List.replicate (text.toList.dropWhile (· ≠ '=')).length '=' := by
    refine List.eq_replicate_of_mem fun char hchar => ?_
    exact of_decide_eq_true (List.all_eq_true.mp hpadding char hchar)
  refine ⟨values, (text.toList.dropWhile (· ≠ '=')).length, hvalues, ?_⟩
  rw [← hsame, ← hreplicate, List.takeWhile_append_dropWhile, String.ofList_toList]

/-- A signature is accepted exactly if it is what base64 writes for bytes of the
admitted number. The bytes are determined by the text, and so is the text by them. -/
theorem strictBase64_canonical :
    (∀ text, strictBase64 text = .ok () ↔ ∃ bytes : List Nat, (∀ byte ∈ bytes, byte < 256) ∧ 1 ≤ bytes.length ∧
      bytes.length ≤ 12288 ∧ text = String.ofList (base64.encode bytes)) ∧
    ∀ first second : List Nat, (∀ byte ∈ first, byte < 256) → (∀ byte ∈ second, byte < 256) →
      base64.encode first = base64.encode second → first = second := by
  refine ⟨fun text => ⟨fun h => ?_, ?_⟩, fun first second => encode_inj⟩
  · obtain ⟨values, count, hvalues, rfl⟩ := padded_of_strictBase64 h
    obtain ⟨hlow, hhigh, hwhole, last, hlast, hpadding⟩ := (strictBase64_padded hvalues).mp h
    have hcanonical : base64.Canonical values := by
      obtain ⟨rfl, hzero⟩ | ⟨rfl, hzero⟩ | rfl := hpadding
      · exact Or.inr (Or.inr ⟨by omega, last, hlast, hzero⟩)
      · exact Or.inr (Or.inl ⟨by omega, last, hlast, hzero⟩)
      · exact Or.inl hwhole
    have hsame := base64.digitsOf_bytesOf hvalues hcanonical
    have hlength := @base64.length_digitsOf (base64.bytesOf values)
    rw [hsame] at hlength
    have hsmall : base64.paddingOf (base64.bytesOf values).length ≤ 2 := by
      unfold base64.paddingOf
      omega
    have hcount : base64.paddingOf (base64.bytesOf values).length = count := by omega
    refine ⟨base64.bytesOf values, base64.bytesOf_lt hvalues, by omega, by omega, ?_⟩
    rw [base64.encode, hsame, hcount]
  · rintro ⟨bytes, hbytes, hlow, hhigh, rfl⟩
    have hlength := @base64.length_digitsOf bytes
    have hsmall : base64.paddingOf bytes.length ≤ 2 := by
      unfold base64.paddingOf
      omega
    refine (strictBase64_padded (base64.digitsOf_lt hbytes)).mpr ⟨by omega, by omega, by omega, ?_⟩
    have hne : base64.digitsOf bytes ≠ [] := by
      intro hempty
      rw [hempty, List.length_nil] at hlength
      omega
    obtain hwhole | ⟨hthree, last, hlast, hzero⟩ | ⟨htwo, last, hlast, hzero⟩ := (@base64.canonical_digitsOf bytes).1
    · exact ⟨(base64.digitsOf bytes).getLast hne, List.getLast?_eq_getLast_of_ne_nil hne,
        Or.inr (Or.inr (by omega))⟩
    · exact ⟨last, hlast, Or.inr (Or.inl ⟨by omega, hzero⟩)⟩
    · exact ⟨last, hlast, Or.inl ⟨by omega, hzero⟩⟩

end rwa.catalog
