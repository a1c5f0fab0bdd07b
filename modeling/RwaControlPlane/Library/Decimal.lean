import Mathlib.Data.List.Basic
import Mathlib.Data.List.Induction
import Mathlib.Tactic.IntervalCases

namespace decimal

/-- Digit strings without a superfluous leading zero. -/
def canonicalDigits (digits : List Char) : Bool :=
  digits == ['0'] || (digits.all Char.isDigit && digits.head?.any (· != '0'))

/-- Decimal text of a natural number, without sign or leading zero. -/
def isCanonical (text : String) : Bool :=
  canonicalDigits text.toList

/-- The number a decimal text denotes. -/
def value (text : String) : Nat :=
  Nat.ofDigitChars 10 text.toList 0

private theorem digitChar_toNat_sub {digit : Char} (hdigit : digit.isDigit) :
    Nat.digitChar (digit.toNat - '0'.toNat) = digit := by
  rw [Char.isDigit_iff_toNat] at hdigit
  have hlo : 48 ≤ digit.toNat := hdigit.1
  have hhi : digit.toNat ≤ 57 := hdigit.2
  have hchar : digit = Char.ofNat digit.toNat := (Char.ofNat_toNat digit).symm
  show Nat.digitChar (digit.toNat - 48) = digit
  generalize hcode : digit.toNat = code at hlo hhi hchar
  rw [hchar]
  interval_cases code <;> rfl

private theorem digitChar_ne_zero {number : Nat} (hpos : 0 < number) (hlt : number < 10) :
    Nat.digitChar number ≠ '0' := by
  interval_cases number <;> decide

/-- A positive number starts with a digit other than zero. -/
private theorem head_toDigits {number : Nat} (hpos : 0 < number) :
    (Nat.toDigits 10 number).head?.any (· != '0') = true := by
  induction number using Nat.strongRecOn with
  | ind number ih =>
    by_cases hsmall : number < 10
    · rw [Nat.toDigits_of_lt_base hsmall]
      simpa using digitChar_ne_zero hpos hsmall
    · have hquotient := ih (number / 10) (by omega) (by omega)
      rw [Nat.toDigits_of_base_le (by decide) (by omega)]
      cases hdigits : Nat.toDigits 10 (number / 10) with
      | nil => simp at hdigits
      | cons digit digits => simpa [hdigits] using hquotient

theorem isCanonical_repr (number : Nat) : isCanonical number.repr = true := by
  rcases Nat.eq_zero_or_pos number with hzero | hpos
  · subst hzero
    decide
  · have hdigits : (Nat.toDigits 10 number).all Char.isDigit = true := by
      rw [List.all_eq_true]
      exact fun digit hmem => Nat.isDigit_of_mem_toDigits (by decide) (by decide) hmem
    simp [isCanonical, canonicalDigits, hdigits, head_toDigits hpos]

@[simp] theorem value_repr (number : Nat) : value number.repr = number := by
  simp [value]

/-- A digit string with a nonzero head is the one printed for its value. The
induction runs over the last digit, as printing does. -/
private theorem toDigits_ofDigitChars {digits : List Char} (hdigits : digits.all Char.isDigit = true)
    (hhead : digits.head?.any (· != '0') = true) :
    0 < Nat.ofDigitChars 10 digits 0 ∧ Nat.toDigits 10 (Nat.ofDigitChars 10 digits 0) = digits := by
  induction digits using List.reverseRecOn with
  | nil => simp at hhead
  | append_singleton digits digit ih =>
    simp only [List.all_append, List.all_cons, List.all_nil, Bool.and_true, Bool.and_eq_true] at hdigits
    obtain ⟨hinit, hlast⟩ := hdigits
    have hlo := (Char.isDigit_iff_toNat.mp hlast).1
    have hhi := (Char.isDigit_iff_toNat.mp hlast).2
    have hcode : digit.toNat - '0'.toNat < 10 := by
      simp at hlo hhi ⊢
      omega
    have hvalue : Nat.ofDigitChars 10 (digits ++ [digit]) 0 =
        10 * Nat.ofDigitChars 10 digits 0 + (digit.toNat - '0'.toNat) := by
      rw [Nat.ofDigitChars_append, Nat.ofDigitChars_cons, Nat.ofDigitChars_nil]
    rw [hvalue]
    cases digits with
    | nil =>
      have hne : digit ≠ '0' := by simpa using hhead
      have hpos : 0 < digit.toNat - '0'.toNat := by
        rcases Nat.eq_zero_or_pos (digit.toNat - '0'.toNat) with hzero | hpos
        · have hchar := digitChar_toNat_sub hlast
          rw [hzero] at hchar
          exact absurd hchar.symm hne
        · exact hpos
      refine ⟨by simpa using hpos, ?_⟩
      simp only [Nat.ofDigitChars_nil, Nat.mul_zero, Nat.zero_add, List.nil_append]
      rw [Nat.toDigits_of_lt_base hcode, digitChar_toNat_sub hlast]
    | cons first rest =>
      obtain ⟨hpos, hprint⟩ := ih hinit (by simpa using hhead)
      refine ⟨by omega, ?_⟩
      rw [← Nat.toDigits_append_toDigits (by decide) hpos hcode, hprint, Nat.toDigits_of_lt_base hcode,
        digitChar_toNat_sub hlast]

/-- Canonical decimal text is exactly what is printed for its value. -/
theorem repr_value {text : String} (h : isCanonical text = true) : (value text).repr = text := by
  rw [← String.toList_inj, Nat.toList_repr, value]
  simp only [isCanonical, canonicalDigits, Bool.or_eq_true, beq_iff_eq, Bool.and_eq_true] at h
  rcases h with hzero | ⟨hdigits, hhead⟩
  · rw [hzero]
    rfl
  · exact (toDigits_ofDigitChars hdigits hhead).2

theorem repr_injective {left right : Nat} (h : left.repr = right.repr) : left = right := by
  rw [← value_repr left, h, value_repr]

/-- The only canonical text of zero is one digit. -/
theorem value_pos_iff {text : String} (h : isCanonical text = true) : 0 < value text ↔ text ≠ "0" := by
  constructor
  · rintro hpos rfl
    exact absurd hpos (by decide)
  · intro hne
    by_contra hzero
    have hvalue : value text = 0 := by omega
    have hrepr := repr_value h
    rw [hvalue] at hrepr
    exact hne hrepr.symm

end decimal
