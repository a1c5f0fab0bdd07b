import RwaControlPlane.Library.Instances
import Mathlib.Data.ZMod.Basic
import Mathlib.Algebra.Field.ZMod

namespace bit_decomposition

variable {p : Nat}

/-- The booleanity constraint of one signal. -/
def IsBit (bit : ZMod p) : Prop :=
  bit * (bit - 1) = 0

/-- Weighted sum of bit signals in the field, least significant bit first. -/
def fieldValue : List (ZMod p) → ZMod p
  | [] => 0
  | bit :: bits => bit + 2 * fieldValue bits

/-- The same sum over the integers. -/
def natValue : List (ZMod p) → Nat
  | [] => 0
  | bit :: bits => bit.val + 2 * natValue bits

/-- The lowest `count` bits of a number as field elements. -/
def bitsOf (p : Nat) : Nat → Nat → List (ZMod p)
  | 0, _ => []
  | count + 1, value => ((value % 2 : Nat) : ZMod p) :: bitsOf p count (value / 2)

@[simp] theorem bitsOf_length (count value : Nat) : (bitsOf p count value).length = count := by
  induction count generalizing value with
  | zero => rfl
  | succ count ih => simp [bitsOf, ih]

theorem isBit_of_mem_bitsOf {count value : Nat} {bit : ZMod p} (h : bit ∈ bitsOf p count value) : IsBit bit := by
  induction count generalizing value with
  | zero => simp [bitsOf] at h
  | succ count ih =>
    simp only [bitsOf, List.mem_cons] at h
    rcases h with rfl | hrest
    · rcases Nat.mod_two_eq_zero_or_one value with hzero | hone
      · simp [IsBit, hzero]
      · simp [IsBit, hone]
    · exact ih hrest

/-- Bits of a number that fits sum up to it again. -/
theorem fieldValue_bitsOf {count value : Nat} (h : value < 2 ^ count) :
    fieldValue (bitsOf p count value) = (value : ZMod p) := by
  induction count generalizing value with
  | zero =>
    obtain rfl : value = 0 := by simpa using h
    simp [bitsOf, fieldValue]
  | succ count ih =>
    have hsplit : value = value % 2 + 2 * (value / 2) := by omega
    rw [bitsOf, fieldValue, ih (by rw [pow_succ] at h; omega)]
    conv_rhs => rw [hsplit]
    push_cast
    rfl

/-- The bits of a number, cut into those of its low and of its high part. -/
theorem bitsOf_add {low high value : Nat} :
    bitsOf p (low + high) value = bitsOf p low value ++ bitsOf p high (value / 2 ^ low) := by
  induction low generalizing value with
  | zero => simp [bitsOf]
  | succ low ih =>
    rw [Nat.add_right_comm, bitsOf, ih, bitsOf, List.cons_append, Nat.div_div_eq_div_mul, pow_succ']

/-- The low bits of a number are those of its low part. -/
theorem bitsOf_mod {count value : Nat} : bitsOf p count (value % 2 ^ count) = bitsOf p count value := by
  induction count generalizing value with
  | zero => rfl
  | succ count ih =>
    have hlow : value % 2 ^ (count + 1) % 2 = value % 2 := by
      rw [pow_succ', Nat.mod_mul_right_mod]
    have hhigh : value % 2 ^ (count + 1) / 2 = value / 2 % 2 ^ count := by
      rw [pow_succ', Nat.mod_mul_right_div_self]
    rw [bitsOf, hlow, hhigh, ih, bitsOf]

variable [hprime : Fact p.Prime]

/-- A boolean signal is the numeral zero or the numeral one. -/
theorem IsBit.eq_zero_or_one {bit : ZMod p} (h : IsBit bit) : bit = 0 ∨ bit = 1 := by
  rcases mul_eq_zero.mp h with hzero | hone
  · exact Or.inl hzero
  · exact Or.inr (sub_eq_zero.mp hone)

private theorem val_lt_two {bit : ZMod p} (h : IsBit bit) : bit.val < 2 := by
  rcases h.eq_zero_or_one with rfl | rfl
  · simp
  · rw [ZMod.val_one]
    decide

theorem natValue_lt {bits : List (ZMod p)} (h : ∀ bit ∈ bits, IsBit bit) : natValue bits < 2 ^ bits.length := by
  induction bits with
  | nil => simp [natValue]
  | cons bit bits ih =>
    have hbit := val_lt_two (h bit List.mem_cons_self)
    have hbits := ih fun other hother => h other (List.mem_cons_of_mem _ hother)
    simp only [natValue, List.length_cons, pow_succ]
    omega

theorem cast_natValue (bits : List (ZMod p)) : ((natValue bits : Nat) : ZMod p) = fieldValue bits := by
  induction bits with
  | nil => simp [natValue, fieldValue]
  | cons bit bits ih =>
    rw [natValue, fieldValue, ← ih]
    push_cast
    rw [ZMod.natCast_zmod_val]

/-- Boolean signals are the bits of their integer sum. -/
theorem eq_bitsOf_natValue {bits : List (ZMod p)} (h : ∀ bit ∈ bits, IsBit bit) :
    bits = bitsOf p bits.length (natValue bits) := by
  induction bits with
  | nil => rfl
  | cons bit bits ih =>
    have hbit := val_lt_two (h bit List.mem_cons_self)
    have hbits := ih fun other hother => h other (List.mem_cons_of_mem _ hother)
    have hlow : (bit.val + 2 * natValue bits) % 2 = bit.val := by omega
    have hhigh : (bit.val + 2 * natValue bits) / 2 = natValue bits := by omega
    rw [List.length_cons, natValue, bitsOf, hlow, hhigh, ← hbits, ZMod.natCast_zmod_val]

/-- A decomposition whose integer sum stays below the field order has no alias:
the sum is the canonical representative of the decomposed element. -/
theorem val_eq_natValue {bits : List (ZMod p)} {element : ZMod p} (hvalue : fieldValue bits = element)
    (hbound : natValue bits < p) : element.val = natValue bits := by
  rw [← hvalue, ← cast_natValue, ZMod.val_natCast_of_lt hbound]

/-- A decomposition into fewer bits than the field order has determines the
bits and bounds the element. -/
theorem range_of_decomposition {count : Nat} {bits : List (ZMod p)} {element : ZMod p}
    (hlength : bits.length = count) (hbits : ∀ bit ∈ bits, IsBit bit) (hvalue : fieldValue bits = element)
    (hfits : 2 ^ count ≤ p) : element.val < 2 ^ count ∧ bits = bitsOf p count element.val := by
  subst hlength
  have hlt := natValue_lt hbits
  rw [val_eq_natValue hvalue (hlt.trans_le hfits)]
  exact ⟨hlt, eq_bitsOf_natValue hbits⟩

/-- Bits determine a number that fits into them. -/
theorem bitsOf_injective {count left right : Nat} (hleft : left < 2 ^ count) (hright : right < 2 ^ count)
    (h : bitsOf p count left = bitsOf p count right) : left = right := by
  induction count generalizing left right with
  | zero =>
    simp only [pow_zero, Nat.lt_one_iff] at hleft hright
    rw [hleft, hright]
  | succ count ih =>
    simp only [bitsOf, List.cons.injEq] at h
    obtain ⟨hlow, hhigh⟩ := h
    rw [pow_succ] at hleft hright
    have hhalves := ih (by omega) (by omega) hhigh
    have htwo : 2 ≤ p := hprime.out.two_le
    have hlows : left % 2 = right % 2 := by
      have hleftBit : left % 2 < p := by omega
      have hrightBit : right % 2 < p := by omega
      rwa [ZMod.natCast_eq_natCast_iff', Nat.mod_eq_of_lt hleftBit, Nat.mod_eq_of_lt hrightBit] at hlow
    omega

end bit_decomposition
