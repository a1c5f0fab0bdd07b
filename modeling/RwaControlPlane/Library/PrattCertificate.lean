import Mathlib.NumberTheory.LucasPrimality
import Mathlib.Data.ZMod.Basic
import Mathlib.Algebra.BigOperators.Group.List.Lemmas
import Mathlib.Tactic.NormNum.Prime

namespace pratt_certificate

/-- Modular power by repeated squaring. The fuel bounds the number of binary
digits of the exponent. -/
def powMod (modulus base : Nat) : Nat → Nat → Nat
  | 0, _ => 1 % modulus
  | fuel + 1, exponent =>
    let half := powMod modulus base fuel (exponent / 2)
    if exponent % 2 = 1 then half * half * base % modulus else half * half % modulus

theorem powMod_eq {modulus base fuel : Nat} :
    ∀ {exponent : Nat}, exponent < 2 ^ fuel → powMod modulus base fuel exponent = base ^ exponent % modulus := by
  induction fuel with
  | zero =>
    intro exponent hfuel
    obtain rfl : exponent = 0 := by simpa using hfuel
    simp [powMod]
  | succ fuel ih =>
    intro exponent hfuel
    rw [pow_succ] at hfuel
    have hhalf := @ih (exponent / 2) (by omega)
    have hsquare : base ^ (exponent / 2) * base ^ (exponent / 2) = base ^ (2 * (exponent / 2)) := by
      rw [← pow_add, two_mul]
    simp only [powMod, hhalf]
    split
    · next hodd =>
      have hexponent : exponent = 2 * (exponent / 2) + 1 := by omega
      conv_rhs => rw [hexponent, pow_succ, ← hsquare]
      simp [Nat.mul_mod]
    · next heven =>
      have hexponent : exponent = 2 * (exponent / 2) := by omega
      conv_rhs => rw [hexponent, ← hsquare]
      simp [Nat.mul_mod]

/-- A certificate names a generator and the prime factors of the predecessor
with their multiplicities. -/
structure Certificate (number : Nat) where
  generator : Nat
  factors : List Nat
  fuel : Nat

/-- The checks on a certificate that only compute. -/
def Certificate.checks {number : Nat} (certificate : Certificate number) : Bool :=
  1 < number && number ≤ 2 ^ certificate.fuel && certificate.factors.prod == number - 1 &&
    powMod number certificate.generator certificate.fuel (number - 1) == 1 &&
    certificate.factors.all fun factor =>
      powMod number certificate.generator certificate.fuel ((number - 1) / factor) != 1

/-- A number with a checked certificate over prime factors is prime. -/
theorem Certificate.prime {number : Nat} (certificate : Certificate number)
    (hchecks : certificate.checks = true) (hfactors : ∀ factor ∈ certificate.factors, factor.Prime) :
    number.Prime := by
  simp only [checks, Bool.and_eq_true, decide_eq_true_eq, beq_iff_eq, List.all_eq_true, bne_iff_ne] at hchecks
  obtain ⟨⟨⟨⟨hone, hfuel⟩, hproduct⟩, hfermat⟩, horder⟩ := hchecks
  have hpower (exponent : Nat) (hexponent : exponent ≤ number - 1) :
      ((certificate.generator : ZMod number) ^ exponent = 1 ↔
        powMod number certificate.generator certificate.fuel exponent = 1) := by
    rw [powMod_eq (by omega), ← Nat.cast_pow, ← Nat.cast_one (R := ZMod number), ZMod.natCast_eq_natCast_iff',
      Nat.mod_eq_of_lt hone]
  refine lucas_primality number certificate.generator ?_ ?_
  · exact (hpower _ le_rfl).mpr hfermat
  · intro divisor hdivisor hdvd
    rw [← hproduct, hdivisor.prime.dvd_prod_iff] at hdvd
    obtain ⟨factor, hmem, hdvdFactor⟩ := hdvd
    obtain rfl := (Nat.prime_dvd_prime_iff_eq hdivisor (hfactors factor hmem)).mp hdvdFactor
    rw [Ne, hpower _ (Nat.div_le_self _ _)]
    exact horder divisor hmem

end pratt_certificate
