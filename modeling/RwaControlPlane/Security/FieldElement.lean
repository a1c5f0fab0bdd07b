import RwaControlPlane.Failure
import RwaControlPlane.Library.Checked
import RwaControlPlane.Library.Decimal
import RwaControlPlane.Library.PrattCertificate

open checked pratt_certificate

namespace rwa.security

/-- Order of the BN254 scalar field. -/
def bn254ScalarField : Nat :=
  21888242871839275222246405745257275088548364400416034343698204186575808495617

private theorem prime_factors :
    Nat.Prime 405928799 ∧ Nat.Prime 1670836401704629 ∧ Nat.Prime 13818364434197438864469338081 := by
  have prime_639533339 : Nat.Prime 639533339 :=
    Certificate.prime { generator := 2, factors := [2, 229, 853, 1637], fuel := 30 } (by decide +kernel)
      (by norm_num)
  have prime_405928799 : Nat.Prime 405928799 :=
    Certificate.prime { generator := 22, factors := [2, 11, 3691, 4999], fuel := 29 } (by decide +kernel)
      (by norm_num)
  have prime_12048837557 : Nat.Prime 12048837557 :=
    Certificate.prime { generator := 2, factors := [2, 2, 7, 7, 661, 93001], fuel := 34 } (by decide +kernel)
      (by norm_num)
  have prime_5156902474397 : Nat.Prime 5156902474397 :=
    Certificate.prime { generator := 2, factors := [2, 2, 107, 12048837557], fuel := 43 } (by decide +kernel)
      (by simpa using ⟨by norm_num, by norm_num, prime_12048837557⟩)
  have prime_1670836401704629 : Nat.Prime 1670836401704629 :=
    Certificate.prime { generator := 2, factors := [2, 2, 3, 3, 3, 3, 5156902474397], fuel := 51 }
      (by decide +kernel) (by simpa using ⟨by norm_num, by norm_num, prime_5156902474397⟩)
  have prime_65865678001877903 : Nat.Prime 65865678001877903 :=
    Certificate.prime { generator := 5, factors := [2, 83, 379, 1637, 639533339], fuel := 56 } (by decide +kernel)
      (by simpa using ⟨by norm_num, by norm_num, by norm_num, by norm_num, prime_639533339⟩)
  have prime_13818364434197438864469338081 : Nat.Prime 13818364434197438864469338081 :=
    Certificate.prime
      { generator := 3, factors := [2, 2, 2, 2, 2, 5, 823, 1593227, 65865678001877903], fuel := 94 }
      (by decide +kernel)
      (by simpa using ⟨by norm_num, by norm_num, by norm_num, by norm_num, prime_65865678001877903⟩)
  exact ⟨prime_405928799, prime_1670836401704629, prime_13818364434197438864469338081⟩

/-- The scalar field has no zero divisors: its order is prime. -/
theorem bn254ScalarField_prime : Nat.Prime bn254ScalarField :=
  Certificate.prime
    { generator := 5,
      factors := List.replicate 28 2 ++
        [3, 3, 13, 29, 983, 11003, 237073, 405928799, 1670836401704629, 13818364434197438864469338081],
      fuel := 254 }
    (by decide +kernel)
    (by
      intro factor hmem
      simp only [List.mem_append, List.mem_replicate, List.mem_cons, List.not_mem_nil, or_false] at hmem
      obtain ⟨-, rfl⟩ | rfl | rfl | rfl | rfl | rfl | rfl | rfl | rfl | rfl | rfl := hmem
      case inr.inr.inr.inr.inr.inr.inr.inr.inl => exact prime_factors.1
      case inr.inr.inr.inr.inr.inr.inr.inr.inr.inl => exact prime_factors.2.1
      case inr.inr.inr.inr.inr.inr.inr.inr.inr.inr => exact prime_factors.2.2
      all_goals norm_num)

instance : Fact (Nat.Prime bn254ScalarField) := ⟨bn254ScalarField_prime⟩

/-- An element of the BN254 scalar field. Its canonical representative is the
number below the field order that the source keeps as a bigint. -/
abbrev FieldElement : Type := ZMod bn254ScalarField

/-- Decimal text of a field element, as `toString` prints it. -/
def toText (element : FieldElement) : String :=
  element.val.repr

/-- The field element denoted by a canonical decimal text. The source returns
the text itself, which is the text of the element returned here. -/
def normalizeFieldElement (value label : String) : Except Failure FieldElement := do
  throwIf (¬decimal.isCanonical value = true)
    ⟨"INVALID_PUBLIC_SIGNAL", label ++ " must be a canonical decimal field element"⟩
  throwIf (bn254ScalarField ≤ decimal.value value)
    ⟨"INVALID_PUBLIC_SIGNAL", label ++ " exceeds the BN254 scalar field"⟩
  pure (decimal.value value)

theorem toText_injective : Function.Injective toText :=
  fun _ _ h => ZMod.val_injective bn254ScalarField (decimal.repr_injective h)

@[simp] theorem toText_inj {left right : FieldElement} : toText left = toText right ↔ left = right :=
  toText_injective.eq_iff

/-- A text is accepted exactly when it is the text of the element returned. -/
theorem normalizeFieldElement_eq_ok_iff {value label : String} {element : FieldElement} :
    normalizeFieldElement value label = .ok element ↔ value = toText element := by
  simp only [normalizeFieldElement, bind_eq_ok_iff, throwIf_eq_ok_iff, exists_unit, pure_eq_ok_iff, not_not,
    not_le]
  constructor
  · rintro ⟨hcanonical, hbound, rfl⟩
    rw [toText, ZMod.val_natCast_of_lt hbound, decimal.repr_value hcanonical]
  · rintro rfl
    have hbound : element.val < bn254ScalarField := element.val_lt
    refine ⟨decimal.isCanonical_repr _, ?_, ?_⟩
    · rwa [toText, decimal.value_repr]
    · rw [toText, decimal.value_repr, ZMod.natCast_val, ZMod.cast_id]

@[simp] theorem normalizeFieldElement_toText {element : FieldElement} {label : String} :
    normalizeFieldElement (toText element) label = .ok element :=
  normalizeFieldElement_eq_ok_iff.mpr rfl

end rwa.security
