import Mathlib
import RwaControlPlane.Library.JsText

namespace base64

/-- The digits of bytes. -/
def digitsOf : List Nat → List Nat
  | first :: second :: third :: rest =>
    first / 4 :: (first % 4 * 16 + second / 16) :: (second % 16 * 4 + third / 64) :: third % 64 :: digitsOf rest
  | [first, second] => [first / 4, first % 4 * 16 + second / 16, second % 16 * 4]
  | [first] => [first / 4, first % 4 * 16]
  | [] => []

/-- The bytes of digits. Bits that fill no byte are dropped. -/
def bytesOf : List Nat → List Nat
  | first :: second :: third :: fourth :: rest =>
    (first * 4 + second / 16) :: (second % 16 * 16 + third / 4) :: (third % 4 * 64 + fourth) :: bytesOf rest
  | [first, second, third] => [first * 4 + second / 16, second % 16 * 16 + third / 4]
  | [first, second] => [first * 4 + second / 16]
  | _ => []

def digitChar (digit : Nat) : Char :=
  if digit < 26 then Char.ofNat (digit + 65)
  else if digit < 52 then Char.ofNat (digit + 71)
  else if digit < 62 then Char.ofNat (digit - 4)
  else if digit = 62 then '+'
  else '/'

/-- The number of padding characters after the digits of bytes. -/
def paddingOf (count : Nat) : Nat := (3 - count % 3) % 3

/-- `toString("base64")` -/
def encode (bytes : List Nat) : List Char :=
  (digitsOf bytes).map digitChar ++ List.replicate (paddingOf bytes.length) '='

/-- The digits can be those of bytes: the last one carries no bits that are lost. -/
def Canonical (digits : List Nat) : Prop :=
  (digits.length % 4 = 0) ∨
    (digits.length % 4 = 3 ∧ ∃ last ∈ digits.getLast?, last % 4 = 0) ∨
    digits.length % 4 = 2 ∧ ∃ last ∈ digits.getLast?, last % 16 = 0

theorem bytesOf_digitsOf {bytes : List Nat} (h : ∀ byte ∈ bytes, byte < 256) : bytesOf (digitsOf bytes) = bytes := by
  induction bytes using digitsOf.induct with
  | case1 first second third rest ih =>
    have hfirst := h first (by simp)
    have hsecond := h second (by simp)
    have hthird := h third (by simp)
    have hrest := ih fun byte hbyte => h byte (by simp [hbyte])
    rw [digitsOf, bytesOf, hrest]
    congr 1
    · omega
    · congr 1
      · omega
      · congr 1
        omega
  | case2 first second =>
    have hfirst := h first (by simp)
    have hsecond := h second (by simp)
    rw [digitsOf, bytesOf]
    congr 1
    · omega
    · congr 1
      omega
  | case3 first =>
    have hfirst := h first (by simp)
    rw [digitsOf, bytesOf]
    congr 1
    omega
  | case4 => rfl

theorem digitsOf_lt {bytes : List Nat} (h : ∀ byte ∈ bytes, byte < 256) : ∀ digit ∈ digitsOf bytes, digit < 64 := by
  induction bytes using digitsOf.induct with
  | case1 first second third rest ih =>
    have hfirst := h first (by simp)
    have hsecond := h second (by simp)
    have hthird := h third (by simp)
    have hrest := ih fun byte hbyte => h byte (by simp [hbyte])
    rw [digitsOf]
    simp only [List.forall_mem_cons]
    exact ⟨by omega, by omega, by omega, by omega, hrest⟩
  | case2 first second =>
    have hfirst := h first (by simp)
    have hsecond := h second (by simp)
    rw [digitsOf]
    simp only [List.forall_mem_cons]
    exact ⟨by omega, by omega, by omega, List.forall_mem_nil _⟩
  | case3 first =>
    have hfirst := h first (by simp)
    rw [digitsOf]
    simp only [List.forall_mem_cons]
    exact ⟨by omega, by omega, List.forall_mem_nil _⟩
  | case4 => exact List.forall_mem_nil _

/-- Digits that are read in no group are none or a single one. -/
private theorem single_of_rest {digits : List Nat}
    (hfour : ∀ first second third fourth rest, digits = first :: second :: third :: fourth :: rest → False)
    (hthree : ∀ first second third, digits = [first, second, third] → False)
    (htwo : ∀ first second, digits = [first, second] → False) : digits = [] ∨ ∃ digit, digits = [digit] := by
  cases digits with
  | nil => exact Or.inl rfl
  | cons first rest =>
    cases rest with
    | nil => exact Or.inr ⟨first, rfl⟩
    | cons second rest =>
      cases rest with
      | nil => exact absurd rfl (htwo first second)
      | cons third rest =>
        cases rest with
        | nil => exact absurd rfl (hthree first second third)
        | cons fourth rest => exact absurd rfl (hfour first second third fourth rest)

theorem bytesOf_lt {digits : List Nat} (h : ∀ digit ∈ digits, digit < 64) : ∀ byte ∈ bytesOf digits, byte < 256 := by
  induction digits using bytesOf.induct with
  | case1 first second third fourth rest ih =>
    have hfirst := h first (by simp)
    have hsecond := h second (by simp)
    have hthird := h third (by simp)
    have hfourth := h fourth (by simp)
    have hrest := ih fun digit hdigit => h digit (by simp [hdigit])
    rw [bytesOf]
    simp only [List.forall_mem_cons]
    exact ⟨by omega, by omega, by omega, hrest⟩
  | case2 first second third =>
    have hfirst := h first (by simp)
    have hsecond := h second (by simp)
    have hthird := h third (by simp)
    rw [bytesOf]
    simp only [List.forall_mem_cons]
    exact ⟨by omega, by omega, List.forall_mem_nil _⟩
  | case3 first second =>
    have hfirst := h first (by simp)
    have hsecond := h second (by simp)
    rw [bytesOf]
    simp only [List.forall_mem_cons]
    exact ⟨by omega, List.forall_mem_nil _⟩
  | case4 digits hfour hthree htwo =>
    obtain rfl | ⟨digit, rfl⟩ := single_of_rest hfour hthree htwo
    · exact List.forall_mem_nil _
    · exact List.forall_mem_nil _

theorem canonical_cons {first second third fourth : Nat} {rest : List Nat} :
    Canonical (first :: second :: third :: fourth :: rest) ↔ Canonical rest := by
  have hlast : rest ≠ [] → (first :: second :: third :: fourth :: rest).getLast? = rest.getLast? := by
    intro hne
    cases rest with
    | nil => exact absurd rfl hne
    | cons head tail => simp only [List.getLast?_cons_cons]
  have hlength : (first :: second :: third :: fourth :: rest).length = rest.length + 4 := rfl
  unfold Canonical
  rw [hlength]
  by_cases hempty : rest = []
  · subst hempty
    simp
  · rw [hlast hempty, Nat.add_mod_right]

theorem paddingOf_add (count : Nat) : paddingOf (count + 3) = paddingOf count := by
  rw [paddingOf, paddingOf, Nat.add_mod_right]

/-- How the digits of bytes are padded. -/
theorem canonical_digitsOf {bytes : List Nat} :
    Canonical (digitsOf bytes) ∧ ((digitsOf bytes).length + paddingOf bytes.length) % 4 = 0 := by
  induction bytes using digitsOf.induct with
  | case1 first second third rest ih =>
    rw [digitsOf, canonical_cons]
    refine ⟨ih.1, ?_⟩
    have hlength := ih.2
    simp only [List.length_cons, paddingOf_add]
    omega
  | case2 first second =>
    refine ⟨Or.inr (Or.inl ⟨by simp [digitsOf], second % 16 * 4, by simp [digitsOf], ?_⟩),
      by simp [digitsOf, paddingOf]⟩
    omega
  | case3 first =>
    refine ⟨Or.inr (Or.inr ⟨by simp [digitsOf], first % 4 * 16, by simp [digitsOf], ?_⟩),
      by simp [digitsOf, paddingOf]⟩
    omega
  | case4 => exact ⟨Or.inl (by simp [digitsOf]), by simp [digitsOf, paddingOf]⟩

/-- Canonical digits are those of their bytes. -/
theorem digitsOf_bytesOf {digits : List Nat} (h : ∀ digit ∈ digits, digit < 64) (hcanonical : Canonical digits) :
    digitsOf (bytesOf digits) = digits := by
  induction digits using bytesOf.induct with
  | case1 first second third fourth rest ih =>
    have hfirst := h first (by simp)
    have hsecond := h second (by simp)
    have hthird := h third (by simp)
    have hfourth := h fourth (by simp)
    have hrest := ih (fun digit hdigit => h digit (by simp [hdigit])) (canonical_cons.mp hcanonical)
    rw [bytesOf, digitsOf, hrest]
    congr 1
    · omega
    · congr 1
      · omega
      · congr 1
        · omega
        · congr 1
          omega
  | case2 first second third =>
    have hfirst := h first (by simp)
    have hsecond := h second (by simp)
    have hthird := h third (by simp)
    have hlast : third % 4 = 0 := by
      obtain hlength | ⟨-, last, hlast, hzero⟩ | ⟨hlength, -⟩ := hcanonical
      · cases hlength
      · cases hlast
        exact hzero
      · cases hlength
    rw [bytesOf, digitsOf]
    congr 1
    · omega
    · congr 1
      · omega
      · congr 1
        omega
  | case3 first second =>
    have hfirst := h first (by simp)
    have hsecond := h second (by simp)
    have hlast : second % 16 = 0 := by
      obtain hlength | ⟨hlength, -⟩ | ⟨-, last, hlast, hzero⟩ := hcanonical
      · cases hlength
      · cases hlength
      · cases hlast
        exact hzero
    rw [bytesOf, digitsOf]
    congr 1
    · omega
    · congr 1
      omega
  | case4 digits hfour hthree htwo =>
    obtain rfl | ⟨digit, rfl⟩ := single_of_rest hfour hthree htwo
    · rfl
    · obtain hlength | ⟨hlength, -⟩ | ⟨hlength, -⟩ := hcanonical
      · cases hlength
      · cases hlength
      · cases hlength

theorem length_digitsOf {bytes : List Nat} :
    (digitsOf bytes).length + paddingOf bytes.length = (bytes.length + 2) / 3 * 4 := by
  induction bytes using digitsOf.induct with
  | case1 first second third rest ih =>
    rw [digitsOf]
    simp only [List.length_cons, paddingOf_add]
    omega
  | case2 first second => simp [digitsOf, paddingOf]
  | case3 first => simp [digitsOf, paddingOf]
  | case4 => simp [digitsOf, paddingOf]

end base64
