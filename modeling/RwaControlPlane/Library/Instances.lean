import Mathlib.Algebra.NeZero
import Mathlib.Algebra.GroupWithZero.Nat
import Mathlib.Algebra.Ring.Nat
import Mathlib.Data.Nat.Cast.Defs

namespace instances

instance lawfulBEq_pair : LawfulBEq (String × String) := inferInstance

instance lawfulBEq_triple : LawfulBEq (String × String × String) := inferInstance

instance lawfulBEq_numbered : LawfulBEq (String × Nat) := inferInstance

instance lawfulBEq_optional : LawfulBEq (Option String) := inferInstance

instance neZero_two : NeZero 2 := ⟨by decide⟩

instance neZero_word64 : NeZero (2 ^ 64) := ⟨by decide⟩

instance neZero_word128 : NeZero (2 ^ 128) := ⟨by decide⟩

instance atLeastTwo_2 : Nat.AtLeastTwo 2 := ⟨by decide⟩

instance atLeastTwo_3 : Nat.AtLeastTwo 3 := ⟨by decide⟩

instance atLeastTwo_5 : Nat.AtLeastTwo 5 := ⟨by decide⟩

instance atLeastTwo_7 : Nat.AtLeastTwo 7 := ⟨by decide⟩

instance atLeastTwo_11 : Nat.AtLeastTwo 11 := ⟨by decide⟩

instance atLeastTwo_17 : Nat.AtLeastTwo 17 := ⟨by decide⟩

instance atLeastTwo_22 : Nat.AtLeastTwo 22 := ⟨by decide⟩

instance atLeastTwo_200 : Nat.AtLeastTwo 200 := ⟨by decide⟩

instance atLeastTwo_201 : Nat.AtLeastTwo 201 := ⟨by decide⟩

instance atLeastTwo_300 : Nat.AtLeastTwo 300 := ⟨by decide⟩

instance atLeastTwo_301 : Nat.AtLeastTwo 301 := ⟨by decide⟩

end instances
