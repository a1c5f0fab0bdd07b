import Mathlib.Data.List.Basic
import Mathlib.Algebra.GroupWithZero.Nat

namespace js_text

/-- UTF-16 code units of a text, its `length` in JavaScript. -/
def length (text : String) : Nat :=
  (text.toList.map fun char => if 0xffff < char.toNat then 2 else 1).sum

/-- White space and line terminators, as `trim` strips them. -/
def isSpace (char : Char) : Bool :=
  (9 ≤ char.toNat && char.toNat ≤ 13) || (0x2000 ≤ char.toNat && char.toNat ≤ 0x200a) ||
    [0x20, 0xa0, 0x1680, 0x2028, 0x2029, 0x202f, 0x205f, 0x3000, 0xfeff].contains char.toNat

def trim (text : String) : String :=
  String.ofList (((text.toList.dropWhile isSpace).reverse.dropWhile isSpace).reverse)

/-- A non-empty text of at most `limit` code units. -/
def Bounded (text : String) (limit : Nat) : Prop :=
  1 ≤ length text ∧ length text ≤ limit

instance (text : String) (limit : Nat) : Decidable (Bounded text limit) :=
  inferInstanceAs (Decidable (_ ∧ _))

/-- Value of a hexadecimal digit. -/
def digitValue (char : Char) : Option Nat :=
  if char.isDigit then some (char.toNat - 48)
  else if 97 ≤ char.toNat ∧ char.toNat ≤ 102 then some (char.toNat - 87)
  else if 65 ≤ char.toNat ∧ char.toNat ≤ 70 then some (char.toNat - 55)
  else none

/-- Number that digits continue. -/
def digitsFrom (base : Nat) : Nat → List Char → Option Nat
  | number, [] => some number
  | number, char :: rest =>
    match digitValue char with
    | some digit => if digit < base then digitsFrom base (base * number + digit) rest else none
    | none => none

def digits (base : Nat) (chars : List Char) : Option Nat :=
  if chars = [] then none else digitsFrom base 0 chars

/-- `BigInt` of a text: an empty text is zero, a decimal number may have a sign,
and the other bases a prefix. -/
@[irreducible] def bigInt (text : String) : Option Int :=
  match (trim text).toList with
  | [] => some 0
  | '0' :: 'x' :: rest => (digits 16 rest).map Int.ofNat
  | '0' :: 'X' :: rest => (digits 16 rest).map Int.ofNat
  | '0' :: 'o' :: rest => (digits 8 rest).map Int.ofNat
  | '0' :: 'O' :: rest => (digits 8 rest).map Int.ofNat
  | '0' :: 'b' :: rest => (digits 2 rest).map Int.ofNat
  | '0' :: 'B' :: rest => (digits 2 rest).map Int.ofNat
  | '+' :: rest => (digits 10 rest).map Int.ofNat
  | '-' :: rest => (digits 10 rest).map fun number => -Int.ofNat number
  | chars => (digits 10 chars).map Int.ofNat

end js_text
