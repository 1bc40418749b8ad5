/-
Numbers and decimal texts under the operators of an untyped program.

A driver that reads a column of integers as decimal texts hands the program texts where its
types say numbers.  `+` then concatenates, while the comparisons, `-` and a maximum convert,
and the strict equality of a text with a number is false.  Numbers are natural numbers here.
-/
import Mathlib.Algebra.GroupWithZero.Nat

namespace AudioBlock.Foundation

inductive Operand
  | number (value : Nat)
  | text (digits : List Char)
  deriving DecidableEq

namespace Operand

def toNumber : Operand → Nat
  | .number value => value
  | .text digits => Nat.ofDigitChars 10 digits 0

/-- A column's integer as the driver returns it. -/
def ofColumn (value : Nat) : Operand :=
  .text (Nat.toDigits 10 value)

/-- `operand + value`. -/
def add (operand : Operand) (value : Nat) : Operand :=
  match operand with
  | .number left => .number (left + value)
  | .text digits => .text (digits ++ Nat.toDigits 10 value)

/-- `operand === value`. -/
def strictEquals (operand : Operand) (value : Nat) : Bool :=
  match operand with
  | .number left => left == value
  | .text _ => false

def isText : Operand → Bool
  | .number _ => false
  | .text _ => true

theorem toNumber_ofColumn (value : Nat) : (ofColumn value).toNumber = value :=
  Nat.ofDigitChars_ten_toDigits

/-- A concatenated number multiplies the text before it by a power of ten. -/
theorem toNumber_append (digits : List Char) (value : Nat) :
    ((text digits).add value).toNumber =
      10 ^ (Nat.toDigits 10 value).length * (text digits).toNumber + value := by
  change Nat.ofDigitChars 10 (digits ++ Nat.toDigits 10 value) 0 = _
  rw [Nat.ofDigitChars_append, Nat.ofDigitChars_eq_ofDigitChars_zero,
    Nat.ofDigitChars_ten_toDigits]
  rfl

theorem ten_mul_le_append (digits : List Char) (value : Nat) :
    10 * (text digits).toNumber + value ≤ ((text digits).add value).toNumber := by
  rw [toNumber_append]
  have power : 10 ≤ 10 ^ (Nat.toDigits 10 value).length :=
    Nat.le_self_pow (Nat.ne_of_gt Nat.length_toDigits_pos) 10
  exact Nat.add_le_add_right (Nat.mul_le_mul_right _ power) value

/-- Concatenation never gives less than the sum. -/
theorem le_toNumber_add (operand : Operand) (value : Nat) :
    operand.toNumber + value ≤ (operand.add value).toNumber := by
  cases operand with
  | number left => exact Nat.le_refl _
  | text digits =>
      have large := ten_mul_le_append digits value
      omega

theorem toNumber_add_iff (operand : Operand) (value : Nat) :
    (operand.add value).toNumber = operand.toNumber + value ↔
      operand.isText = false ∨ operand.toNumber = 0 := by
  cases operand with
  | number left => exact iff_of_true rfl (Or.inl rfl)
  | text digits =>
      have large := ten_mul_le_append digits value
      constructor
      · intro exact
        right
        omega
      · rintro (isNumber | zero)
        · exact nomatch isNumber
        · rw [toNumber_append, zero, Nat.mul_zero]

end Operand

end AudioBlock.Foundation
