/-
**Decimal digits.**

A run of ASCII digits denotes a natural number, and a natural number is written as the run without
leading zeros.

* `numberOf_append_digit`: a further digit multiplies by ten and adds.
-/

namespace FormRules.Decimal

/-- Whether a character is one of the ten ASCII digits. -/
def isDigit (letter : Char) : Bool :=
  '0' ≤ letter && letter ≤ '9'

/-- The value of an ASCII digit. -/
def digitValue (letter : Char) : Nat :=
  letter.toNat - '0'.toNat

/-- The natural number that a run of digits denotes; the empty run denotes zero. -/
def numberOf (digits : List Char) : Nat :=
  digits.foldl (fun number digit => 10 * number + digitValue digit) 0

/-- The digits of a natural number, without leading zeros. -/
def digitsOf (number : Nat) : List Char :=
  Nat.toDigits 10 number

@[simp]
theorem numberOf_nil : numberOf [] = 0 := rfl

/-- A further digit multiplies by ten and adds. -/
@[simp]
theorem numberOf_append_digit (digits : List Char) (digit : Char) :
    numberOf (digits ++ [digit]) = 10 * numberOf digits + digitValue digit := by
  simp [numberOf]

end FormRules.Decimal
