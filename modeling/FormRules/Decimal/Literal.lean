/-
**Decimal literals.**

A literal is an optional sign, digits with an optional point among them, and an optional power of
ten. It denotes the exact decimal number `± mantissa · 10 ^ scale`.

* `Literal.read?` accepts exactly the texts `[+-]? (D+ | D+ . D* | D* . D+) ([eE] [+-]? D+)?`;
* `Literal.mantissa` and `Literal.scale` give the number that a literal denotes.
-/

import FormRules.Decimal.Digits

namespace FormRules.Decimal

/-- A decimal literal by its parts. The digits are kept as written. -/
structure Literal where
  negative : Bool
  /-- The digits before the point. -/
  whole : List Char
  /-- The digits after the point. -/
  fraction : List Char
  /-- The power of ten after the `e`, zero when there is none. -/
  exponent : Int
deriving DecidableEq

namespace Literal

/-- The natural number that the digits denote when the point is ignored. -/
def mantissa (literal : Literal) : Nat :=
  numberOf (literal.whole ++ literal.fraction)

/-- The power of ten that the mantissa is multiplied with. -/
def scale (literal : Literal) : Int :=
  literal.exponent - literal.fraction.length

/-- A natural number as a literal. -/
def ofNat (number : Nat) : Literal :=
  ⟨false, digitsOf number, [], 0⟩

/-! ### Reading -/

/-- An optional sign, which tells whether the number is negative, and what follows it. -/
def readSign : List Char → Bool × List Char
  | '-' :: rest => (true, rest)
  | '+' :: rest => (false, rest)
  | text => (false, text)

/-- The longest run of digits at the start of a text, and what follows it. -/
def readDigits (text : List Char) : List Char × List Char :=
  (text.takeWhile isDigit, text.dropWhile isDigit)

/-- A point with the digits behind it, or nothing, and what follows. -/
def readFraction : List Char → List Char × List Char
  | '.' :: rest => readDigits rest
  | text => ([], text)

/-- The signed run of digits that makes up the rest of a text. -/
def readInteger? (text : List Char) : Option Int :=
  let (negative, digits) := readSign text
  if digits ≠ [] ∧ digits.all isDigit then
    some (if negative then -(numberOf digits : Int) else numberOf digits)
  else
    none

/-- The power of ten that makes up the rest of a text, zero for the empty text. -/
def readExponent? : List Char → Option Int
  | [] => some 0
  | letter :: rest => if letter = 'e' ∨ letter = 'E' then readInteger? rest else none

/-- The literal that a text is, `none` if it is none. -/
def read? (text : List Char) : Option Literal :=
  let (negative, unsigned) := readSign text
  let (whole, afterWhole) := readDigits unsigned
  let (fraction, afterFraction) := readFraction afterWhole
  if whole = [] ∧ fraction = [] then
    none
  else
    (readExponent? afterFraction).map fun exponent => ⟨negative, whole, fraction, exponent⟩

/-- The digits of a run come first and are digits, and nothing is lost. -/
theorem readDigits_spec (text : List Char) :
    (readDigits text).1 ++ (readDigits text).2 = text ∧
      ∀ letter ∈ (readDigits text).1, isDigit letter = true := by
  refine ⟨List.takeWhile_append_dropWhile, fun letter member => ?_⟩
  exact List.all_eq_true.1 List.all_takeWhile letter member

end Literal

end FormRules.Decimal
