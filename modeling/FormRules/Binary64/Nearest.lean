/-
**Rounding to binary64.**

Every operation here is the exact one followed by rounding to the nearest magnitude, ties going
to the one whose last bit is zero.

* `roundHalfEven` rounds a quotient of natural numbers to a whole number;
* `nearestUnits` rounds a ratio to 53 significant bits, but no finer than one unit;
* `Magnitude.nearest?` is the magnitude nearest to a ratio, `none` from `2 ^ 1024 - 2 ^ 970` on;
* `Binary64.ofLiteral` is the number nearest to a decimal literal.
-/

import FormRules.Binary64.Basic
import FormRules.Decimal.Literal

namespace FormRules

/-- A quotient rounded to a whole number, a half to the even neighbour. -/
def roundHalfEven (numerator denominator : Nat) : Nat :=
  let quotient := numerator / denominator
  let twice := 2 * (numerator % denominator)
  if twice < denominator then quotient
  else if denominator < twice then quotient + 1
  else quotient + quotient % 2

/-- The units nearest to a ratio. The spacing doubles with each bit beyond the 53rd; it is one unit
for all ratios below. -/
def nearestUnits (numerator denominator : Nat) : Nat :=
  let scaled := numerator * unitsPerOne
  let spacing := Nat.pow 2 ((scaled / denominator).log2 - 52)
  roundHalfEven scaled (denominator * spacing) * spacing

namespace Magnitude

/-- The magnitude nearest to a ratio, `none` when it rounds beyond all magnitudes. -/
def nearest? (numerator denominator : Nat) : Option Magnitude :=
  ofUnits? (nearestUnits numerator denominator)

/-- The rounded product. -/
def mul? (first second : Magnitude) : Option Magnitude :=
  nearest? (first.units * second.units) (unitsPerOne * unitsPerOne)

/-- The rounded quotient. -/
def div? (first second : Magnitude) : Option Magnitude :=
  nearest? first.units second.units

/-- The magnitude nearest to `mantissa · 10 ^ scale`, where the mantissa has at most so many
digits. A literal of few characters can denote a number of astronomical size; no power is taken
when the answer is already clear: `10 ^ 309` is beyond all magnitudes, and `10 ^ -324` is less than
half a unit. -/
def ofDecimal? (mantissa digitCount : Nat) (scale : Int) : Option Magnitude :=
  if mantissa = 0 ∨ scale + digitCount ≤ -324 then some zero
  else if 309 ≤ scale then none
  else if 0 ≤ scale then nearest? (mantissa * Nat.pow 10 scale.toNat) 1
  else nearest? mantissa (Nat.pow 10 (-scale).toNat)

/-- The magnitude nearest to the number that a literal denotes, its sign aside. -/
def ofLiteral? (literal : Decimal.Literal) : Option Magnitude :=
  ofDecimal? literal.mantissa (literal.whole.length + literal.fraction.length) literal.scale

end Magnitude

namespace Binary64

/-- The number nearest to an integer; an integer has no negative zero. -/
def ofInt (number : Int) : Binary64 :=
  ofMagnitude (number < 0) (Magnitude.nearest? number.natAbs 1)

/-- The number nearest to a natural number. -/
def ofNat (number : Nat) : Binary64 :=
  ofMagnitude false (Magnitude.nearest? number 1)

/-- The number nearest to a decimal literal; zero keeps the sign of the literal. -/
def ofLiteral (literal : Decimal.Literal) : Binary64 :=
  ofMagnitude literal.negative (Magnitude.ofLiteral? literal)

/-- The finite number nearest to a decimal literal, `none` when it rounds to infinity. -/
def ofLiteral? (literal : Decimal.Literal) : Option Binary64 :=
  (Magnitude.ofLiteral? literal).map (.finite literal.negative)

end Binary64

end FormRules
