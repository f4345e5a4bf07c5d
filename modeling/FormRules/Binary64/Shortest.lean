/-
**The shortest decimal of a binary64 number.**

A number is written with the fewest digits that read back as the same number, positionally and
never with an exponent.

* `shortestScale` is the coarsest power of ten of which some multiple reads back;
* `shortestDecimal` is the multiple of that power nearest to the number, the upper one of two that
  are equally near;
* `Binary64.text` is the written number.
-/

import FormRules.Binary64.Nearest

namespace FormRules

/-- A decimal number `mantissa · 10 ^ scale`. -/
structure Decimal.Scaled where
  mantissa : Nat
  scale : Int
deriving DecidableEq

namespace Decimal.Scaled

/-- The numerator of the number as a ratio. -/
def numerator (number : Scaled) : Nat :=
  number.mantissa * Nat.pow 10 number.scale.toNat

/-- The denominator of the number as a ratio. -/
def denominator (number : Scaled) : Nat :=
  Nat.pow 10 (-number.scale).toNat

/-- Whether a magnitude is the one nearest to the number. -/
def readsAs (number : Scaled) (magnitude : Magnitude) : Bool :=
  nearestUnits number.numerator number.denominator = magnitude.units

/-- The number in positional notation: a fraction has as many digits as the scale asks for, and a
digit stands before its point. -/
def positional (number : Scaled) : List Char :=
  if 0 ≤ number.scale then
    digitsOf number.numerator
  else
    let places := (-number.scale).toNat
    digitsOf (number.mantissa / Nat.pow 10 places) ++ '.' ::
      (digitsOf (number.mantissa % Nat.pow 10 places)).leftpad places '0'

end Decimal.Scaled

namespace Magnitude

/-- The greatest multiple of a power of ten that is at most the magnitude, and whether the next
multiple is at least as near. -/
def multipleBelow (magnitude : Magnitude) (scale : Int) : Decimal.Scaled × Bool :=
  let numerator := magnitude.units * Nat.pow 10 (-scale).toNat
  let denominator := unitsPerOne * Nat.pow 10 scale.toNat
  (⟨numerator / denominator, scale⟩, denominator ≤ 2 * (numerator % denominator))

/-- The two neighbours of the magnitude among the multiples of a power of ten. The nearer one comes
first, and the upper one when both are equally near. -/
def neighbours (magnitude : Magnitude) (scale : Int) : List Decimal.Scaled :=
  let (lower, upperIsNearer) := magnitude.multipleBelow scale
  let upper : Decimal.Scaled := ⟨lower.mantissa + 1, scale⟩
  if upperIsNearer then [upper, lower] else [lower, upper]

/-- The multiple of a power of ten that reads back as the magnitude, `none` if there is none. Only
the two neighbours of the magnitude can. -/
def onGrid? (magnitude : Magnitude) (scale : Int) : Option Decimal.Scaled :=
  (magnitude.neighbours scale).find? (·.readsAs magnitude)

/-- The powers of ten that a shortest decimal can end at, from the coarsest: no magnitude reaches
`10 ^ 309`, and all are multiples of `10 ^ -1074`. -/
def scales : List Int :=
  (List.range (308 + 1074 + 1)).map fun (index : Nat) => 308 - (index : Int)

/-- The decimal with the fewest digits that reads back as the magnitude. The last of the scales
holds the magnitude itself, so the search ends there at the latest. -/
def shortestDecimal (magnitude : Magnitude) : Decimal.Scaled :=
  if magnitude.units = 0 then ⟨0, 0⟩
  else (scales.findSome? magnitude.onGrid?).getD (magnitude.multipleBelow (-1074)).1

end Magnitude

namespace Binary64

/-- A number in positional notation with the fewest digits that read back. -/
def text : Binary64 → String
  | .nan => "NaN"
  | .infinite negative => sign negative ++ "inf"
  | .finite negative magnitude =>
    sign negative ++ String.ofList magnitude.shortestDecimal.positional
where
  /-- The sign of a negative number. -/
  sign (negative : Bool) : String := if negative then "-" else ""

end Binary64

end FormRules
