/-
**Binary64 numbers.**

A finite binary64 magnitude is a whole number of units, one unit being `2 ^ -1074`: the least
positive magnitude. Counting units makes every finite number a natural number with a sign, so
order and equality of values are those of integers.

* `IsMagnitude` says which numbers of units are magnitudes: at most 53 significant bits, below
  `2 ^ 1024`;
* `Binary64.lt` is the order of the values, in which a NaN is not comparable to anything;
* `Binary64.bits` is the interchange encoding.
-/

namespace FormRules

/-- The exponent of the unit, with the sign turned: a unit is `2 ^ -1074`. -/
def unitExponent : Nat := 1074

/-- The exponent from which on numbers are beyond every finite magnitude. -/
def beyondExponent : Nat := 1024

/-- The number of units in one. -/
def unitsPerOne : Nat := Nat.pow 2 unitExponent

/-- The number of units in `2 ^ 1024`, which is beyond every finite magnitude. -/
def unitsBeyond : Nat := Nat.pow 2 beyondExponent * unitsPerOne

/-- Whether a number of units is a finite magnitude: it is below `2 ^ 1024` and all its bits are
among the 53 that start at its highest. -/
def IsMagnitude (units : Nat) : Prop :=
  units < unitsBeyond ∧ units % Nat.pow 2 (units.log2 - 52) = 0

instance (units : Nat) : Decidable (IsMagnitude units) :=
  inferInstanceAs (Decidable (_ ∧ _))

/-- The magnitude of a finite binary64 number. -/
structure Magnitude where
  units : Nat
  isMagnitude : IsMagnitude units
deriving DecidableEq

/-- A binary64 number; all NaNs are one. -/
inductive Binary64 where
  | nan
  | infinite (negative : Bool)
  | finite (negative : Bool) (magnitude : Magnitude)
deriving DecidableEq

theorem powTwo_pos (exponent : Nat) : 0 < Nat.pow 2 exponent :=
  Nat.two_pow_pos exponent

theorem unitsPerOne_pos : 0 < unitsPerOne := by
  unfold unitsPerOne
  exact powTwo_pos unitExponent

theorem unitsBeyond_pos : 0 < unitsBeyond :=
  Nat.mul_pos (powTwo_pos beyondExponent) unitsPerOne_pos

namespace Magnitude

/-- The magnitude of so many units, `none` if there is none. -/
def ofUnits? (units : Nat) : Option Magnitude :=
  if representable : IsMagnitude units then some ⟨units, representable⟩ else none

/-- The magnitude zero. -/
def zero : Magnitude :=
  ⟨0, unitsBeyond_pos, Nat.zero_mod _⟩

/-- The largest whole number that is at most the magnitude. -/
def floor (magnitude : Magnitude) : Nat :=
  magnitude.units / unitsPerOne

/-- The interchange encoding of a magnitude: 11 bits of exponent, then 52 bits. Magnitudes below
`2 ^ 52` units have the exponent zero and are their own encoding. -/
def bits (magnitude : Magnitude) : Nat :=
  let shift := magnitude.units.log2 - 52
  if magnitude.units < Nat.pow 2 52 then magnitude.units
  else shift * Nat.pow 2 52 + magnitude.units / Nat.pow 2 shift

@[simp]
theorem units_zero : zero.units = 0 := rfl

/-- Magnitudes are determined by their units. -/
theorem ext_units {first second : Magnitude} (same : first.units = second.units) :
    first = second := by
  cases first
  cases second
  simp_all

theorem units_of_ofUnits? {units : Nat} {magnitude : Magnitude}
    (found : ofUnits? units = some magnitude) : magnitude.units = units := by
  unfold ofUnits? at found
  split at found
  · cases found
    rfl
  · cases found

@[simp]
theorem ofUnits?_units (magnitude : Magnitude) : ofUnits? magnitude.units = some magnitude := by
  simp [ofUnits?, magnitude.isMagnitude]

end Magnitude

namespace Binary64

/-- A value with a sign; `none` units stand for an infinite magnitude. -/
def ofMagnitude (negative : Bool) : Option Magnitude → Binary64
  | some magnitude => .finite negative magnitude
  | none => .infinite negative

/-- Positive or negative zero. -/
def zero (negative : Bool) : Binary64 := .finite negative .zero

/-- Whether a number is the NaN. -/
def isNan : Binary64 → Bool
  | .nan => true
  | _ => false

/-- Whether a number is one of the two zeros. -/
def isZero : Binary64 → Bool
  | .finite _ magnitude => magnitude.units = 0
  | _ => false

/-- The place of a number on the line of units. The infinities stand where the next magnitude
would follow; a NaN has no place. -/
def place? : Binary64 → Option Int
  | .nan => none
  | .infinite negative => some (withSign negative unitsBeyond)
  | .finite negative magnitude => some (withSign negative magnitude.units)
where
  /-- A natural number with a sign. -/
  withSign (negative : Bool) (number : Nat) : Int :=
    if negative then -(number : Int) else number

/-- Whether the first number is less than the second. -/
def lt (first second : Binary64) : Bool :=
  match first.place?, second.place? with
  | some firstPlace, some secondPlace => firstPlace < secondPlace
  | _, _ => false

/-- Whether two numbers are equal in value: zeros are equal and a NaN equals nothing. -/
def sameValue (first second : Binary64) : Bool :=
  match first.place?, second.place? with
  | some firstPlace, some secondPlace => firstPlace = secondPlace
  | _, _ => false

/-- An integer moved to the nearest bound when it does not fit 64 bits with a sign. -/
def clampInt64 (number : Int) : Int :=
  max (-Nat.pow 2 63) (min (Nat.pow 2 63 - 1) number)

/-- The whole part of a number, clamped to 64 bits with a sign; zero for a NaN. -/
def toInt64 : Binary64 → Int
  | .nan => 0
  | .infinite negative => if negative then -Nat.pow 2 63 else Nat.pow 2 63 - 1
  | .finite negative magnitude => clampInt64 (place?.withSign negative magnitude.floor)

/-- The interchange encoding as a 64-bit number. -/
def bits : Binary64 → Nat
  | .nan => 0x7FF8000000000000
  | .infinite negative => signBit negative + 0x7FF0000000000000
  | .finite negative magnitude => signBit negative + magnitude.bits
where
  /-- The highest of the 64 bits. -/
  signBit (negative : Bool) : Nat := if negative then Nat.pow 2 63 else 0

end Binary64

end FormRules
