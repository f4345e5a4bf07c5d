/-
**JSON documents.**

A document is kept as it is written: numbers by their digits, entries of objects in order and with
repeated keys. What a part denotes is asked for only where it is used, so a part that nobody uses
may hold numbers of any size.

* `Json.nesting` is the number of arrays and objects around the innermost value;
* `Json.binary64?` is the number that a literal denotes;
* `Json.isDenoted` says whether every part of a document denotes something.
-/

import FormRules.Binary64.Nearest

namespace FormRules

/-- A JSON document. A string is `none` when its escapes hold half of a surrogate pair: it is well
formed, but denotes no text. -/
inductive Json where
  | null
  | bool (value : Bool)
  | number (literal : Decimal.Literal)
  | string (text : Option String)
  | array (elements : List Json)
  | object (entries : List (Option String × Json))

namespace Json

/-- A text as a document. -/
def ofText (text : String) : Json :=
  .string (some text)

/-- A natural number as a document. -/
def ofNat (number : Nat) : Json :=
  .number (.ofNat number)

/-- Named documents as an object. -/
def ofEntries (entries : List (String × Json)) : Json :=
  .object (entries.map fun entry => (some entry.1, entry.2))

/-! ### Numbers -/

/-- The leading digits of a run that can be appended to a number before it needs more than 64 bits,
appended to it, and the digits that are left. -/
def takeFitting (number : Nat) : List Char → Nat × List Char
  | [] => (number, [])
  | digit :: rest =>
    let longer := 10 * number + Decimal.digitValue digit
    if longer < Nat.pow 2 64 then takeFitting longer rest else (number, digit :: rest)

/-- A power of ten rounded to a magnitude. -/
def powerOfTen? (exponent : Nat) : Option Magnitude :=
  Magnitude.nearest? (Nat.pow 10 exponent) 1

/-- A magnitude times a power of ten, by one multiplication or division. A power below the range of
magnitudes is taken in steps of `10 ^ -308`, each of them rounded; zero stays zero, and any other
number times a power beyond the range has no result. -/
def scaleByTen? (magnitude : Magnitude) (exponent : Int) : Option Magnitude :=
  if exponent.natAbs ≤ 308 then
    (powerOfTen? exponent.natAbs).bind fun power =>
      if 0 ≤ exponent then magnitude.mul? power else magnitude.div? power
  else if magnitude.units = 0 then some magnitude
  else if 0 ≤ exponent then none
  else (powerOfTen? 308).bind fun power =>
    (magnitude.div? power).bind fun smaller => scaleByTen? smaller (exponent + 308)
termination_by exponent.natAbs
decreasing_by omega

/-- The number that a literal denotes: its leading digits that fit 64 bits, scaled by a power of
ten. Digits beyond those count with their place only. `none` when the number is out of range. -/
def binary64? (literal : Decimal.Literal) : Option Binary64 :=
  let (wholePart, wholeLeft) := takeFitting 0 literal.whole
  let (significand, fractionLeft) := takeFitting wholePart literal.fraction
  let places := literal.fraction.length - fractionLeft.length
  let exponent := literal.exponent + wholeLeft.length - places
  (Magnitude.nearest? significand 1).bind fun magnitude =>
    (scaleByTen? magnitude exponent).map (.finite literal.negative)

/-! ### Whole documents -/

mutual

/-- The number of arrays and objects around the innermost value. -/
def nesting : Json → Nat
  | .array elements => nestingOfElements elements + 1
  | .object entries => nestingOfEntries entries + 1
  | _ => 0

/-- The deepest nesting among the elements of an array. -/
def nestingOfElements : List Json → Nat
  | [] => 0
  | element :: rest => max element.nesting (nestingOfElements rest)

/-- The deepest nesting among the values of an object. -/
def nestingOfEntries : List (Option String × Json) → Nat
  | [] => 0
  | (_, value) :: rest => max value.nesting (nestingOfEntries rest)

end

mutual

/-- Whether all strings of a document denote texts and all its numbers are in range. -/
def isDenoted : Json → Bool
  | .number literal => (binary64? literal).isSome
  | .string text => text.isSome
  | .array elements => areDenoted elements
  | .object entries => entriesAreDenoted entries
  | _ => true

/-- Whether all elements of an array denote something. -/
def areDenoted : List Json → Bool
  | [] => true
  | element :: rest => element.isDenoted && areDenoted rest

/-- Whether all keys and values of an object denote something. -/
def entriesAreDenoted : List (Option String × Json) → Bool
  | [] => true
  | (key, value) :: rest => key.isSome && value.isDenoted && entriesAreDenoted rest

end

end Json

end FormRules
