/-
**Field values.**

A field holds a truth value, a number, a text or nothing. Checks look at a value in four ways:

* `Value.isPresent`: whether anything was filled in;
* `Value.toNumber?`: the number that the whole value is;
* `Value.toIntegerPrefix?`: the integer at the start of the value;
* `Value.length?`: the number of characters of a text.
-/

import FormRules.Binary64.Shortest
import FormRules.Text.Blank

namespace FormRules

/-- What was filled into a field. -/
inductive Value where
  | bool (truth : Bool)
  | number (amount : Binary64)
  | text (content : String)
  /-- Nothing, also for a field without an entry. -/
  | null
deriving DecidableEq

/-! ### Numbers in texts -/

/-- The finite number that a text is: a decimal literal, blanks around it allowed, that does not
round to infinity. -/
def parseNumber (text : List Char) : Option Binary64 :=
  (Decimal.Literal.read? (Text.trim text)).bind Binary64.ofLiteral?

/-- The greatest 64-bit integer with a sign. -/
def greatestInt64 : Nat := Nat.pow 2 63 - 1

/-- The integer at the start of a text: after leading blanks an optional sign and a run of digits,
with whatever follows. A number of too large a size counts as the greatest one of that sign. -/
def parseIntegerPrefix (text : List Char) : Option Int :=
  let (negative, unsigned) := Decimal.Literal.readSign (Text.trimStart text)
  let digits := unsigned.takeWhile Decimal.isDigit
  if digits = [] then
    none
  else
    let size := min (Decimal.numberOf digits) greatestInt64
    some (if negative then -(size : Int) else size)

namespace Value

/-- Whether anything was filled in. Nothing, false, the empty text, zero and NaN do not count. -/
def isPresent : Value → Bool
  | .null => false
  | .bool truth => truth
  | .number amount => !amount.isZero && !amount.isNan
  | .text content => content ≠ ""

/-- The text of a value that is one. -/
def asText? : Value → Option String
  | .text content => some content
  | _ => none

/-- The number that the whole value is. -/
def toNumber? : Value → Option Binary64
  | .number amount => if amount.isNan then none else some amount
  | .text content => parseNumber content.toList
  | _ => none

/-- The integer at the start of the value: the whole part of a finite number, or the integer that
a text starts with. -/
def toIntegerPrefix? : Value → Option Int
  | .number (.finite negative magnitude) => some (Binary64.finite negative magnitude).toInt64
  | .text content => parseIntegerPrefix content.toList
  | _ => none

/-- The number of characters of a text. -/
def length? (value : Value) : Option Nat :=
  value.asText?.map String.length

/-- A value as it is shown; nothing is shown as the empty text. -/
def display : Value → String
  | .bool truth => if truth then "true" else "false"
  | .number amount => amount.text
  | .text content => content
  | .null => ""

end Value

end FormRules
