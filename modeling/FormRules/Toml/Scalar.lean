/-
**TOML values of one word.**

Numbers, truth values, dates and times are written as words. An integer with underscores is cut
into parts; a part must start and end with a digit where it meets an underscore, and nothing else
is asked of it until the value is used. So such a word, or a base without digits, can be an integer
that denotes no number.

* `readInteger?` and `readFloat?` read numbers;
* `readScalar?` reads the value that a word is;
* `readWord` takes a word from the start of a text.
-/

import FormRules.Text.Hexadecimal
import FormRules.Text.Split
import FormRules.Toml.Basic
import FormRules.Toml.Moment

namespace FormRules.Toml

/-! ### Digits -/

/-- The digits of a run in which single underscores may stand between digits. -/
def digitRun? (isAllowed : Char → Bool) (text : List Char) : Option (List Char) :=
  let parts := Text.pieces '_' text
  if parts.all fun part => !part.isEmpty && part.all isAllowed then some parts.flatten else none

/-- The digits of a decimal run that has no leading zero unless it is zero. -/
def plainRun? (text : List Char) : Option (List Char) :=
  (digitRun? Decimal.isDigit text).bind fun digits =>
    if digits.head? = some '0' ∧ digits.length ≠ 1 then none else some digits

/-- Whether a character is a digit in a base up to sixteen. -/
def isDigitInBase (base : Nat) (letter : Char) : Bool :=
  (Text.hexValue? letter).any (· < base)

/-- Whether every underscore of a text stands between two hexadecimal digits. -/
def hasSeparatingUnderscores (text : List Char) : Bool :=
  let parts := Text.pieces '_' text
  parts.tail.all (·.head?.any (isDigitInBase 16)) &&
    parts.dropLast.all (·.getLast?.any (isDigitInBase 16))

/-! ### Integers -/

/-- The integer that the digits after the mark of a base are. -/
def readInBase? (base : Nat) (text : List Char) : Option (Option Int) :=
  if text = [] then some none
  else
    (digitRun? (isDigitInBase base) text).map fun digits =>
      some (digits.foldl (fun number digit =>
        base * number + (Text.hexValue? digit).getD 0) 0 : Nat)

/-- The decimal number that digits with a sign denote. -/
def numberWithSign? (text : List Char) : Option Int :=
  let (negative, digits) := Decimal.Literal.readSign text
  if digits ≠ [] ∧ digits.all Decimal.isDigit then
    some (if negative then -(Decimal.numberOf digits : Int) else Decimal.numberOf digits)
  else
    none

/-- The integer that a decimal word is. A point or a power of ten makes it a float; leading zeros
are not allowed. -/
def readDecimal? (word : List Char) : Option (Option Int) :=
  let (_, unsigned) := Decimal.Literal.readSign word
  let digits := unsigned.takeWhile Decimal.isDigit
  let rest := unsigned.dropWhile Decimal.isDigit
  if rest = [] then
    if digits.head? = some '0' ∧ digits.length ≠ 1 then none
    else (numberWithSign? word).map some
  else if rest.head? = some '_' ∧ digits.head? ≠ some '0' ∧ hasSeparatingUnderscores word ∧
      rest.all (fun letter => letter ≠ '.' ∧ letter ≠ 'e' ∧ letter ≠ 'E') then
    some (numberWithSign? (word.filter (· ≠ '_')))
  else
    none

/-- The integer that a word is. The inner option is `none` when it denotes no number. -/
def readInteger? (word : List Char) : Option (Option Int) :=
  match word with
  | '0' :: 'x' :: digits => readInBase? 16 digits
  | '0' :: 'o' :: digits => readInBase? 8 digits
  | '0' :: 'b' :: digits => readInBase? 2 digits
  | _ => readDecimal? word

/-! ### Floats -/

/-- The power of ten at the end of a float, zero when there is none. -/
def readExponent? : Option (List Char) → Option Int
  | none => some 0
  | some text =>
    let (negative, unsigned) := Decimal.Literal.readSign text
    (digitRun? Decimal.isDigit unsigned).map fun digits =>
      if negative then -(Decimal.numberOf digits : Int) else Decimal.numberOf digits

/-- The digits after the point of a float, none when there is no point. -/
def readFraction? : Option (List Char) → Option (List Char)
  | none => some []
  | some text => digitRun? Decimal.isDigit text

/-- The float that a word is; it has a point or a power of ten, and digits around the point. -/
def readFloat? (word : List Char) : Option (Option Decimal.Literal) :=
  let (negative, unsigned) := Decimal.Literal.readSign word
  if unsigned = "inf".toList ∨ unsigned = "nan".toList then
    some none
  else do
    let lower := unsigned.map fun letter => if letter = 'E' then 'e' else letter
    let (number, power) :=
      match Text.splitFirst 'e' lower with
      | some (number, power) => (number, some power)
      | none => (lower, none)
    let (before, after) :=
      match Text.splitFirst '.' number with
      | some (before, after) => (before, some after)
      | none => (number, none)
    if power = none ∧ after = none then
      none
    else
      return some ⟨negative, ← plainRun? before, ← readFraction? after, ← readExponent? power⟩

/-! ### Words -/

/-- Whether a character ends a word. A quote inside a word does not. -/
def endsWord (letter : Char) : Bool :=
  " \t\r\n#,[]\x7b\x7d=".toList.contains letter

/-- A word at the start of a text. A date and a time with one blank between them make one word. -/
def readWord (text : List Char) : List Char × List Char :=
  let word := text.takeWhile (!endsWord ·)
  let left := text.dropWhile (!endsWord ·)
  match Moment.read? word, left with
  | some (.date _), ' ' :: rest =>
    let second := rest.takeWhile (!endsWord ·)
    if second.head?.any Decimal.isDigit then
      (word ++ ' ' :: second, rest.dropWhile (!endsWord ·))
    else
      (word, left)
  | _, _ => (word, left)

/-- The value that a word is. -/
def readScalar? (word : List Char) : Option Value :=
  if word = "true".toList then some (.boolean true)
  else if word = "false".toList then some (.boolean false)
  else
    match readInteger? word, readFloat? word, Moment.read? word with
    | some value, _, _ => some (.integer value)
    | none, some literal, _ => some (.float literal)
    | none, none, some moment => some (.moment moment.text)
    | none, none, none => none

end FormRules.Toml
