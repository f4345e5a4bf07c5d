/-
**Reading JSON.**

The reader accepts exactly the JSON grammar, with the four blanks of JSON between the tokens. It
works on the list of characters that is left; each function returns what it has read and what
follows.

* `readString?` reads the rest of a string after its opening quote;
* `readNumber?` reads a number, which has no leading zero and a digit on both sides of its point;
* `read?` reads a whole text.
-/

import FormRules.Json.Basic
import FormRules.Text.Hexadecimal

namespace FormRules.Json

/-! ### Blanks -/

/-- Whether a character may stand between two tokens. -/
def isGap (letter : Char) : Bool :=
  letter = ' ' || letter = '\t' || letter = '\n' || letter = '\r'

/-- A text without its leading blanks. -/
def skipGaps (text : List Char) : List Char :=
  text.dropWhile isGap

/-! ### Strings -/

/-- A written letter of a string: a character, or half of a surrogate pair. -/
inductive Letter where
  | char (letter : Char)
  | surrogate (unit : Nat)
deriving DecidableEq

/-- The letter that four hexadecimal digits stand for. -/
def Letter.ofHex? (first second third fourth : Char) : Option Letter := do
  let unit := ((← Text.hexValue? first) * 16 + (← Text.hexValue? second)) * 256 +
    ((← Text.hexValue? third) * 16 + (← Text.hexValue? fourth))
  return if 0xD800 ≤ unit ∧ unit ≤ 0xDFFF then .surrogate unit else .char (.ofNat unit)

/-- The character that a backslash and one letter stand for. -/
def shortEscape? (letter : Char) : Option Char :=
  if letter = '"' ∨ letter = '\\' ∨ letter = '/' then some letter
  else if letter = 'b' then some '\x08'
  else if letter = 'f' then some '\x0c'
  else if letter = 'n' then some '\n'
  else if letter = 'r' then some '\r'
  else if letter = 't' then some '\t'
  else none

/-- The letters of a string up to its closing quote. Control characters must be escaped. -/
def readLetters? : List Char → Option (List Letter × List Char)
  | [] => none
  | '"' :: rest => some ([], rest)
  | '\\' :: 'u' :: first :: second :: third :: fourth :: rest => do
    let letter ← Letter.ofHex? first second third fourth
    let (letters, left) ← readLetters? rest
    return (letter :: letters, left)
  | '\\' :: escaped :: rest => do
    let letter ← shortEscape? escaped
    let (letters, left) ← readLetters? rest
    return (.char letter :: letters, left)
  | letter :: rest => do
    if letter.toNat < 0x20 ∨ letter = '\\' then
      none
    else
      let (letters, left) ← readLetters? rest
      return (.char letter :: letters, left)

/-- The characters that letters stand for: two halves of a surrogate pair make one character, and
there are none when a half stands alone. -/
def charsOf? : List Letter → Option (List Char)
  | [] => some []
  | .char letter :: rest => (charsOf? rest).map (letter :: ·)
  | .surrogate high :: .surrogate low :: rest =>
    if high < 0xDC00 ∧ 0xDC00 ≤ low then
      (charsOf? rest).map (Char.ofNat (0x10000 + (high - 0xD800) * 0x400 + (low - 0xDC00)) :: ·)
    else
      none
  | .surrogate _ :: _ => none

/-- The text of a string after its opening quote, and what follows its closing quote. -/
def readString? (text : List Char) : Option (Option String × List Char) :=
  (readLetters? text).map fun (letters, left) => ((charsOf? letters).map String.ofList, left)

/-! ### Numbers -/

/-- A point with digits behind it, or nothing. -/
def readFraction? : List Char → Option (List Char × List Char)
  | '.' :: rest =>
    let (digits, left) := Decimal.Literal.readDigits rest
    if digits = [] then none else some (digits, left)
  | text => some ([], text)

/-- A power of ten, or nothing. -/
def readExponent? : List Char → Option (Int × List Char)
  | [] => some (0, [])
  | letter :: rest =>
    if letter = 'e' ∨ letter = 'E' then
      let (negative, unsigned) := Decimal.Literal.readSign rest
      let (digits, left) := Decimal.Literal.readDigits unsigned
      let size : Int := Decimal.numberOf digits
      if digits = [] then none else some (if negative then -size else size, left)
    else
      some (0, letter :: rest)

/-- A minus sign, or nothing. -/
def readMinus : List Char → Bool × List Char
  | '-' :: rest => (true, rest)
  | text => (false, text)

/-- A number. A digit zero before the point stands alone. -/
def readNumber? (text : List Char) : Option (Decimal.Literal × List Char) := do
  let (negative, unsigned) := readMinus text
  let (whole, afterWhole) := Decimal.Literal.readDigits unsigned
  if whole = [] ∨ (whole.head? = some '0' ∧ whole.length ≠ 1) then
    none
  else
    let (fraction, afterFraction) ← readFraction? afterWhole
    let (exponent, left) ← readExponent? afterFraction
    return (⟨negative, whole, fraction, exponent⟩, left)

/-! ### Values -/

/-- What follows a word at the start of a text. -/
def afterWord? (word : String) (text : List Char) : Option (List Char) :=
  if word.toList.isPrefixOf text then some (text.drop word.length) else none

mutual

/-- A value with the blanks before it. The fuel bounds the depth of the calls. -/
def readValue? : Nat → List Char → Option (Json × List Char)
  | 0, _ => none
  | fuel + 1, text =>
    match skipGaps text with
    | [] => none
    | '"' :: rest => (readString? rest).map fun (content, left) => (.string content, left)
    | '[' :: rest =>
      match skipGaps rest with
      | ']' :: left => some (.array [], left)
      | first => (readElements? fuel first).map fun (elements, left) => (.array elements, left)
    | '\x7b' :: rest =>
      match skipGaps rest with
      | '\x7d' :: left => some (.object [], left)
      | first => (readEntries? fuel first).map fun (entries, left) => (.object entries, left)
    | 'n' :: rest => (afterWord? "ull" rest).map fun left => (.null, left)
    | 't' :: rest => (afterWord? "rue" rest).map fun left => (.bool true, left)
    | 'f' :: rest => (afterWord? "alse" rest).map fun left => (.bool false, left)
    | digits => (readNumber? digits).map fun (literal, left) => (.number literal, left)

/-- The elements of an array that is not empty, up to its closing bracket. -/
def readElements? : Nat → List Char → Option (List Json × List Char)
  | 0, _ => none
  | fuel + 1, text => do
    let (element, afterElement) ← readValue? fuel text
    match skipGaps afterElement with
    | ',' :: rest =>
      let (elements, left) ← readElements? fuel rest
      return (element :: elements, left)
    | ']' :: left => return ([element], left)
    | _ => none

/-- The entries of an object that is not empty, up to its closing brace. -/
def readEntries? : Nat → List Char → Option (List (Option String × Json) × List Char)
  | 0, _ => none
  | fuel + 1, text => do
    match skipGaps text with
    | '"' :: afterQuote =>
      let (key, afterKey) ← readString? afterQuote
      match skipGaps afterKey with
      | ':' :: afterColon =>
        let (value, afterValue) ← readValue? fuel afterColon
        match skipGaps afterValue with
        | ',' :: rest =>
          let (entries, left) ← readEntries? fuel rest
          return ((key, value) :: entries, left)
        | '\x7d' :: left => return ([(key, value)], left)
        | _ => none
      | _ => none
    | _ => none

end

/-- The document that a text is. Every two nested calls read at least one character, so twice the
length of the text is fuel enough. -/
def read? (text : String) : Option Json := do
  let letters := text.toList
  let (value, left) ← readValue? (2 * letters.length + 1) letters
  if (skipGaps left).isEmpty then some value else none

end FormRules.Json
