/-
**Writing JSON.**

A document is written in one line without blanks, or in lines with two blanks of indentation for
each level. In a string the quote, the backslash and the control characters are escaped, the latter
by a letter where JSON has one.

* `compact` and `pretty` write the same tokens in the two layouts.
-/

import FormRules.Json.Basic
import FormRules.Text.Hexadecimal

namespace FormRules.Json

/-! ### Strings -/

/-- How a character is written inside a string. -/
def escape (letter : Char) : List Char :=
  if letter = '"' then ['\\', '"']
  else if letter = '\\' then ['\\', '\\']
  else if letter = '\x08' then ['\\', 'b']
  else if letter = '\t' then ['\\', 't']
  else if letter = '\n' then ['\\', 'n']
  else if letter = '\x0c' then ['\\', 'f']
  else if letter = '\r' then ['\\', 'r']
  else if letter.toNat < 0x20 then
    ['\\', 'u', '0', '0', Text.hexDigit (letter.toNat / 16), Text.hexDigit (letter.toNat % 16)]
  else [letter]

/-- A string in quotes. One that denotes no text is written as half of a surrogate pair, so that it
denotes no text when it is read again. -/
def stringText : Option String → List Char
  | some text => '"' :: text.toList.flatMap escape ++ ['"']
  | none => "\"\\ud800\"".toList

/-! ### Numbers -/

/-- A number as its literal was read. -/
def numberText (literal : Decimal.Literal) : List Char :=
  (if literal.negative then ['-'] else []) ++ literal.whole ++
    (if literal.fraction = [] then [] else '.' :: literal.fraction) ++
    (if literal.exponent = 0 then []
     else 'e' :: (if literal.exponent < 0 then ['-'] else []) ++
      Decimal.digitsOf literal.exponent.natAbs)

/-! ### Values -/

mutual

/-- A document in one line. -/
def compactText : Json → List Char
  | .null => "null".toList
  | .bool true => "true".toList
  | .bool false => "false".toList
  | .number literal => numberText literal
  | .string text => stringText text
  | .array elements => '[' :: compactElements elements ++ [']']
  | .object entries => '\x7b' :: compactEntries entries ++ ['\x7d']

/-- Elements with commas between them. -/
def compactElements : List Json → List Char
  | [] => []
  | [element] => element.compactText
  | element :: rest => element.compactText ++ ',' :: compactElements rest

/-- Entries with commas between them. -/
def compactEntries : List (Option String × Json) → List Char
  | [] => []
  | [(key, value)] => stringText key ++ ':' :: value.compactText
  | (key, value) :: rest =>
    stringText key ++ ':' :: value.compactText ++ ',' :: compactEntries rest

end

/-- A new line that starts with so many levels of indentation. -/
def newLine (level : Nat) : List Char :=
  '\n' :: List.replicate (2 * level) ' '

mutual

/-- A document in lines, the first of which continues a line of the given level. -/
def prettyText (level : Nat) : Json → List Char
  | .array [] => "[]".toList
  | .array elements => '[' :: prettyElements (level + 1) elements ++ newLine level ++ [']']
  | .object [] => "\x7b\x7d".toList
  | .object entries => '\x7b' :: prettyEntries (level + 1) entries ++ newLine level ++ ['\x7d']
  | .null => "null".toList
  | .bool true => "true".toList
  | .bool false => "false".toList
  | .number literal => numberText literal
  | .string text => stringText text

/-- Elements on lines of their own. -/
def prettyElements (level : Nat) : List Json → List Char
  | [] => []
  | [element] => newLine level ++ element.prettyText level
  | element :: rest => newLine level ++ element.prettyText level ++ ',' :: prettyElements level rest

/-- Entries on lines of their own. -/
def prettyEntries (level : Nat) : List (Option String × Json) → List Char
  | [] => []
  | [(key, value)] => newLine level ++ stringText key ++ ": ".toList ++ value.prettyText level
  | (key, value) :: rest =>
    newLine level ++ stringText key ++ ": ".toList ++ value.prettyText level ++
      ',' :: prettyEntries level rest

end

/-- A document in one line. -/
def compact (document : Json) : String :=
  String.ofList document.compactText

/-- A document in indented lines. -/
def pretty (document : Json) : String :=
  String.ofList (document.prettyText 0)

end FormRules.Json
