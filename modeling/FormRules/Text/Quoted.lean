/-
**Quoted texts for messages.**

A quoted text stands between double quotes. A quote, a backslash and the four common control
characters are written with a backslash and a letter, every other invisible character by its code
point, and all other characters as themselves.

* `quote` writes a text, and `quoteSet` several quoted texts between braces.
-/

import FormRules.Text.Hexadecimal
import FormRules.Text.Invisible

namespace FormRules.Text

/-- How a character is written inside a quoted text. -/
def escape (letter : Char) : List Char :=
  if letter = '\x00' then ['\\', '0']
  else if letter = '\t' then ['\\', 't']
  else if letter = '\n' then ['\\', 'n']
  else if letter = '\r' then ['\\', 'r']
  else if letter = '"' then ['\\', '"']
  else if letter = '\\' then ['\\', '\\']
  else if isInvisible letter then "\\u\x7b".toList ++ hexadecimal letter.toNat ++ ['}']
  else [letter]

/-- A text between double quotes, with what cannot be shown escaped. -/
def quote (text : String) : String :=
  String.ofList ('"' :: text.toList.flatMap escape ++ ['"'])

/-- Quoted texts between braces, in the given order. -/
def quoteSet (texts : List String) : String :=
  "\x7b" ++ ", ".intercalate (texts.map quote) ++ "\x7d"

end FormRules.Text
