/-
**E-mail addresses.**

An address is a local part, an at sign and a domain. The local part is a row of atoms with single
points between them, or anything between quotes; the domain is a row of labels that ends in at
least two letters, or four numbers between brackets.

* `Email.address` is the pattern of addresses;
* `isEmail` decides whether a text is an address.
-/

import FormRules.Pattern

namespace FormRules

namespace Email

open Pattern

/-- The characters that end an atom, blanks aside. -/
def specials : List Char :=
  ['<', '>', '(', ')', '[', ']', '\\', '.', ',', ';', ':', '@', '"']

/-- A character of an atom. -/
def atomLetter : CharSet :=
  ⟨CharSet.rangesOf specials ++ Text.blankRanges, true⟩

/-- Any character of a line. -/
def lineLetter : CharSet :=
  ⟨CharSet.rangesOf ['\n'], true⟩

/-- An ASCII letter of either case. -/
def asciiLetter : CharSet :=
  ⟨[('a'.toNat, 'z'.toNat), ('A'.toNat, 'Z'.toNat)], false⟩

/-- A character of a label: an ASCII letter or digit, or a hyphen. -/
def labelLetter : CharSet :=
  ⟨asciiLetter.ranges ++ [('-'.toNat, '-'.toNat), ('0'.toNat, '9'.toNat)], false⟩

/-- An ASCII digit. -/
def digit : CharSet := .range '0' '9'

/-- Atoms with single points between them. -/
def plainLocal : Pattern :=
  seq (oneOrMore (one atomLetter)) (many (seq (letter '.') (oneOrMore (one atomLetter))))

/-- One or more characters of a line between quotes. -/
def quotedLocal : Pattern :=
  sequence [letter '"', oneOrMore (one lineLetter), letter '"']

/-- One to three digits. -/
def octet : Pattern :=
  seq (one digit) (optional (seq (one digit) (optional (one digit))))

/-- Four numbers between brackets, with points between them. -/
def numericDomain : Pattern :=
  sequence [letter '[', octet, letter '.', octet, letter '.', octet, letter '.', octet, letter ']']

/-- Labels, each followed by a point, and at least two letters. -/
def namedDomain : Pattern :=
  sequence [oneOrMore (seq (oneOrMore (one labelLetter)) (letter '.')),
    one asciiLetter, oneOrMore (one asciiLetter)]

/-- An e-mail address. -/
def address : Pattern :=
  sequence [either plainLocal quotedLocal, letter '@', either numericDomain namedDomain]

end Email

/-- Whether a text is an e-mail address. -/
def isEmail (text : String) : Bool :=
  Email.address.accepts text.toList

end FormRules
