/-
**Keys and strings of TOML.**

Strings stand between quotes or between apostrophes, on one line or between three of them on
several. Between quotes a backslash starts an escape. The readers start after the opening quotes
and return the text with what follows the closing ones.

* `readBasic?`, `readLiteral?`, `readLongBasic?` and `readLongLiteral?` read the four kinds;
* `readKey?` reads a dotted key, whose parts are no more than `deepest`.
-/

import FormRules.Text.Hexadecimal

namespace FormRules.Toml

/-! ### Characters -/

/-- Whether a character may stand in a comment or string: control characters other than the
tabulator may not. -/
def isPlain (letter : Char) : Bool :=
  letter = '\t' || (0x20 ≤ letter.toNat && letter.toNat != 0x7F)

/-- Whether a character is a blank inside a line. -/
def isSpace (letter : Char) : Bool :=
  letter = ' ' || letter = '\t'

/-- A text without its leading blanks. -/
def skipSpace (text : List Char) : List Char :=
  text.dropWhile isSpace

/-- A text without the blanks, line ends and comments at its start. Inside a comment only its end
is looked for. -/
def skipLines? (inComment : Bool) : List Char → Option (List Char)
  | [] => some []
  | '\n' :: rest => skipLines? false rest
  | '\r' :: '\n' :: rest => skipLines? false rest
  | letter :: rest =>
    if inComment then (if isPlain letter then skipLines? true rest else none)
    else if letter = '#' then skipLines? true rest
    else if isSpace letter then skipLines? false rest
    else some (letter :: rest)

/-! ### Escapes -/

/-- How much of an escape has been read. -/
inductive Escape where
  /-- Not inside an escape. -/
  | outside
  /-- After the backslash. -/
  | begun
  /-- Inside a code point with so many digits to come. -/
  | digits (left value : Nat)
  /-- After a backslash and blanks that must lead to a line end. -/
  | lineEnd
  /-- After a backslash and a line end; blanks and line ends are skipped. -/
  | skipping
deriving DecidableEq

/-- The character that a backslash and one letter stand for. -/
def shortEscape? (letter : Char) : Option Char :=
  if letter = '"' ∨ letter = '\\' then some letter
  else if letter = 'b' then some '\x08'
  else if letter = 'e' then some '\x1b'
  else if letter = 'f' then some '\x0c'
  else if letter = 'n' then some '\n'
  else if letter = 'r' then some '\r'
  else if letter = 't' then some '\t'
  else none

/-- The number of hexadecimal digits after a backslash and a letter. -/
def digitCount? (letter : Char) : Option Nat :=
  if letter = 'x' then some 2
  else if letter = 'u' then some 4
  else if letter = 'U' then some 8
  else none

/-- The character with a code point, `none` if no character has it. -/
def charAt? (point : Nat) : Option Char :=
  if point.isValidChar then some (.ofNat point) else none

/-- One letter of an escape: the character that the escape stands for once it is complete, and what
is read of it now. -/
def Escape.step? (escape : Escape) (letter : Char) : Option (Option Char × Escape) :=
  match escape with
  | .begun =>
    match digitCount? letter with
    | some count => some (none, .digits count 0)
    | none => (shortEscape? letter).map fun meant => (some meant, .outside)
  | .digits left value =>
    (Text.hexValue? letter).bind fun digit =>
      if left = 1 then (charAt? (16 * value + digit)).map fun meant => (some meant, .outside)
      else some (none, .digits (left - 1) (16 * value + digit))
  | _ => none

/-! ### Strings -/

/-- A string between quotes on one line. -/
def readBasic? (escape : Escape) : List Char → Option (List Char × List Char)
  | [] => none
  | letter :: rest =>
    if escape = .outside then
      if letter = '"' then some ([], rest)
      else if letter = '\\' then readBasic? .begun rest
      else if isPlain letter then
        (readBasic? .outside rest).map fun (text, left) => (letter :: text, left)
      else none
    else
      match escape.step? letter with
      | some (some meant, next) =>
        (readBasic? next rest).map fun (text, left) => (meant :: text, left)
      | some (none, next) => readBasic? next rest
      | none => none

/-- A string between apostrophes on one line. -/
def readLiteral? : List Char → Option (List Char × List Char)
  | [] => none
  | letter :: rest =>
    if letter = '\'' then some ([], rest)
    else if isPlain letter then
      (readLiteral? rest).map fun (text, left) => (letter :: text, left)
    else none

/-- What a run of closing quotes at the start of a text leaves: up to two quotes before the closing
three belong to the string. -/
def closing? (mark : Char) (text : List Char) : Option (List Char × List Char) :=
  let run := (text.takeWhile (· = mark)).length
  if run < 3 then none
  else some (List.replicate (min run 5 - 3) mark, text.drop (min run 5))

/-- A text without a line end at its start. -/
def skipFirstLineEnd : List Char → List Char
  | '\n' :: rest => rest
  | '\r' :: '\n' :: rest => rest
  | text => text

/-- A string between three quotes. A backslash at the end of a line takes away the line end and all
blanks and line ends that follow. -/
def readLongBasic? (escape : Escape) : List Char → Option (List Char × List Char)
  | [] => none
  | '\r' :: '\n' :: rest =>
    if escape = .outside then
      (readLongBasic? .outside rest).map fun (text, left) => ('\r' :: '\n' :: text, left)
    else if escape = .begun ∨ escape = .lineEnd ∨ escape = .skipping then
      readLongBasic? .skipping rest
    else none
  | letter :: rest =>
    if (escape = .begun ∨ escape = .lineEnd ∨ escape = .skipping) ∧ letter = '\n' then
      readLongBasic? .skipping rest
    else if escape = .skipping ∧ isSpace letter then
      readLongBasic? .skipping rest
    else if (escape = .begun ∨ escape = .lineEnd) ∧ isSpace letter then
      readLongBasic? .lineEnd rest
    else if escape = .outside ∨ escape = .skipping then
      match closing? '"' (letter :: rest) with
      | some (quotes, left) => some (quotes, left)
      | none =>
        if letter = '\\' then readLongBasic? .begun rest
        else if isPlain letter ∨ letter = '\n' then
          (readLongBasic? .outside rest).map fun (text, left) => (letter :: text, left)
        else none
    else
      match escape.step? letter with
      | some (some meant, next) =>
        (readLongBasic? next rest).map fun (text, left) => (meant :: text, left)
      | some (none, next) => readLongBasic? next rest
      | none => none

/-- A string between three apostrophes. -/
def readLongLiteral? : List Char → Option (List Char × List Char)
  | [] => none
  | '\r' :: '\n' :: rest =>
    (readLongLiteral? rest).map fun (text, left) => ('\r' :: '\n' :: text, left)
  | letter :: rest =>
    match closing? '\'' (letter :: rest) with
    | some (marks, left) => some (marks, left)
    | none =>
      if isPlain letter ∨ letter = '\n' then
        (readLongLiteral? rest).map fun (text, left) => (letter :: text, left)
      else none

/-- A string of any kind with its opening quotes. -/
def readString? : List Char → Option (List Char × List Char)
  | '"' :: '"' :: '"' :: rest => readLongBasic? .outside (skipFirstLineEnd rest)
  | '"' :: rest => readBasic? .outside rest
  | '\'' :: '\'' :: '\'' :: rest => readLongLiteral? (skipFirstLineEnd rest)
  | '\'' :: rest => readLiteral? rest
  | _ => none

/-! ### Keys -/

/-- Whether a character may stand in a key without quotes. -/
def isBareKey (letter : Char) : Bool :=
  letter.isAlphanum || letter = '_' || letter = '-'

/-- One part of a key. -/
def readKeyPart? : List Char → Option (List Char × List Char)
  | '"' :: rest => readBasic? .outside rest
  | '\'' :: rest => readLiteral? rest
  | text =>
    match text.takeWhile isBareKey with
    | [] => none
    | part => some (part, text.dropWhile isBareKey)

/-- The parts of a dotted key, with the blanks before and after it. The fuel bounds their number. -/
def readKeyParts? : Nat → List Char → Option (List String × List Char)
  | 0, _ => none
  | fuel + 1, text => do
    let (part, afterPart) ← readKeyPart? (skipSpace text)
    match skipSpace afterPart with
    | '.' :: rest =>
      let (parts, left) ← readKeyParts? fuel rest
      return (String.ofList part :: parts, left)
    | left => return ([String.ofList part], left)

/-- How deep a document may be nested by brackets, and also by the parts of a single key. -/
def deepest : Nat := 80

/-- A dotted key: the parts before the last one and that part. There are at most `deepest` parts. -/
def readKey? (text : List Char) : Option (List String × String × List Char) := do
  let (parts, left) ← readKeyParts? (text.length + 1) text
  if parts.length ≤ deepest then
    return (parts.dropLast, ← parts.getLast?, left)
  else
    none

end FormRules.Toml
