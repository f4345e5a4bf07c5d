/-
**Reading TOML.**

A text is read into statements, which are then carried out. The grammar is that of TOML 1.1: tables
between braces may span lines and end in a comma, and times may leave out their seconds. Arrays and
tables between braces may be nested `deepest` deep.

* `readValue?` reads a value;
* `read?` reads a whole text and builds its root table.
-/

import FormRules.Toml.Scalar
import FormRules.Toml.Text

namespace FormRules.Toml

/-! ### Values -/

/-- What follows the sign between a key and its value. -/
def afterEquals? : List Char → Option (List Char)
  | '=' :: rest => some rest
  | _ => none

mutual

/-- A value. The room says how many more levels may be opened; the fuel bounds the calls. -/
def readValue? : (fuel room : Nat) → List Char → Option (Value × List Char)
  | 0, _, _ => none
  | _ + 1, 0, '[' :: _ => none
  | _ + 1, 0, '\x7b' :: _ => none
  | fuel + 1, room + 1, '[' :: rest =>
    (readElements? fuel room rest).map fun (elements, left) => (.array false elements, left)
  | fuel + 1, room + 1, '\x7b' :: rest => do
    let (assignments, left) ← readAssignments? fuel room rest
    return (← buildInline? assignments, left)
  | _ + 1, _, '"' :: rest =>
    (readString? ('"' :: rest)).map fun (letters, left) => (.string (String.ofList letters), left)
  | _ + 1, _, '\'' :: rest =>
    (readString? ('\'' :: rest)).map fun (letters, left) => (.string (String.ofList letters), left)
  | _ + 1, _, text =>
    let (word, left) := readWord text
    (readScalar? word).map fun value => (value, left)

/-- The elements of an array up to its closing bracket. -/
def readElements? : (fuel room : Nat) → List Char → Option (List Value × List Char)
  | 0, _, _ => none
  | fuel + 1, room, text => do
    match ← skipLines? false text with
    | ']' :: left => return ([], left)
    | first =>
      let (element, afterElement) ← readValue? fuel room first
      match ← skipLines? false afterElement with
      | ',' :: rest =>
        let (elements, left) ← readElements? fuel room rest
        return (element :: elements, left)
      | ']' :: left => return ([element], left)
      | _ => none

/-- The assignments of a table up to its closing brace. Lines may end anywhere but inside a dotted
key. -/
def readAssignments? :
    (fuel room : Nat) → List Char → Option (List (List String × String × Value) × List Char)
  | 0, _, _ => none
  | fuel + 1, room, text => do
    match ← skipLines? false text with
    | '\x7d' :: left => return ([], left)
    | first =>
      let (path, key, afterKey) ← readKey? first
      let start ← afterEquals? (← skipLines? false afterKey)
      let (value, afterValue) ← readValue? fuel room (← skipLines? false start)
      match ← skipLines? false afterValue with
      | ',' :: rest =>
        let (assignments, left) ← readAssignments? fuel room rest
        return ((path, key, value) :: assignments, left)
      | '\x7d' :: left => return ([(path, key, value)], left)
      | _ => none

end

/-! ### Documents -/

/-- The statement at the start of a text, and what follows it. -/
def readStatement? : List Char → Option (Statement × List Char)
  | '[' :: '[' :: rest => do
    let (path, key, afterKey) ← readKey? rest
    match afterKey with
    | ']' :: ']' :: left => return (.element path key, left)
    | _ => none
  | '[' :: rest => do
    let (path, key, afterKey) ← readKey? rest
    match afterKey with
    | ']' :: left => return (.table path key, left)
    | _ => none
  | text => do
    let (path, key, afterKey) ← readKey? text
    let start := skipSpace (← afterEquals? afterKey)
    let (value, left) ← readValue? (2 * start.length + 1) deepest start
    return (.assign path key value, left)

/-- Whether nothing but blanks and a comment stands before the next line end. -/
def lineIsDone (text : List Char) : Bool :=
  match skipSpace text with
  | [] => true
  | '#' :: _ => true
  | '\n' :: _ => true
  | '\r' :: '\n' :: _ => true
  | _ => false

/-- The statements of a text, each on a line of its own. The fuel bounds their number. -/
def readStatements? : Nat → List Char → Option (List Statement)
  | 0, _ => none
  | fuel + 1, text => do
    match ← skipLines? false text with
    | [] => return []
    | start =>
      let (statement, left) ← readStatement? start
      if lineIsDone left then
        return statement :: (← readStatements? fuel left)
      else
        none

/-- A text without the byte order mark at its start. -/
def skipMark : List Char → List Char
  | '\ufeff' :: rest => rest
  | text => text

/-- The root table of a text, `none` if the text is not TOML. -/
def read? (text : String) : Option Entries := do
  let letters := skipMark text.toList
  build? (← readStatements? (letters.length + 1) letters)

end FormRules.Toml
