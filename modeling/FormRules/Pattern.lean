/-
**Patterns of characters.**

A pattern describes a set of texts. Whether a text belongs to it is decided one character at a
time: what may follow after a character is again a pattern.

* `Pattern.after` is the pattern of what may follow a character;
* `Pattern.accepts` decides whether a whole text fits a pattern.
-/

import FormRules.Text.Blank

namespace FormRules

/-- A set of characters, given by the ranges of code points inside or outside of it. -/
structure CharSet where
  ranges : List (Nat × Nat)
  /-- Whether the ranges are those outside. -/
  complement : Bool
deriving DecidableEq

namespace CharSet

/-- Whether a character belongs to a set. -/
def contains (set : CharSet) (letter : Char) : Bool :=
  Text.inRanges set.ranges letter.toNat != set.complement

/-- The ranges that hold just the characters of a list. -/
def rangesOf (letters : List Char) : List (Nat × Nat) :=
  letters.map fun letter => (letter.toNat, letter.toNat)

/-- The characters from one to another. -/
def range (first last : Char) : CharSet :=
  ⟨[(first.toNat, last.toNat)], false⟩

/-- Just one character. -/
def only (letter : Char) : CharSet :=
  ⟨rangesOf [letter], false⟩

end CharSet

/-- A pattern of characters. -/
inductive Pattern where
  /-- No text at all. -/
  | nothing
  /-- The empty text. -/
  | done
  /-- One character of a set. -/
  | one (set : CharSet)
  /-- A text of the first pattern, then one of the second. -/
  | seq (first second : Pattern)
  /-- A text of either pattern. -/
  | either (first second : Pattern)
  /-- Any number of texts of a pattern, one after the other. -/
  | many (repeated : Pattern)
deriving DecidableEq

namespace Pattern

/-! ### Building patterns -/

/-- A pattern one or more times. -/
def oneOrMore (pattern : Pattern) : Pattern :=
  seq pattern (many pattern)

/-- A pattern or the empty text. -/
def optional (pattern : Pattern) : Pattern :=
  either pattern done

/-- Exactly one given character. -/
def letter (character : Char) : Pattern :=
  one (.only character)

/-- Patterns one after the other. -/
def sequence (patterns : List Pattern) : Pattern :=
  patterns.foldr seq done

/-- Two patterns in sequence, without trivial parts. -/
def seqOf (first second : Pattern) : Pattern :=
  if first = nothing ∨ second = nothing then nothing
  else if first = done then second
  else if second = done then first
  else seq first second

/-- One of two patterns, without trivial or repeated parts. -/
def eitherOf (first second : Pattern) : Pattern :=
  if first = nothing ∨ first = second then second
  else if second = nothing then first
  else either first second

/-! ### Matching -/

/-- Whether the empty text fits a pattern. -/
def acceptsEmpty : Pattern → Bool
  | nothing => false
  | done => true
  | one _ => false
  | seq first second => first.acceptsEmpty && second.acceptsEmpty
  | either first second => first.acceptsEmpty || second.acceptsEmpty
  | many _ => true

/-- The pattern of what may follow a character. -/
def after (character : Char) : Pattern → Pattern
  | nothing => nothing
  | done => nothing
  | one set => if set.contains character then done else nothing
  | seq first second =>
    let inFirst := seqOf (first.after character) second
    if first.acceptsEmpty then eitherOf inFirst (second.after character) else inFirst
  | either first second => eitherOf (first.after character) (second.after character)
  | many repeated => seqOf (repeated.after character) (many repeated)

/-- Whether a whole text fits a pattern. -/
def accepts (pattern : Pattern) (text : List Char) : Bool :=
  (text.foldl (fun left character => left.after character) pattern).acceptsEmpty

end Pattern

end FormRules
