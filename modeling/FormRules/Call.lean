/-
**Rule strings.**

A rule string names the checks of a field, as in `required|minLength:5`. Its segments stand between
bars; a segment names a rule, and a colon separates the name from a parameter. Blanks around names,
parameters and segments do not count.

* `Segment.ofRules` cuts a rule string into its segments;
* `Call.parse` reads a rule string, which fails exactly if a segment is blank;
* `Call.text` and `Call.join` write calls as a rule string.
-/

import FormRules.Error
import FormRules.Text.Blank
import FormRules.Text.Split

namespace FormRules

/-- The invocation of a rule by its name. The parameter is a text that only the check itself
interprets. -/
structure Call where
  name : String
  parameter : Option String
deriving DecidableEq

/-- What a segment of a rule string holds. -/
inductive Segment.Kind where
  /-- A name only. -/
  | bare
  /-- A name and a colon. -/
  | parameterized
  /-- Nothing. -/
  | empty
deriving DecidableEq

/-- A segment of a rule string, without the blanks around it. -/
structure Segment where
  kind : Segment.Kind
  text : List Char
deriving DecidableEq

namespace Segment

/-- The separator between the segments of a rule string. -/
def separator : Char := '|'

/-- The separator between a name and its parameter. -/
def parameterMark : Char := ':'

/-- What a text without blanks around it holds. -/
def Kind.ofText (text : List Char) : Kind :=
  if text = [] then .empty
  else if parameterMark ∈ text then .parameterized
  else .bare

/-- The segment that is written as the given text. -/
def ofText (text : List Char) : Segment :=
  let trimmed := Text.trim text
  ⟨.ofText trimmed, trimmed⟩

/-- The segments of a rule string. -/
def ofRules (rules : String) : List Segment :=
  (Text.pieces separator rules.toList).map ofText

/-- The call that a segment with a parameter mark makes. A parameter of blanks counts as none. -/
def split (text : List Char) : Call :=
  let (name, parameter) := (Text.splitFirst parameterMark text).getD (text, [])
  let trimmed := Text.trim parameter
  ⟨String.ofList (Text.trim name),
    if trimmed = [] then none else some (String.ofList trimmed)⟩

/-- The call that a segment makes, `none` if there is nothing in it. -/
def call? (segment : Segment) : Option Call :=
  match segment.kind with
  | .empty => none
  | .bare => some ⟨String.ofList segment.text, none⟩
  | .parameterized => some (split segment.text)

end Segment

namespace Call

/-- The calls that a rule string makes for a field, in order. A blank segment is an error, wherever
it stands. -/
def parse (field rules : String) : Except Error (List Call) :=
  match (Segment.ofRules rules).mapM Segment.call? with
  | some calls => .ok calls
  | none => .error (.emptyRule field rules)

/-- A call as a segment of a rule string. -/
def text (call : Call) : String :=
  match call.parameter with
  | some parameter => call.name ++ ":" ++ parameter
  | none => call.name

/-- Calls as a rule string. -/
def join (calls : List Call) : String :=
  "|".intercalate (calls.map text)

end Call

end FormRules
