/-
**Built-in rules as JSON documents.**

A rule is written as its name. It is read from its name, or from an object with its name as the only
key and nothing under it.
-/

import FormRules.Json.Reader
import FormRules.Json.Writer
import FormRules.Rule

namespace FormRules.Rule

/-- A rule as a document. -/
def toJson (rule : Rule) : Json :=
  .ofText rule.name

/-- The rule that a document is. -/
def ofJson? : Json → Option Rule
  | .string name => name.bind ofName?
  | .object [(name, .null)] => name.bind ofName?
  | _ => none

/-- The rule that a text is. -/
def read? (text : String) : Option Rule :=
  (Json.read? text).bind ofJson?

end FormRules.Rule
