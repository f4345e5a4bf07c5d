/-
**Errors of configuration.**

A value that fails a check is reported; what is listed here is a mistake in the rules or catalogs,
which ends a validation without a report.

* `Error.message` words an error.
-/

import FormRules.Text.Quoted

namespace FormRules

/-- A mistake in the rules of a request or in a message catalog. -/
inductive Error where
  /-- A rule that is neither built in nor registered. -/
  | unknownRule (field rule : String)
  /-- A rule without the parameter it needs. -/
  | missingParameter (field rule : String)
  /-- A rule whose parameter is not a number. -/
  | invalidParameter (field rule parameter : String)
  /-- A rule string with nothing between two separators. -/
  | emptyRule (field rules : String)
  /-- A catalog file that cannot be read. -/
  | catalogUnreadable (path : String)
  /-- A catalog file whose content is not a message catalog. -/
  | catalogMalformed (path : String)
deriving DecidableEq

/-- The wording of an error. -/
def Error.message : Error → String
  | .unknownRule field rule => "Unknown rule '" ++ rule ++ "' for field '" ++ field ++ "'"
  | .missingParameter field rule =>
    "Rule '" ++ rule ++ "' for field '" ++ field ++ "' requires a parameter"
  | .invalidParameter field rule parameter =>
    "Rule '" ++ rule ++ "' for field '" ++ field ++ "' expects a number, got '" ++ parameter ++ "'"
  | .emptyRule field rules => "Empty rule in '" ++ rules ++ "' for field '" ++ field ++ "'"
  | .catalogUnreadable path => "Failed to read message catalog " ++ Text.quote path
  | .catalogMalformed path => "Failed to parse message catalog " ++ Text.quote path

end FormRules
