/-
**Reports.**

A report lists the failures of a validation in the order of the checks. It is written as a JSON
array whose elements have the shape that the error mode asks for.

* `Report.toJson` is the document of a report;
* `Report.forField` are the failures of one field.
-/

import FormRules.Check
import FormRules.ErrorMode
import FormRules.Json.Writer

namespace FormRules

/-- The failures of a validation. -/
structure Report where
  mode : ErrorMode
  failures : List Failure
deriving DecidableEq

/-- A failure in the shape of an error mode. -/
inductive Report.Entry where
  | message (text : String)
  | extended (failure : Failure)
deriving DecidableEq

namespace Report

/-- The report without failures. -/
def empty (mode : ErrorMode) : Report := ⟨mode, []⟩

/-- The report with one more failure at its end. -/
def push (report : Report) (failure : Failure) : Report :=
  { report with failures := report.failures ++ [failure] }

/-- Whether nothing has failed. -/
def isValid (report : Report) : Bool :=
  report.failures.isEmpty

/-- The messages of the failures. -/
def messages (report : Report) : List String :=
  report.failures.map Failure.message

/-- The failures of a field. -/
def forField (report : Report) (field : String) : List Failure :=
  report.failures.filter fun failure => failure.field = field

/-- The failures in the shape of the error mode. -/
def entries (report : Report) : List Entry :=
  report.failures.map fun failure =>
    match report.mode with
    | .simple => .message failure.message
    | .extended => .extended failure

/-- The message of an entry. -/
def Entry.text : Entry → String
  | .message text => text
  | .extended failure => failure.message

/-- An entry as a document. Neither the label nor the parameter of a failure is written. -/
def Entry.toJson : Entry → Json
  | .message text => .ofText text
  | .extended failure => .ofEntries
    [("error", .ofText failure.rule), ("field", .ofText failure.field),
     ("message", .ofText failure.message)]

/-- A report as a document. -/
def toJson (report : Report) : Json :=
  .array (report.entries.map Entry.toJson)

end Report

end FormRules
