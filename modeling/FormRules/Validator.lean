/-
**Validation.**

A validator knows a catalog, an error mode and registered checks. It goes through the fields of a
request in order and through the calls of each rule string in order. The first error ends the
validation; failures are collected.

* `Validator.resolve` finds the check of a rule name: a registered one before a built-in one;
* `Validator.make` validates a request;
* `Validator.Builder` builds validators step by step.
-/

import FormRules.Call
import FormRules.Catalog
import FormRules.Report
import FormRules.Request

namespace FormRules

/-- What a rule name stands for. -/
inductive Resolved where
  | builtin (rule : Rule)
  | registered (check : Check)

namespace Resolved

/-- The check itself. -/
def check : Resolved → Check
  | .builtin rule => rule.check
  | .registered check => check

/-- The parameter that the check gets to see: a built-in rule that takes none sees none. -/
def parameter (resolved : Resolved) (written : Option String) : Option String :=
  match resolved with
  | .builtin rule => if rule.takesParameter then written else none
  | .registered _ => written

end Resolved

/-- A validator. Its error mode is its own and not that of a request. -/
structure Validator where
  catalog : Catalog
  mode : ErrorMode
  callbacks : Table Check

namespace Validator

/-- What a rule name stands for. -/
def resolve (validator : Validator) (rule : String) : Option Resolved :=
  match validator.callbacks.get? rule with
  | some check => some (.registered check)
  | none => (Rule.ofName? rule).map .builtin

/-- Whether a rule name stands for a check. -/
def hasRule (validator : Validator) (rule : String) : Bool :=
  (validator.resolve rule).isSome

/-- The template of a rule name: the one of the request before the one of the catalog. -/
def templateFor (validator : Validator) (request : Request) (rule : String) : String :=
  (request.template? rule).getD (validator.catalog.templateFor rule)

/-- What the check of a call gets to see. -/
def inputFor (validator : Validator) (request : Request) (field : String) (call : Call)
    (resolved : Resolved) : CheckInput where
  rule := call.name
  field := field
  value := request.value field
  parameter := resolved.parameter call.parameter
  label := request.labelFor field
  template := validator.templateFor request call.name

/-- Runs the check of a call. -/
def runCall (validator : Validator) (request : Request) (field : String) (call : Call) :
    Except Error (Option Failure) :=
  match validator.resolve call.name with
  | none => .error (.unknownRule field call.name)
  | some resolved => resolved.check (validator.inputFor request field call resolved)

/-- Runs the checks of a field one after the other and adds their failures to a report. -/
def runField (validator : Validator) (request : Request) (report : Report)
    (entry : String × String) : Except Error Report := do
  let calls ← Call.parse entry.1 entry.2
  calls.foldlM (fun report call => do
    match ← validator.runCall request entry.1 call with
    | some failure => return report.push failure
    | none => return report) report

/-- Validates a request. -/
def make (validator : Validator) (request : Request) : Except Error Report :=
  request.rules.entries.foldlM (validator.runField request) (.empty validator.mode)

/-! ### Building validators -/

/-- A validator that is being built. -/
structure Builder where
  catalog : Option Catalog
  mode : ErrorMode
  callbacks : Table Check

namespace Builder

/-- A builder before its first step. -/
def empty : Builder := ⟨none, .simple, .empty⟩

/-- A step of building a validator. -/
inductive Step where
  | mode (mode : ErrorMode)
  /-- A catalog that replaces what was there. -/
  | catalog (catalog : Catalog)
  /-- Templates over the catalog, which is the built-in one if none was given. -/
  | messages (overrides : List (String × String))
  | callback (rule : String) (check : Check)
  /-- All checks of a table. -/
  | callbacks (checks : Table Check)

/-- Carries out a step. -/
def Step.apply (builder : Builder) : Step → Builder
  | .mode chosen => { builder with mode := chosen }
  | .catalog chosen => { builder with catalog := some chosen }
  | .messages overrides =>
    { builder with catalog := some ((builder.catalog.getD .builtin).extend overrides) }
  | .callback name check => { builder with callbacks := builder.callbacks.insert name check }
  | .callbacks checks => { builder with callbacks := builder.callbacks.insertAll checks.entries }

/-- The validator that a builder has built. -/
def finish (builder : Builder) : Validator :=
  ⟨builder.catalog.getD .builtin, builder.mode, builder.callbacks⟩

end Builder

/-- The validator that steps build. -/
def build (steps : List Builder.Step) : Validator :=
  (steps.foldl Builder.Step.apply .empty).finish

/-- The validator with the built-in catalog and checks only. -/
def plain (mode : ErrorMode) : Validator :=
  build [.mode mode]

/-- The validator for a request over a catalog: it has the mode and the checks of the request. -/
def ofRequest (request : Request) (catalog : Catalog) : Validator :=
  build [.catalog catalog, .mode request.mode, .callbacks request.callbacks]

end Validator

/-- Validates a request with its own mode and checks over the built-in catalog. -/
def Request.validate (request : Request) : Except Error Report :=
  (Validator.ofRequest request .builtin).make request

end FormRules
