/-
**A run of the program.**

A run reads the catalogs and a request, validates it and writes the report. What it reads is given
as a function from paths to contents, so a run is a function of its surroundings.

* `readRequest` and `validate` are what a run does with the request;
* `Steps` are the steps of a run, which write and may fail;
* `execute` runs a configuration.
-/

import FormRules.CommandLine.Config
import FormRules.Request.Document
import FormRules.Validator

namespace FormRules.CommandLine

/-- What a run can read. -/
structure Surroundings where
  /-- The content of the file at a path, if it can be read. -/
  file : String → Option ByteArray
  /-- The standard input. -/
  input : ByteArray

/-- How a run ends. -/
inductive Outcome where
  /-- Every check has passed, or the catalog was listed. -/
  | valid
  /-- Some check has failed. -/
  | invalid
deriving DecidableEq

/-- Why a run ends without an outcome. -/
inductive RunError where
  /-- A catalog file cannot be used. -/
  | catalog (error : Error)
  /-- The file of the request is not a text. -/
  | requestFile (path : String)
  /-- The standard input is not a text. -/
  | requestInput
  /-- The text of the request is not a request. -/
  | requestMalformed
  /-- The rules of the request are wrong. -/
  | validation (error : Error)
deriving DecidableEq

namespace RunError

/-- The mistake in rules or catalogs behind an error, if that is its cause. -/
def cause? : RunError → Option Error
  | .catalog error => some error
  | .validation error => some error
  | _ => none

/-- The wording of what has failed. -/
def context : RunError → String
  | .catalog error => error.message
  | .requestFile path => "Failed to read request " ++ path
  | .requestInput => "Failed to read request from stdin"
  | .requestMalformed => "Invalid validation request"
  | .validation _ => "Validation aborted"

/-- The wording of what has failed and why. -/
def explanation : RunError → String
  | .validation error => (RunError.validation error).context ++ ": " ++ error.message
  | other => other.context

end RunError

/-- What a run has written and how it has ended. -/
structure Run where
  output : String
  result : Except RunError Outcome

/-- The outcome that a report stands for. -/
def Outcome.ofReport (report : Report) : Outcome :=
  if report.isValid then valid else invalid

/-- The text of the request. -/
def requestText (config : Config) (surroundings : Surroundings) : Except RunError String :=
  match config.requestPath with
  | some path =>
    match (surroundings.file path).bind String.fromUTF8? with
    | some text => .ok text
    | none => .error (.requestFile path)
  | none =>
    match String.fromUTF8? surroundings.input with
    | some text => .ok text
    | none => .error .requestInput

/-- The request of a run, in the mode that the configuration may force. -/
def readRequest (config : Config) (surroundings : Surroundings) : Except RunError Request := do
  let text ← requestText config surroundings
  match Request.read? text with
  | some request =>
    return if config.forceExtended then { request with mode := .extended } else request
  | none => .error .requestMalformed

/-- The report of a run over a catalog. -/
def validate (config : Config) (surroundings : Surroundings) (catalog : Catalog) :
    Except RunError Report := do
  let request ← readRequest config surroundings
  ((Validator.ofRequest request catalog).make request).mapError .validation

/-! ### Steps -/

/-- Steps of a run, over what is written so far. It stays written if a later step fails. -/
abbrev Steps := EStateM RunError String

namespace Steps

/-- Writes a text behind what is written so far. -/
def write (text : String) : Steps Unit :=
  modify (· ++ text)

/-- Writes the lines of a catalog: on each of them a rule name, a tabulator and a template. -/
def writeCatalog (catalog : Catalog) : Steps Unit :=
  forM catalog.entries fun entry => write (entry.1 ++ "\t" ++ entry.2 ++ "\n")

/-- Writes a report and a line end. -/
def writeReport (report : Report) (pretty : Bool) : Steps Unit := do
  write (if pretty then report.toJson.pretty else report.toJson.compact)
  write "\n"

/-- All steps of a run. -/
def ofConfig (config : Config) (surroundings : Surroundings) : Steps Outcome := do
  let catalog ← liftExcept ((config.loadCatalog surroundings.file).mapError RunError.catalog)
  if config.listRules then
    writeCatalog catalog
    return .valid
  let report ← liftExcept (validate config surroundings catalog)
  writeReport report config.pretty
  return .ofReport report

end Steps

/-- Runs a configuration on an empty output. -/
def execute (config : Config) (surroundings : Surroundings) : Run :=
  match (Steps.ofConfig config surroundings).run "" with
  | .ok outcome output => ⟨output, .ok outcome⟩
  | .error error output => ⟨output, .error error⟩

end FormRules.CommandLine
