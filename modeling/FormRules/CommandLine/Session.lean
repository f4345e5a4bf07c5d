/-
**The whole program.**

A command line either leads to a run or stops before one. What is left behind is the exit code, the
output and what stands on the standard error: the notes of the run, and the error if there is one.

* `Session.ofConfig` runs a configuration;
* `Session.run` runs a command line.
-/

import FormRules.CommandLine.Log

namespace FormRules.CommandLine

/-- What the program leaves behind. -/
structure Session where
  exitCode : UInt8
  output : String
  /-- What is written to the standard error. -/
  complaint : String

namespace Session

/-- The name and version of the program. -/
def versionText : String := "fvalidate 0.1.0\n"

/-- The description of the options. -/
def helpText : String :=
  "Validate form fields against rule strings\n\nUsage: fvalidate [OPTIONS]\n\nOptions:\n" ++
  "      --request <REQUEST>      JSON validation request (defaults to stdin)\n" ++
  "      --messages <MESSAGES>    TOML file with [messages] overrides\n" ++
  "      --extended               Force \x7berror, field, message\x7d error records\n" ++
  "      --list-rules             Print the effective message catalog and exit\n" ++
  "      --pretty                 Pretty-print the JSON response\n" ++
  "      --log-level <LOG_LEVEL>  Log level (trace, debug, info, warn, error) [default: warn]\n" ++
  "  -h, --help                   Print help\n" ++
  "  -V, --version                Print version\n"

/-- What stops before a run leave behind. -/
def ofStop : UsageStop → Session
  | .displayHelp => ⟨0, helpText, ""⟩
  | .displayVersion => ⟨0, versionText, ""⟩
  | .unknownArgument => ⟨2, "", "error: unexpected argument\n"⟩
  | .invalidValue => ⟨2, "", "error: a value is required\n"⟩
  | .argumentConflict => ⟨2, "", "error: an option cannot be used multiple times\n"⟩
  | .tooManyValues => ⟨2, "", "error: unexpected value\n"⟩

/-- The exit code of an outcome. -/
def exitCodeOf : Outcome → UInt8
  | .valid => 0
  | .invalid => 1

/-- What a run leaves behind, given what its log says. -/
def ofRun (log : String) (run : Run) : Session :=
  match run.result with
  | .ok outcome => ⟨exitCodeOf outcome, run.output, log⟩
  | .error error => ⟨2, run.output, log ++ "Error: " ++ error.explanation ++ "\n"⟩

/-- Runs a configuration. -/
def ofConfig (config : Config) (surroundings : Surroundings) : Session :=
  ofRun (logText config surroundings) (execute config surroundings)

/-- Runs a command line. -/
def run (arguments : List String) (userCatalog : Option String) (surroundings : Surroundings) :
    Session :=
  match Arguments.parse arguments with
  | .error stop => ofStop stop
  | .ok parsed => ofConfig (.ofArguments parsed userCatalog) surroundings

end Session

end FormRules.CommandLine
