/-
**Arguments of the command line.**

Options are read from left to right. An option that takes a value has it after an equals sign or as
the next argument; in the latter case the value is looked at only when the next option or the end of
the arguments comes.

* `Arguments.parse` reads the arguments, and tells why it cannot.
-/

import FormRules.Text.Split

namespace FormRules.CommandLine

/-- What the arguments ask for. -/
structure Arguments where
  /-- The file of the request; it is read from the standard input otherwise. -/
  request : Option String
  /-- A catalog file on top of all others. -/
  messages : Option String
  /-- Whether failures are reported as records in any case. -/
  extended : Bool
  /-- Whether to list the catalog instead of validating. -/
  listRules : Bool
  /-- Whether the report is written in indented lines. -/
  pretty : Bool
  logLevel : String
deriving DecidableEq

/-- Why arguments do not lead to a run. -/
inductive UsageStop where
  | displayHelp
  | displayVersion
  | unknownArgument
  /-- A value is missing, or empty where a path is needed. -/
  | invalidValue
  /-- An option comes twice. -/
  | argumentConflict
  /-- A value is given to an option that takes none. -/
  | tooManyValues
deriving DecidableEq

/-- An option that takes a value. -/
inductive ValueOption where
  | request
  | messages
  | logLevel
deriving DecidableEq

/-- An option that takes no value. -/
inductive FlagOption where
  | extended
  | listRules
  | pretty
  | help
  | version
deriving DecidableEq

/-- The option with a value that has a name. -/
def ValueOption.ofName? (name : String) : Option ValueOption :=
  [("request", .request), ("messages", .messages), ("log-level", .logLevel)].lookup name

/-- The option without a value that has a name. -/
def FlagOption.ofName? (name : String) : Option FlagOption :=
  [("extended", .extended), ("list-rules", .listRules), ("pretty", .pretty), ("help", .help),
   ("version", .version)].lookup name

/-- The option without a value that has a name of one letter. -/
def FlagOption.ofLetter? (letter : Char) : Option FlagOption :=
  if letter = 'h' then some .help
  else if letter = 'V' then some .version
  else none

/-- The form of an argument. -/
inductive Form where
  /-- Two hyphens alone, after which there are no options. -/
  | separator
  /-- A name after two hyphens, with the value after its equals sign if it has one. -/
  | long (name : String) (value : Option String)
  /-- A letter after a hyphen; more letters may follow. -/
  | short (letter : Char)
  /-- Anything else. -/
  | plain (text : String)

/-- The form of an argument. -/
def Form.of (argument : String) : Form :=
  match argument.toList with
  | ['-', '-'] => .separator
  | '-' :: '-' :: rest =>
    match Text.splitFirst '=' rest with
    | some (name, value) => .long (String.ofList name) (some (String.ofList value))
    | none => .long (String.ofList rest) none
  | '-' :: letter :: _ => .short letter
  | _ => .plain argument

/-- What has been read of the arguments. -/
structure Reading where
  request : Option String
  messages : Option String
  logLevel : Option String
  extended : Bool
  listRules : Bool
  pretty : Bool
  /-- The last option that takes its value from the next argument, and that value once it is there.
  It is not looked at yet. -/
  waiting : Option (ValueOption × Option String)
  /-- Whether the separator has been read. -/
  separated : Bool

namespace Reading

/-- Before the first argument. -/
def start : Reading := ⟨none, none, none, false, false, false, none, false⟩

/-- Gives a value to an option that must not have one yet; a path must not be empty. -/
def store (reading : Reading) (option : ValueOption) (value : String) :
    Except UsageStop Reading :=
  match option with
  | .request =>
    if reading.request.isSome then .error .argumentConflict
    else if value = "" then .error .invalidValue
    else .ok { reading with request := some value }
  | .messages =>
    if reading.messages.isSome then .error .argumentConflict
    else if value = "" then .error .invalidValue
    else .ok { reading with messages := some value }
  | .logLevel =>
    if reading.logLevel.isSome then .error .argumentConflict
    else .ok { reading with logLevel := some value }

/-- Looks at the option that is waiting. -/
def settle (reading : Reading) : Except UsageStop Reading :=
  match reading.waiting with
  | none => .ok reading
  | some (_, none) => .error .invalidValue
  | some (option, some value) => { reading with waiting := none }.store option value

/-- Takes an option without a value, which must not come twice. -/
def raise (reading : Reading) : FlagOption → Except UsageStop Reading
  | .help => .error .displayHelp
  | .version => .error .displayVersion
  | .extended =>
    if reading.extended then .error .argumentConflict else .ok { reading with extended := true }
  | .listRules =>
    if reading.listRules then .error .argumentConflict else .ok { reading with listRules := true }
  | .pretty =>
    if reading.pretty then .error .argumentConflict else .ok { reading with pretty := true }

/-- Takes an argument with two hyphens. -/
def takeLong (reading : Reading) (name : String) (value : Option String) :
    Except UsageStop Reading :=
  match ValueOption.ofName? name, FlagOption.ofName? name, value with
  | some option, _, some attached => do (← reading.settle).store option attached
  | some option, _, none => do return { ← reading.settle with waiting := some (option, none) }
  | none, some _, some _ => .error .tooManyValues
  | none, some flag, none => do (← reading.settle).raise flag
  | none, none, _ => .error .unknownArgument

/-- Takes an argument with one hyphen. Both letters that are known end the reading. -/
def takeShort (reading : Reading) (letter : Char) : Except UsageStop Reading :=
  match FlagOption.ofLetter? letter with
  | some flag => do (← reading.settle).raise flag
  | none => .error .unknownArgument

/-- Takes an argument that can only be a value. -/
def takePlain (reading : Reading) (text : String) : Except UsageStop Reading :=
  match reading.waiting with
  | some (option, none) => .ok { reading with waiting := some (option, some text) }
  | _ => .error .unknownArgument

/-- Takes one argument. -/
def take (reading : Reading) (argument : String) : Except UsageStop Reading :=
  if reading.separated then .error .unknownArgument
  else
    match Form.of argument with
    | .separator => .ok { reading with separated := true }
    | .long name value => reading.takeLong name value
    | .short letter => reading.takeShort letter
    | .plain text => reading.takePlain text

/-- The arguments that were read. -/
def finish (reading : Reading) : Arguments where
  request := reading.request
  messages := reading.messages
  extended := reading.extended
  listRules := reading.listRules
  pretty := reading.pretty
  logLevel := reading.logLevel.getD "warn"

end Reading

/-- Reads the arguments of the command line. -/
def Arguments.parse (arguments : List String) : Except UsageStop Arguments := do
  let reading ← arguments.foldlM Reading.take .start
  return (← reading.settle).finish

end FormRules.CommandLine
