/-
**The log of a run.**

A run notes what it does, and the configuration says which notes are shown. The notes stop where the
run stops with an error.

* `LogSetting.ofText` reads the setting: level words between commas, the last of which counts;
* `Config.notes` are all notes of a run, and `logText` shows those that the setting asks for.
-/

import FormRules.CommandLine.Run

namespace FormRules.CommandLine

/-! ### Settings -/

/-- How important a note is, from the setting that shows none to the least important notes. -/
inductive LogLevel where
  | off
  | error
  | warn
  | info
  | debug
  | trace
deriving DecidableEq

namespace LogLevel

/-- Every level, the less important ones last. -/
def all : List LogLevel := [off, error, warn, info, debug, trace]

/-- The word for a level. -/
def word : LogLevel → String
  | off => "off"
  | error => "error"
  | warn => "warn"
  | info => "info"
  | debug => "debug"
  | trace => "trace"

/-- The level that a word names, in letters of either case. -/
def ofWord? (word : List Char) : Option LogLevel :=
  all.find? fun level => level.word.toList = word.map Char.toLower

/-- Whether a setting shows the notes of a level. -/
def shows (setting level : LogLevel) : Bool :=
  all.idxOf level ≤ all.idxOf setting

end LogLevel

/-- Which notes are shown. -/
structure LogSetting where
  level : LogLevel
  /-- The parts of the setting that make no sense. -/
  refused : List String

namespace LogSetting

/-- Takes one part of a setting. A name, with or without a level after an equals sign, speaks of
the notes of another program. -/
def take (setting : LogSetting) (part : List Char) : LogSetting :=
  let refuse (text : List Char) : LogSetting :=
    { setting with refused := setting.refused ++ [String.ofList text] }
  match Text.pieces '=' part with
  | [word] =>
    match LogLevel.ofWord? word with
    | some level => { setting with level := level }
    | none => setting
  | [_, word] =>
    let trimmed := Text.trim word
    if trimmed = [] ∨ (LogLevel.ofWord? trimmed).isSome then setting else refuse trimmed
  | _ => refuse part

/-- The setting that a text makes. -/
def ofText (text : String) : LogSetting :=
  let parts := (Text.pieces ',' text.toList).map Text.trim
  (parts.filter (!·.isEmpty)).foldl take ⟨.error, []⟩

end LogSetting

/-! ### Notes -/

/-- A note of a run. -/
structure Note where
  level : LogLevel
  text : String
deriving DecidableEq

/-- The notes on a catalog file that has been read. -/
def fileNotes (path : String) (file : CatalogFile) : List Note :=
  (file.description.toList.map fun description =>
    ⟨.debug, "applying message catalog '" ++ description.name ++ "'"⟩) ++
  ((file.messages.toList.filter fun entry => (Rule.ofName? entry.1).isNone).map fun entry =>
    ⟨.debug, "catalog entry '" ++ entry.1 ++ "' does not name a built-in rule"⟩) ++
  [⟨.info, "Loaded message catalog: " ++ Text.quote path⟩]

/-- The notes on catalog files, up to the first that cannot be used. -/
def filesNotes (file : String → Option ByteArray) : List String → List Note
  | [] => []
  | path :: rest =>
    match ((file path).bind String.fromUTF8?).bind CatalogFile.read? with
    | some content => fileNotes path content ++ filesNotes file rest
    | none => []

/-- The note on a parameter that a built-in rule does not take. -/
def parameterNotes (field : String) (call : Call) : Resolved → List Note
  | .builtin rule =>
    if rule.takesParameter then []
    else call.parameter.toList.map fun parameter =>
      ⟨.debug, "ignoring parameter '" ++ parameter ++ "' of rule '" ++ rule.name ++
        "' on field '" ++ field ++ "'"⟩
  | .registered _ => []

/-- The notes on the calls of a field, and whether all of them were carried out. -/
def callsNotes (validator : Validator) (request : Request) (field : String) :
    List Call → List Note × Bool
  | [] => ([], true)
  | call :: rest =>
    let first := ((validator.resolve call.name).map (parameterNotes field call)).getD []
    match validator.runCall request field call with
    | .error _ => (first, false)
    | .ok failure =>
      let failed := failure.toList.map fun _ =>
        ⟨.debug, "field '" ++ field ++ "' failed '" ++ call.name ++ "'"⟩
      let (later, finished) := callsNotes validator request field rest
      (first ++ failed ++ later, finished)

/-- The notes on fields with their rule strings, and whether all of them were validated. -/
def fieldsNotes (validator : Validator) (request : Request) :
    List (String × String) → List Note × Bool
  | [] => ([], true)
  | (field, rules) :: rest =>
    let first : Note :=
      ⟨.trace, "parsing rules for '" ++ field ++ "': " ++ Text.quote rules⟩
    match Call.parse field rules with
    | .error _ => ([first], false)
    | .ok calls =>
      match callsNotes validator request field calls with
      | (notes, false) => (first :: notes, false)
      | (notes, true) =>
        let (later, finished) := fieldsNotes validator request rest
        (first :: notes ++ later, finished)

/-- The notes on the validation of a request. -/
def requestNotes (validator : Validator) (request : Request) : List Note :=
  (fieldsNotes validator request request.rules.entries).1 ++
    match validator.make request with
    | .error _ => []
    | .ok report =>
      let failures := toString report.failures.length
      [⟨.debug, "validated " ++ toString request.rules.size ++ " field(s), " ++ failures ++
          " failure(s)"⟩,
        ⟨.info, failures ++ " failure(s)"⟩]

/-- The notes of a run. -/
def Config.notes (config : Config) (surroundings : Surroundings) : List Note :=
  filesNotes surroundings.file config.catalogFiles ++
    match config.loadCatalog surroundings.file, readRequest config surroundings with
    | .ok catalog, .ok request =>
      if config.listRules then [] else requestNotes (.ofRequest request catalog) request
    | _, _ => []

/-! ### Showing notes -/

/-- A note on a line of its own. -/
def Note.line (note : Note) : String :=
  "[" ++ note.level.word.toUpper ++ "] " ++ note.text ++ "\n"

/-- What a run shows of its notes, after the parts of the setting that are not used. -/
def logText (config : Config) (surroundings : Surroundings) : String :=
  let setting := LogSetting.ofText config.logLevel
  String.join
    ((setting.refused.map fun part =>
      "warning: invalid logging spec '" ++ part ++ "', ignoring it\n") ++
    ((config.notes surroundings).filter fun note => setting.level.shows note.level).map Note.line)

end FormRules.CommandLine
