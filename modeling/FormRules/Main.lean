/-
**The program.**

The files that a run may ask for are read first; everything else is a function of them.
-/

import FormRules.CommandLine.Session

open FormRules.CommandLine

/-- The content of a file, if it can be read. -/
def contentOf? (path : String) : IO (Option ByteArray) := do
  try
    return some (← IO.FS.readBinFile path)
  catch _ =>
    return none

/-- The directory of the user's configuration. -/
def configDirectory? : IO (Option String) := do
  match ← IO.getEnv "XDG_CONFIG_HOME", ← IO.getEnv "HOME" with
  | some directory, home =>
    if directory.startsWith "/" then return some directory
    else return home.map (· ++ "/.config")
  | none, home => return home.map (· ++ "/.config")

/-- Whether there is a file at a path, which need not be readable. A directory cannot be read as a
file, and where nothing is found there is no path to resolve. -/
def isFile (path : String) : IO Bool := do
  try
    discard (IO.FS.realPath path)
    discard (IO.FS.readBinFile path)
    return true
  catch
    | .noFileOrDirectory .. => return false
    | .inappropriateType .. => return false
    | _ => return true

/-- The path of the user's own catalog if it is a file. One that cannot be read is kept, so the run
fails to load it. -/
def userCatalog? : IO (Option String) := do
  let some directory ← configDirectory? | return none
  let path := userCatalogPath directory
  return if ← isFile path then some path else none

/-- The contents of the files that a configuration names. -/
def contentsOf (config : Config) : IO (List (String × Option ByteArray)) :=
  (config.catalogFiles ++ config.requestPath.toList).mapM fun path => do
    return (path, ← contentOf? path)

/-- Everything that a configuration can read. The standard input is read only if it is needed. -/
def surroundingsOf (config : Config) : IO Surroundings := do
  let contents ← contentsOf config
  let input ← if config.requestPath.isSome || config.listRules then pure ByteArray.empty
    else (← IO.getStdin).readBinToEnd
  return ⟨fun path => (contents.lookup path).join, input⟩

/-- Writes what a session leaves behind. -/
def deliver (session : Session) : IO UInt32 := do
  IO.print session.output
  IO.eprint session.complaint
  return session.exitCode.toUInt32

/-- Runs the program on its arguments. -/
def main (arguments : List String) : IO UInt32 := do
  match Arguments.parse arguments with
  | .error stop => deliver (.ofStop stop)
  | .ok parsed =>
    let config := Config.ofArguments parsed (← userCatalog?)
    deliver (.ofConfig config (← surroundingsOf config))
