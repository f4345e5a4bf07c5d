/-
**The configuration of a run.**

* `Config.ofArguments` puts the catalog files in order: the one of the user, if there is one, then
  the one of the arguments;
* `Config.loadCatalog` layers them over the built-in catalog.
-/

import FormRules.Catalog
import FormRules.CommandLine.Arguments

namespace FormRules.CommandLine

/-- The path of the user's own catalog, given the directory of the user's configuration. -/
def userCatalogPath (configDirectory : String) : String :=
  configDirectory ++ "/field-validator/messages.toml"

/-- The configuration of a run. -/
structure Config where
  /-- The file of the request; it is read from the standard input otherwise. -/
  requestPath : Option String
  /-- The catalog files, a later one on top of an earlier one. -/
  catalogFiles : List String
  forceExtended : Bool
  listRules : Bool
  pretty : Bool
  logLevel : String
deriving DecidableEq

namespace Config

/-- The configuration that arguments ask for; the path of the user's own catalog is given if it is
a file. -/
def ofArguments (arguments : Arguments) (userCatalog : Option String) : Config where
  requestPath := arguments.request
  catalogFiles := userCatalog.toList ++ arguments.messages.toList
  forceExtended := arguments.extended
  listRules := arguments.listRules
  pretty := arguments.pretty
  logLevel := arguments.logLevel

/-- The built-in catalog with all catalog files layered over it. -/
def loadCatalog (config : Config) (file : String → Option ByteArray) : Except Error Catalog :=
  Catalog.builtin.changed (.loadAll (config.catalogFiles.map fun path => (path, file path)))

end Config

end FormRules.CommandLine
