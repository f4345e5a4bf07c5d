/-
**Catalog files.**

A catalog file is a TOML document with the tables `catalog`, which names the catalog, and
`messages`, which holds a template per rule. Both may be missing, and what else there is does not
matter.

* `CatalogFile.ofToml?` finds a catalog file in a root table;
* `CatalogFile.read?` reads the text of a file.
-/

import FormRules.Dictionary
import FormRules.Toml.Reader

namespace FormRules

/-- What a catalog says about itself. -/
structure CatalogFile.Description where
  name : String
  description : Option String
deriving DecidableEq

/-- The content of a catalog file. -/
structure CatalogFile where
  description : Option CatalogFile.Description
  messages : Dictionary String

namespace CatalogFile

open Toml (Value Entries get?)

/-- The text of a string. -/
def asText? : Value → Option String
  | .string text => some text
  | _ => none

/-- Whether all numbers are in range in the values under other keys than the given ones. -/
def othersInRange (known : List String) (entries : Entries) : Bool :=
  entries.all fun entry => known.contains entry.1 || entry.2.isInRange

/-- An entry that may be missing but must fit if it is there. -/
def optionally? {α : Type} (read : Value → Option α) : Option Value → Option (Option α)
  | none => some none
  | some value => (read value).map some

/-- What a catalog says about itself: a table with a name and perhaps a description, or an array
that starts with the two. -/
def describe? : Value → Option Description
  | .table _ entries => do
    let name ← asText? (← get? entries "name")
    let description ← optionally? asText? (get? entries "description")
    if othersInRange ["name", "description"] entries then some ⟨name, description⟩ else none
  | .array _ (.string name :: .string description :: _) => some ⟨name, some description⟩
  | _ => none

/-- The key under which a date or time that stands in the place of a table holds its text. -/
def momentKey : String := "$__toml_private_datetime"

/-- The templates of a table, all of which are strings. A date or time counts as a table of one
text. -/
def messages? : Value → Option (List (String × String))
  | .table _ entries => entries.mapM fun entry => (asText? entry.2).map fun text => (entry.1, text)
  | .moment text => some [(momentKey, text)]
  | _ => none

/-- The catalog file that a root table is. -/
def ofToml? (root : Entries) : Option CatalogFile := do
  let description ← optionally? describe? (get? root "catalog")
  let messages ← optionally? messages? (get? root "messages")
  if othersInRange ["catalog", "messages"] root then
    return ⟨description, .ofEntries (messages.getD [])⟩
  else
    none

/-- The catalog file that a text is. -/
def read? (text : String) : Option CatalogFile :=
  (Toml.read? text).bind ofToml?

end CatalogFile

end FormRules
