/-
**Message catalogs.**

A catalog holds a message template per rule name. It starts from the templates of the built-in
rules, and later templates replace earlier ones.

* `Catalog.get?_set`: what a catalog holds after a template was set;
* `Catalog.entries` lists the built-in rules first, then all other names;
* `Catalog.Change` is what is done to a catalog; one that fails leaves a catalog behind too;
* `Catalog.changed` is the catalog after a change that succeeds;
* `Catalog.perform` carries out one operation, and `Catalog.after` a whole history.
-/

import FormRules.Catalog.File
import FormRules.Error
import FormRules.Rule
import FormRules.Template

namespace FormRules

/-- A message template per rule name. -/
structure Catalog where
  templates : Dictionary String
deriving DecidableEq

namespace Catalog

/-- The catalog of the built-in rules. -/
def builtin : Catalog :=
  ⟨.ofEntries (Rule.all.map fun rule => (rule.name, rule.defaultTemplate))⟩

/-- The template of a rule name. -/
def get? (catalog : Catalog) (rule : String) : Option String :=
  catalog.templates.get? rule

/-- The template of a rule name, the fallback if there is none. -/
def templateFor (catalog : Catalog) (rule : String) : String :=
  (catalog.get? rule).getD fallbackTemplate

/-- The catalog with a template for a rule name. -/
def set (catalog : Catalog) (rule template : String) : Catalog :=
  ⟨catalog.templates.insert rule template⟩

/-- The catalog with templates set in order. -/
def extend (catalog : Catalog) (overrides : List (String × String)) : Catalog :=
  overrides.foldl (fun catalog entry => catalog.set entry.1 entry.2) catalog

/-- The number of rule names with a template. -/
def size (catalog : Catalog) : Nat :=
  catalog.templates.size

/-- The rule names with their templates: the built-in rules in their order, then all other names in
the order of their code points. -/
def entries (catalog : Catalog) : List (String × String) :=
  (Rule.all.filterMap fun rule => (catalog.get? rule.name).map fun template =>
    (rule.name, template)) ++
  catalog.templates.toList.filter fun entry => (Rule.ofName? entry.1).isNone

/-- The catalog with the templates of a file set. -/
def applyFile (catalog : Catalog) (file : CatalogFile) : Catalog :=
  catalog.extend file.messages.toList

/-! ### Changes -/

/-- What is done to a catalog and may fail. What was done before it fails stays done. -/
abbrev Change := EStateM Error Catalog Unit

namespace Change

/-- Reads a text and sets its templates; the path is for the error only. -/
def applyToml (path text : String) : Change := do
  let some file := CatalogFile.read? text | throw (.catalogMalformed path)
  modify (·.applyFile file)

/-- Reads a file and sets its templates. The bytes are those at the path, if it can be read; they
must be UTF-8. -/
def load (path : String) (bytes : Option ByteArray) : Change := do
  let some text := bytes.bind String.fromUTF8? | throw (.catalogUnreadable path)
  applyToml path text

/-- Loads files, given by their paths and bytes, up to the first that cannot be used. -/
def loadAll (files : List (String × Option ByteArray)) : Change :=
  forM files fun file => load file.1 file.2

end Change

/-- The catalog after a change, if it does not fail. -/
def changed (catalog : Catalog) (change : Change) : Except Error Catalog :=
  match change.run catalog with
  | .ok _ changed => .ok changed
  | .error error _ => .error error

/-- The catalog with the templates of a text set; the path is for the error only. -/
def applyToml (catalog : Catalog) (path text : String) : Except Error Catalog :=
  catalog.changed (.applyToml path text)

/-! ### Histories -/

/-- An operation on a catalog. -/
inductive Operation where
  | set (rule template : String)
  | extend (overrides : List (String × String))
  | applyFile (file : CatalogFile)
  | applyToml (path text : String)
  | load (path : String) (bytes : Option ByteArray)

/-- What an operation does. -/
def Operation.change : Operation → Change
  | .set rule template => modify (·.set rule template)
  | .extend overrides => modify (·.extend overrides)
  | .applyFile file => modify (·.applyFile file)
  | .applyToml path text => .applyToml path text
  | .load path bytes => .load path bytes

/-- The catalog that an operation leaves, and the error if it fails. -/
def perform (catalog : Catalog) (operation : Operation) : Catalog × Option Error :=
  match operation.change.run catalog with
  | .ok _ changed => (changed, none)
  | .error error left => (left, some error)

/-- The catalog after a history of operations. -/
def after (catalog : Catalog) (operations : List Operation) : Catalog :=
  operations.foldl (fun catalog operation => (catalog.perform operation).1) catalog

/-! ### Lookup -/

/-- The template that was set is found under its name, and nothing changes under other names. -/
theorem get?_set (catalog : Catalog) (rule template other : String) :
    (catalog.set rule template).get? other =
      if other = rule then some template else catalog.get? other := by
  by_cases same : other = rule
  · simp [get?, set, same]
  · simp [get?, set, Std.ExtTreeMap.getElem?_insert, same, Ne.symm same]

end Catalog

end FormRules
