/-
**TOML values and the building of tables.**

A document is a list of statements: assignments and table headers. Carrying them out one after the
other builds the root table. Each table remembers how it came about, since that decides what may be
added to it later.

* `within?` goes down a path of keys and edits the table at its end;
* `assign?` adds a value under a dotted key, `openTable?` and `openElement?` carry out headers;
* `build?` carries out all statements of a document, `none` if one of them is not allowed.
-/

import FormRules.Binary64.Nearest

namespace FormRules.Toml

/-- How a table came about. -/
inductive Origin where
  /-- By a header of its own; the root table counts as such. -/
  | header
  /-- By the header of a table inside it. -/
  | implied
  /-- By a dotted key, or by the header of a table inside it before a dotted key went through it. -/
  | dotted
  /-- Between braces; such a table is complete. -/
  | inline
deriving DecidableEq

/-- A TOML value. Integers and floats are kept exactly; a float that is not finite is `none`, and so
is a word that is read as an integer but denotes no number. -/
inductive Value where
  | string (text : String)
  | integer (value : Option Int)
  | float (literal : Option Decimal.Literal)
  | boolean (value : Bool)
  /-- A date, a time or both, in canonical form. -/
  | moment (text : String)
  /-- An array; one that headers build holds nothing but tables. -/
  | array (builtByHeaders : Bool) (elements : List Value)
  | table (origin : Origin) (entries : List (String × Value))

/-- The entries of a table, in the order in which their keys appear first. -/
abbrev Entries := List (String × Value)

/-- A statement of a document. A key is given by the keys before its last part and that part. -/
inductive Statement where
  | assign (path : List String) (key : String) (value : Value)
  | table (path : List String) (key : String)
  | element (path : List String) (key : String)

/-! ### Editing tables -/

/-- The entries with the value under a key replaced by an edited one, or with a new last entry. -/
def edit? (key : String) (change : Option Value → Option Value) : Entries → Option Entries
  | [] => (change none).map fun value => [(key, value)]
  | (name, value) :: rest =>
    if name = key then
      (change (some value)).map fun changed => (name, changed) :: rest
    else
      (edit? key change rest).map ((name, value) :: ·)

/-- Whether a dotted key may go through a table. -/
def Origin.isOpenToDots : Origin → Bool
  | .implied | .dotted => true
  | .header | .inline => false

/-- How a table has come about once a key has gone through it: a dotted key claims it. -/
def Origin.through (dots : Bool) (origin : Origin) : Origin :=
  if dots then .dotted else origin

/-- Edits the table at the end of a path. Missing tables on the way are created; of an array that
headers build the last table is taken. A dotted key goes through tables only that are open to it,
and leaves them to dotted keys from then on. -/
def within? (dots : Bool) (path : List String) (change : Origin → Entries → Option Entries)
    (origin : Origin) (entries : Entries) : Option Entries :=
  match path with
  | [] => change origin entries
  | key :: path =>
    entries |> edit? key fun
      | none =>
        let created := if dots then Origin.dotted else .implied
        (within? dots path change created []).map (.table created)
      | some (.table origin inner) =>
        if origin = .inline || (dots && !origin.isOpenToDots) then none
        else
          let claimed := origin.through dots
          (within? dots path change claimed inner).map (.table claimed)
      | some (.array true elements) =>
        match elements.getLast? with
        | some (.table origin inner) =>
          (within? dots path change origin inner).map fun changed =>
            .array true (elements.dropLast ++ [.table origin changed])
        | _ => none
      | some _ => none

/-- Adds a value under a dotted key. The table that takes it must be the one at hand or one that
belongs to dotted keys, and must not have the key yet. -/
def assign? (path : List String) (key : String) (value : Value) :
    Origin → Entries → Option Entries :=
  within? true path fun origin entries =>
    if (origin = .dotted) = path.isEmpty then none
    else entries |> edit? key fun
      | none => some value
      | some _ => none

/-- Carries out a table header: the table is created, or becomes one with a header of its own if
only the headers of inner tables have implied it so far. -/
def openTable? (path : List String) (key : String) : Origin → Entries → Option Entries :=
  within? false path fun _ entries =>
    entries |> edit? key fun
      | none => some (.table .header [])
      | some (.table .implied inner) => some (.table .header inner)
      | some _ => none

/-- Carries out the header of an array of tables: a further empty table is appended. -/
def openElement? (path : List String) (key : String) : Origin → Entries → Option Entries :=
  within? false path fun _ entries =>
    entries |> edit? key fun
      | none => some (.array true [.table .header []])
      | some (.array true elements) => some (.array true (elements ++ [.table .header []]))
      | some _ => none

/-! ### Carrying out statements -/

/-- The root table built so far, and the path of the table that takes assignments. -/
structure Building where
  current : List String
  root : Entries

/-- Carries out one statement. -/
def Building.step? (state : Building) : Statement → Option Building
  | .assign path key value =>
    (within? false state.current (assign? path key value) .header state.root).map fun root =>
      ⟨state.current, root⟩
  | .table path key => (openTable? path key .header state.root).map fun root =>
      ⟨path ++ [key], root⟩
  | .element path key => (openElement? path key .header state.root).map fun root =>
      ⟨path ++ [key], root⟩

/-- The root table that statements build. -/
def build? (statements : List Statement) : Option Entries :=
  (statements.foldlM Building.step? ⟨[], []⟩).map Building.root

/-- The table that assignments between braces build. -/
def buildInline? (assignments : List (List String × String × Value)) : Option Value :=
  (assignments.foldlM (fun entries (path, key, value) => assign? path key value .header entries)
    []).map (.table .inline)

/-! ### Ranges -/

mutual

/-- Whether all numbers inside a value are in range: integers denote a number that fits 128 bits
with or without a sign, and finite floats round to finite numbers. -/
def Value.isInRange : Value → Bool
  | .integer value => value.any fun number =>
    -(Nat.pow 2 127 : Int) ≤ number && number < (Nat.pow 2 128 : Int)
  | .float (some literal) => (Magnitude.ofLiteral? literal).isSome
  | .array _ elements => areInRange elements
  | .table _ entries => entriesAreInRange entries
  | _ => true

/-- Whether all numbers inside the elements of an array are in range. -/
def areInRange : List Value → Bool
  | [] => true
  | element :: rest => element.isInRange && areInRange rest

/-- Whether all numbers inside the entries of a table are in range. -/
def entriesAreInRange : List (String × Value) → Bool
  | [] => true
  | (_, value) :: rest => value.isInRange && entriesAreInRange rest

end

/-- The value under a key. -/
def get? (entries : Entries) (key : String) : Option Value :=
  entries.lookup key

end FormRules.Toml
