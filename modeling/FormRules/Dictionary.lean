/-
**Dictionaries.**

A dictionary holds one value per key and nothing else: two dictionaries with the same value under
every key are equal, and its entries are listed in the order of the code points of the keys.
-/

import Std.Data.ExtTreeMap

namespace FormRules

/-- A value for each of finitely many keys. -/
abbrev Dictionary (α : Type) := Std.ExtTreeMap String α

namespace Dictionary

variable {α : Type}

/-- The dictionary of entries that are inserted in order. -/
def ofEntries (entries : List (String × α)) : Dictionary α :=
  entries.foldl (fun dictionary entry => dictionary.insert entry.1 entry.2) ∅

end Dictionary

end FormRules
