/-
**Error modes.**

Failures are reported as plain messages or as records that also name the rule and the field.
-/

namespace FormRules

/-- The shape in which failures are reported. -/
inductive ErrorMode where
  | simple
  | extended
deriving DecidableEq

namespace ErrorMode

/-- The mode that a flag selects: only the word `extended` selects the extended mode. -/
def ofFlag : Option String → ErrorMode
  | some flag => if flag = "extended" then extended else simple
  | none => simple

/-- The name of a mode. -/
def name : ErrorMode → String
  | simple => "simple"
  | extended => "extended"

end ErrorMode

end FormRules
