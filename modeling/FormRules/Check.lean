/-
**Checks.**

A check looks at one field under one rule. It passes, fails with a failure to report, or stops with
an error when the rule string itself is wrong. A value that is not present passes every built-in
check but `required`.

* `Rule.check` is the check of a built-in rule;
* `CheckInput.fail` is the failure of a check, with its message.
-/

import FormRules.Email
import FormRules.Error
import FormRules.Rule
import FormRules.Template
import FormRules.Value

namespace FormRules

/-- What a check gets to see. -/
structure CheckInput where
  /-- The name of the rule as the rule string has it. -/
  rule : String
  field : String
  value : Value
  parameter : Option String
  /-- The name that messages use for the field. -/
  label : String
  /-- The template of the message. -/
  template : String

/-- A failed check. -/
structure Failure where
  rule : String
  field : String
  label : String
  message : String
  parameter : Option String
deriving DecidableEq

/-- A check passes with `none` and fails with a failure. -/
abbrev Check := CheckInput → Except Error (Option Failure)

namespace CheckInput

/-- The failure of the check at hand. -/
def fail (input : CheckInput) : Failure where
  rule := input.rule
  field := input.field
  label := input.label
  message := Template.render input.template input.label input.parameter
  parameter := input.parameter

/-- The failure of the check at hand if it has failed. -/
def failIf (input : CheckInput) (failed : Bool) : Option Failure :=
  if failed then some input.fail else none

/-- The parameter as a number. -/
def numericParameter (input : CheckInput) : Except Error Binary64 :=
  match input.parameter with
  | none => .error (.missingParameter input.field input.rule)
  | some parameter =>
    match parseNumber parameter.toList with
    | some number => .ok number
    | none => .error (.invalidParameter input.field input.rule parameter)

end CheckInput

namespace Value

/-- Whether an integer prefix exists and the value does not count as a number below the bound. A
value that is no number as a whole is never below. -/
def isIntegerFrom (value : Value) (bound : Binary64) : Bool :=
  value.toIntegerPrefix?.isSome && !value.toNumber?.any (·.lt bound)

/-- Whether the value is present and its number has a property. -/
def numberIs (value : Value) (property : Binary64 → Bool) : Bool :=
  value.isPresent && value.toNumber?.any property

/-- Whether the value is present and the length of its text has a property. -/
def lengthIs (value : Value) (property : Binary64 → Bool) : Bool :=
  value.isPresent && value.length?.any fun length => property (.ofNat length)

end Value

/-- The check of a built-in rule. A bound is read before the value is looked at, so a wrong bound is
an error whatever the value. -/
def Rule.check : Rule → Check
  | .required, input => .ok (input.failIf !input.value.isPresent)
  | .natural, input =>
    .ok (input.failIf (input.value.isPresent && !input.value.isIntegerFrom (.ofNat 0)))
  | .naturalPositive, input =>
    .ok (input.failIf (input.value.isPresent && !input.value.isIntegerFrom (.ofNat 1)))
  | .numeric, input =>
    .ok (input.failIf (input.value.isPresent && input.value.toNumber?.isNone))
  | .minNumber, input => do
    let bound ← input.numericParameter
    return input.failIf (input.value.numberIs fun number => number.lt bound)
  | .maxNumber, input => do
    let bound ← input.numericParameter
    return input.failIf (input.value.numberIs fun number => bound.lt number)
  | .str, input =>
    .ok (input.failIf (input.value.isPresent && input.value.asText?.isNone))
  | .minLength, input => do
    let bound ← input.numericParameter
    return input.failIf (input.value.lengthIs fun length => length.lt bound)
  | .maxLength, input => do
    let bound ← input.numericParameter
    return input.failIf (input.value.lengthIs fun length => bound.lt length)
  | .validEmail, input =>
    .ok (input.failIf (input.value.isPresent && !isEmail input.value.display))

end FormRules
