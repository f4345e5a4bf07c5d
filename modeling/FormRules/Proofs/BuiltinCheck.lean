/-
**The shape of the built-in checks.**

Every built-in check does the same two things in the same order: it reads its bound, which fails
exactly if the parameter is no number, and then it judges the value under that bound. The label and
the template only word the failure.

* `Rule.bound` and `Rule.fails` are the two halves, and `Rule.check_eq` puts them together;
* `Rule.check_eq_some_iff`: when a check fails, and with which failure;
* `Rule.takesParameter_iff`: the rules with a bound.
-/

import FormRules.Check

namespace FormRules.Rule

/-- The bound of a rule. A rule that takes no parameter has nothing to read. -/
def bound (rule : Rule) (input : CheckInput) : Except Error Binary64 :=
  if rule.takesParameter then input.numericParameter else .ok (.ofNat 0)

/-- Whether a value fails a rule under a bound. -/
def fails (rule : Rule) (bound : Binary64) (value : Value) : Bool :=
  match rule with
  | required => !value.isPresent
  | natural => value.isPresent && !value.isIntegerFrom (.ofNat 0)
  | naturalPositive => value.isPresent && !value.isIntegerFrom (.ofNat 1)
  | numeric => value.isPresent && value.toNumber?.isNone
  | minNumber => value.numberIs fun number => number.lt bound
  | maxNumber => value.numberIs fun number => bound.lt number
  | str => value.isPresent && value.asText?.isNone
  | minLength => value.lengthIs fun length => length.lt bound
  | maxLength => value.lengthIs fun length => bound.lt length
  | validEmail => value.isPresent && !isEmail value.display

/-- **A built-in check reads its bound and then judges the value.** -/
theorem check_eq (rule : Rule) (input : CheckInput) :
    rule.check input =
      (rule.bound input).map fun bound => input.failIf (rule.fails bound input.value) := by
  cases rule <;> rfl

/-- A built-in check fails exactly if it has a bound under which the value fails, and then with the
failure of what it got to see. -/
theorem check_eq_some_iff {rule : Rule} {input : CheckInput} {failure : Failure} :
    rule.check input = .ok (some failure) ↔ ∃ bound, rule.bound input = .ok bound ∧
      rule.fails bound input.value = true ∧ failure = input.fail := by
  rw [check_eq]
  cases read : rule.bound input with
  | error error =>
    constructor
    · intro failed
      cases failed
    · rintro ⟨_, ⟨⟩, _⟩
  | ok bound =>
    constructor
    · intro failed
      have judged : input.failIf (rule.fails bound input.value) = some failure :=
        Except.ok.inj failed
      rw [CheckInput.failIf] at judged
      split at judged
      · next fails => exact ⟨bound, rfl, fails, (Option.some.inj judged).symm⟩
      · cases judged
    · rintro ⟨_, ⟨rfl⟩, fails, rfl⟩
      exact congrArg Except.ok (if_pos fails)

theorem eq_fail_of_check {rule : Rule} {input : CheckInput} {failure : Failure}
    (failed : rule.check input = .ok (some failure)) : failure = input.fail := by
  obtain ⟨_, _, _, worded⟩ := check_eq_some_iff.1 failed
  exact worded

/-- The rules with a bound. -/
theorem takesParameter_iff (rule : Rule) :
    rule.takesParameter = true ↔
      rule.name ∈ ["minNumber", "maxNumber", "minLength", "maxLength"] := by
  cases rule <;> decide

end FormRules.Rule
