/-
**Absent values.**

A field may be left out. A value that is not present fails the rule that requires one and passes
every other built-in rule, so the records of such a field are those of the segments that require it,
one for each. A value that is present never fails this rule.

* `Value.Absent` lists the ways in which a field can be left out, and `Value.absent_iff` compares
  the list with what the checks ask for;
* `Rule.fails_of_absent`: the only rule that an absent value fails;
* `Validator.failure?_segmentOutcome_of_absent`: what a segment reports about an absent value;
* `Validator.absent_fails_required_only` is the result for whole validations.
-/

import FormRules.Proofs.Validation.Fields
import FormRules.Proofs.Validation.Records

namespace FormRules

/-! ### Values that are not present -/

/-- **A field is left out**: it has no entry, or nothing, false, an empty text, one of the two zeros
or no number is filled in. -/
inductive Value.Absent : Option Value → Prop
  | missing : Absent none
  | null : Absent (some .null)
  | unticked : Absent (some (.bool false))
  | emptyText : Absent (some (.text ""))
  | zero (negative : Bool) : Absent (some (.number (.zero negative)))
  | nan : Absent (some (.number .nan))

/-- A field is left out exactly if its value is not present. -/
theorem Value.absent_iff {entry : Option Value} :
    Absent entry ↔ (entry.getD .null).isPresent = false := by
  constructor
  · rintro ⟨⟩ <;> rfl
  · intro notPresent
    cases entry with
    | none => exact .missing
    | some value =>
      rw [Option.getD_some] at notPresent
      cases value with
      | null => exact .null
      | bool truth =>
        cases notPresent
        exact .unticked
      | text content =>
        rw [isPresent, decide_eq_false_iff_not, not_not] at notPresent
        rw [notPresent]
        exact .emptyText
      | number amount =>
        cases amount with
        | nan => exact .nan
        | infinite negative => cases notPresent
        | finite negative magnitude =>
          have nothing : magnitude.units = 0 := by
            simpa [isPresent, Binary64.isZero, Binary64.isNan] using notPresent
          obtain rfl : magnitude = .zero := Magnitude.ext_units nothing
          exact .zero negative

/-- **An absent value fails the rule that requires one and no other rule**, whatever the bound. -/
theorem Rule.fails_of_absent {value : Value} (absent : value.isPresent = false) (rule : Rule)
    (bound : Binary64) : rule.fails bound value = decide (rule = required) := by
  cases rule <;> simp [fails, Value.numberIs, Value.lengthIs, absent]

/-- What a built-in check that does not stop comes to on an absent value. -/
theorem Rule.failure?_check_of_absent {rule : Rule} {input : CheckInput}
    (absent : input.value.isPresent = false) (runs : Outcome.error? (rule.check input) = none) :
    Outcome.failure? (rule.check input) = input.failIf (rule = required) := by
  rw [check_eq] at runs ⊢
  cases read : rule.bound input with
  | error error =>
    rw [read] at runs
    cases runs
  | ok bound => exact congrArg input.failIf (fails_of_absent absent rule bound)

/-! ### Segments -/

namespace Validator

variable {validator : Validator} {request : Request} {field : String}

theorem get?_callbacks_of_bare (bare : validator.callbacks = .empty) (name : String) :
    validator.callbacks.get? name = none := by
  rw [bare]
  rfl

/-- **What a segment reports about an absent value**: the failure of the required value if it
requires one, and nothing otherwise. -/
theorem failure?_segmentOutcome_of_absent (bare : validator.callbacks = .empty)
    (absent : (request.value field).isPresent = false) {text : List Char}
    (runs : Outcome.error? (validator.segmentOutcome request field text) = none) :
    Outcome.failure? (validator.segmentOutcome request field text) =
      if Segment.nameOf text = "required" then
        some (validator.checkInput request field "required" none).fail
      else none := by
  have unregistered := get?_callbacks_of_bare bare (Segment.nameOf text)
  cases found : Rule.ofName? (Segment.nameOf text) with
  | none =>
    rw [segmentOutcome_of_unknown unregistered found] at runs
    cases runs
  | some rule =>
    have name := Rule.name_of_ofName? found
    rw [segmentOutcome_of_builtin unregistered found] at runs ⊢
    rw [Rule.failure?_check_of_absent absent runs]
    by_cases requires : Segment.nameOf text = "required"
    · obtain rfl : rule = .required := Rule.name_injective (name.trans requires)
      rw [if_pos requires, requires]
      rfl
    · have other : rule ≠ .required := by
        rintro rfl
        exact requires name.symm
      rw [if_neg requires, decide_eq_false other]
      rfl

/-- A segment does not report a required value that is present. -/
theorem rule_ne_required_of_segmentOutcome (bare : validator.callbacks = .empty)
    (present : (request.value field).isPresent = true) {text : List Char} {failure : Failure}
    (failed : validator.segmentOutcome request field text = .ok (some failure)) :
    failure.rule ≠ "required" := by
  have unregistered := get?_callbacks_of_bare bare (Segment.nameOf text)
  cases found : Rule.ofName? (Segment.nameOf text) with
  | none =>
    rw [segmentOutcome_of_unknown unregistered found] at failed
    cases failed
  | some rule =>
    rw [segmentOutcome_of_builtin unregistered found] at failed
    obtain ⟨bound, _, fails, rfl⟩ := Rule.check_eq_some_iff.1 failed
    intro requires
    obtain rfl : rule = .required :=
      Rule.name_injective ((Rule.name_of_ofName? found).trans requires)
    have passes : Rule.required.fails bound (request.value field) = false := by
      rw [Rule.fails, present]
      rfl
    exact Bool.eq_false_iff.1 passes fails

/-! ### Fields -/

/-- The outcomes of a field in a validation that succeeds are those of its segments, none of which
stops. -/
theorem fieldOutcomes_of_make {report : Report} (made : validator.make request = .ok report)
    {rules : String} (known : request.rules.get? field = some rules) :
    validator.fieldOutcomes request (field, rules) =
        (Segment.texts rules).map (validator.segmentOutcome request field) ∧
      ∀ text ∈ Segment.texts rules,
        Outcome.error? (validator.segmentOutcome request field text) = none := by
  obtain ⟨clean, _⟩ := make_eq_ok_iff.1 made
  have member := Table.get?_eq_some_iff.1 known
  have segmentwise : validator.fieldOutcomes request (field, rules) =
      (Segment.texts rules).map (validator.segmentOutcome request field) :=
    if_neg (not_blank_of_firstError?_eq_none clean member)
  refine ⟨segmentwise, fun text inRules => ?_⟩
  refine Outcome.firstError?_eq_none_iff.1 clean _ (List.mem_flatMap.2 ⟨_, member, ?_⟩)
  rw [segmentwise]
  exact List.mem_map_of_mem inRules

/-- **Absent values fail the required ones and nothing else.** Without registered checks, a field
that is left out has one record for each segment of its rule string that requires it, in order,
whatever the other segments are. A field that is filled in has no such record. -/
theorem absent_fails_required_only (bare : validator.callbacks = .empty) {report : Report}
    (made : validator.make request = .ok report) {rules : String}
    (known : request.rules.get? field = some rules) :
    (Value.Absent (request.data.get? field) →
      report.forField field =
        ((Segment.texts rules).filter fun text => Segment.nameOf text = "required").map fun _ =>
          (validator.checkInput request field "required" none).fail) ∧
    (¬ Value.Absent (request.data.get? field) →
      ∀ failure ∈ report.forField field, failure.rule ≠ "required") := by
  have named : ∀ entry ∈ validator.callbacks.entries, Check.NamesField entry.2 := by
    rw [bare]
    rintro _ ⟨⟩
  obtain ⟨segmentwise, runs⟩ := fieldOutcomes_of_make made known
  rw [forField_eq_of_make named made, known, Option.elim_some, segmentwise, Value.absent_iff]
  constructor
  · intro absent
    rw [Outcome.failures, List.filterMap_map]
    refine (List.filterMap_congr fun text inRules =>
      failure?_segmentOutcome_of_absent bare absent (runs text inRules)).trans ?_
    rw [← List.filterMap_eq_map, List.filterMap_filter]
    simp
  · intro present failure member
    obtain ⟨text, _, failed⟩ := List.mem_map.1 (Outcome.mem_failures_iff.1 member)
    exact rule_ne_required_of_segmentOutcome bare (Bool.not_eq_false _ ▸ present) failed

/-- A field without a value, which a negative lower bound and a negative length would refuse if it
counted as zero or as empty, and a field with a text that is too short. -/
theorem absent_fails_required_only_missing :
    let validator := plain .simple
    let rules := "minNumber:0.5|required|maxLength:-2| required : 3 "
    let request := Request.build
      [.rule "age" rules, .field "name" (.text "Al") "required|minLength:3"]
    validator.callbacks = .empty ∧ ∃ report, validator.make request = .ok report ∧
      request.rules.get? "age" = some rules ∧ Value.Absent (request.data.get? "age") ∧
      report.forField "age" =
        List.replicate 2 ⟨"required", "age", "age", "The age is required!", none⟩ ∧
      request.rules.get? "name" = some "required|minLength:3" ∧
      ¬ Value.Absent (request.data.get? "name") ∧
      ∀ failure ∈ report.forField "name", failure.rule ≠ "required" := by
  intro validator rules request
  have bare : validator.callbacks = .empty := rfl
  obtain ⟨report, made⟩ : ∃ report, validator.make request = .ok report :=
    exists_make_eq_ok_iff.2 (by decide +kernel)
  have known : request.rules.get? "age" = some rules := rfl
  have absent : Value.Absent (request.data.get? "age") := .missing
  have knownToo : request.rules.get? "name" = some "required|minLength:3" := rfl
  have present : ¬ Value.Absent (request.data.get? "name") := by
    rw [Value.absent_iff]
    decide
  refine ⟨bare, report, made, known, absent, ?_, knownToo, present,
    (absent_fails_required_only bare made knownToo).2 present⟩
  rw [(absent_fails_required_only bare made known).1 absent]
  decide +kernel

end Validator

end FormRules
