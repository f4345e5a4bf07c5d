/-
**Faults in rule strings.**

Without registered checks, whether a validation stops and with which error depends on the rule
strings alone. A fault is found in the text of the rule strings, without any value, label or
template.

* `Segment.WellFormed` are the segments that can always be carried out;
* `Segment.fault?`, `entryFault?` and `firstFault?` are the fault of a segment, of a field and of a
  whole request;
* `Validator.firstError?_outcomes`: the first error of a validation is the first fault;
* `Validator.faults_depend_on_rules` is the result for whole validations.
-/

import FormRules.Proofs.BuiltinCheck
import FormRules.Proofs.Validation.Scan

namespace FormRules

namespace Segment

/-- The names of the rules that have a bound. -/
def boundedNames : List String :=
  ["minNumber", "maxNumber", "minLength", "maxLength"]

/-- A segment that can be carried out whatever the value: it is not blank, its name is built in,
and if the rule has a bound, the parameter is there and is a number. -/
structure WellFormed (text : List Char) : Prop where
  solid : ¬ Blank text
  known : ∃ rule : Rule, rule.name = nameOf text
  bounded : nameOf text ∈ boundedNames →
    ∃ parameter, parameterOf text = some parameter ∧ (parseNumber parameter.toList).isSome

/-- What is wrong with a segment that is not blank. -/
def fault? (field : String) (text : List Char) : Option Error :=
  let name := nameOf text
  if Rule.ofName? name = none then
    some (.unknownRule field name)
  else if name ∈ boundedNames then
    match parameterOf text with
    | none => some (.missingParameter field name)
    | some parameter =>
      if (parseNumber parameter.toList).isSome then none
      else some (.invalidParameter field name parameter)
  else
    none

end Segment

/-- What is wrong with the rule string of a field: a blank segment before anything else, then the
leftmost segment with a fault. -/
def entryFault? (entry : String × String) : Option Error :=
  if ∃ text ∈ Segment.texts entry.2, Segment.Blank text then
    some (.emptyRule entry.1 entry.2)
  else
    (Segment.texts entry.2).findSome? (Segment.fault? entry.1)

/-- What is wrong with the first field that has a fault. -/
def firstFault? (entries : List (String × String)) : Option Error :=
  entries.findSome? entryFault?

/-! ### Faults and well-formed segments -/

/-- A segment that is not blank is well-formed exactly if it has no fault. -/
theorem Segment.fault?_eq_none_iff {text : List Char} (solid : ¬ Segment.Blank text)
    (field : String) : Segment.fault? field text = none ↔ Segment.WellFormed text := by
  rw [fault?]
  constructor
  · intro sound
    split at sound
    · cases sound
    · next found =>
      refine ⟨solid, Rule.ofName?_ne_none_iff.1 found, fun hasBound => ?_⟩
      rw [if_pos hasBound] at sound
      split at sound
      · cases sound
      · next parameter written =>
        split at sound
        · next number => exact ⟨parameter, written, number⟩
        · cases sound
  · rintro ⟨_, found, bounded⟩
    rw [if_neg (Rule.ofName?_ne_none_iff.2 found)]
    split
    · next hasBound =>
      obtain ⟨parameter, written, number⟩ := bounded hasBound
      simp only [written, number, if_true]
    · rfl

/-- A rule string has no fault exactly if its segments are well-formed. -/
theorem entryFault?_eq_none_iff (entry : String × String) :
    entryFault? entry = none ↔ ∀ text ∈ Segment.texts entry.2, Segment.WellFormed text := by
  rw [entryFault?]
  split
  · next blank =>
    obtain ⟨text, member, blank⟩ := blank
    constructor
    · intro impossible
      cases impossible
    · intro sound
      exact absurd blank (sound text member).solid
  · next solid =>
    rw [List.findSome?_eq_none_iff]
    refine forall₂_congr fun text member => ?_
    exact Segment.fault?_eq_none_iff (fun blank => solid ⟨text, member, blank⟩) entry.1

/-- A request has no fault exactly if every segment of every rule string is well-formed. -/
theorem firstFault?_eq_none_iff (entries : List (String × String)) :
    firstFault? entries = none ↔
      ∀ entry ∈ entries, ∀ text ∈ Segment.texts entry.2, Segment.WellFormed text := by
  rw [firstFault?, List.findSome?_eq_none_iff]
  exact forall₂_congr fun entry _ => entryFault?_eq_none_iff entry

/-! ### Errors are faults -/

/-- A built-in check stops exactly with the error of its bound, whatever the value. -/
theorem Rule.error?_check (rule : Rule) (input : CheckInput) :
    Outcome.error? (rule.check input) =
      match rule.bound input with
      | .error error => some error
      | .ok _ => none := by
  rw [check_eq]
  cases rule.bound input <;> rfl

namespace Validator

variable {validator : Validator}

/-- Without registered checks, a segment stops exactly with its fault. -/
theorem error?_segmentOutcome (bare : validator.callbacks = .empty) (request : Request)
    (field : String) (text : List Char) :
    Outcome.error? (validator.segmentOutcome request field text) =
      Segment.fault? field text := by
  have unregistered : validator.callbacks.get? (Segment.nameOf text) = none := by
    rw [bare]
    rfl
  cases found : Rule.ofName? (Segment.nameOf text) with
  | none =>
    rw [segmentOutcome_of_unknown unregistered found, Segment.fault?, if_pos found]
    rfl
  | some rule =>
    have named : rule.takesParameter = true ↔ Segment.nameOf text ∈ Segment.boundedNames := by
      rw [Rule.takesParameter_iff, Rule.name_of_ofName? found]
      rfl
    rw [segmentOutcome_of_builtin unregistered found]
    simp only [Rule.error?_check, Rule.bound, Segment.fault?, found, ← named, reduceCtorEq,
      if_false]
    by_cases takes : rule.takesParameter = true
    · simp only [takes, if_true, CheckInput.numericParameter, checkInput]
      cases Segment.parameterOf text with
      | none => rfl
      | some parameter =>
        cases number : parseNumber parameter.toList <;> simp [number]
    · simp only [takes]
      rfl

/-- The first error of a field is its fault. -/
theorem firstError?_fieldOutcomes (bare : validator.callbacks = .empty) (request : Request)
    (entry : String × String) :
    Outcome.firstError? (validator.fieldOutcomes request entry) = entryFault? entry := by
  rw [fieldOutcomes, entryFault?]
  split
  · rfl
  · rw [Outcome.firstError?, List.findSome?_map]
    exact congrArg (List.findSome? · _) (funext (error?_segmentOutcome bare request entry.1))

/-- The first error of a validation is the first fault of its rule strings. -/
theorem firstError?_outcomes (bare : validator.callbacks = .empty) (request : Request) :
    Outcome.firstError? (validator.outcomes request) = firstFault? request.rules.entries := by
  rw [outcomes, Outcome.firstError?_flatMap, firstFault?]
  exact congrArg (List.findSome? · _) (funext (firstError?_fieldOutcomes bare request))

/-- **Errors depend on the rule strings alone.** Without registered checks, a validation succeeds
exactly if every segment of every rule string is well-formed, and stops exactly with the first
fault otherwise. So two validations of the same rule strings succeed together or stop with the same
error, and a fault is reported also for a field without a value. -/
theorem faults_depend_on_rules (validator : Validator) (bare : validator.callbacks = .empty)
    (request : Request) :
    ((∃ report, validator.make request = .ok report) ↔
      ∀ entry ∈ request.rules.entries, ∀ text ∈ Segment.texts entry.2, Segment.WellFormed text) ∧
    (∀ error, validator.make request = .error error ↔
      firstFault? request.rules.entries = some error) ∧
    (∀ (other : Validator) (second : Request), other.callbacks = .empty →
      second.rules = request.rules →
      (∃ error, validator.make request = .error error ∧ other.make second = .error error) ∨
      ∃ report report', validator.make request = .ok report ∧ other.make second = .ok report') ∧
    ∀ entry ∈ request.rules.entries, (request.value entry.1).isPresent = false →
      (∃ text ∈ Segment.texts entry.2, ¬ Segment.WellFormed text) →
      ∃ error, validator.make request = .error error := by
  have succeeds : (∃ report, validator.make request = .ok report) ↔
      ∀ entry ∈ request.rules.entries, ∀ text ∈ Segment.texts entry.2,
        Segment.WellFormed text := by
    rw [exists_make_eq_ok_iff, firstError?_outcomes bare, firstFault?_eq_none_iff]
  have stops (error : Error) : validator.make request = .error error ↔
      firstFault? request.rules.entries = some error := by
    rw [make_eq_error_iff, firstError?_outcomes bare]
  refine ⟨succeeds, stops, fun other second otherBare sameRules => ?_, fun entry member _ => ?_⟩
  · cases fault : firstFault? request.rules.entries with
    | some error =>
      refine Or.inl ⟨error, (stops error).2 fault, ?_⟩
      rw [make_eq_error_iff, firstError?_outcomes otherBare, sameRules, fault]
    | none =>
      obtain ⟨report, made⟩ := succeeds.2 ((firstFault?_eq_none_iff _).1 fault)
      have otherRuns : ∃ report', other.make second = .ok report' := by
        rw [exists_make_eq_ok_iff, firstError?_outcomes otherBare, sameRules, fault]
      obtain ⟨report', otherMade⟩ := otherRuns
      exact Or.inr ⟨report, report', made, otherMade⟩
  · rintro ⟨text, inEntry, faulty⟩
    cases fault : firstFault? request.rules.entries with
    | some error => exact ⟨error, (stops error).2 fault⟩
    | none =>
      have sound := (firstFault?_eq_none_iff _).1 fault entry member text inEntry
      exact absurd sound faulty

/-- A bound that is no number is reported for a field without a value, and with the same error when
the field has a value and a label. -/
theorem faults_depend_on_rules_not_a_number :
    (plain .simple).callbacks = .empty ∧ (plain .extended).callbacks = .empty ∧
    (plain .simple).make (Request.build [.rule "age" "required|minNumber: ten "]) =
      .error (.invalidParameter "age" "minNumber" "ten") ∧
    (plain .extended).make (Request.build
        [.field "age" (.text "9") "required|minNumber: ten ", .label "age" "Age"]) =
      .error (.invalidParameter "age" "minNumber" "ten") := by
  obtain ⟨_, stops, pair, _⟩ := faults_depend_on_rules (plain .simple) rfl
    (Request.build [.rule "age" "required|minNumber: ten "])
  have first : (plain .simple).make (Request.build [.rule "age" "required|minNumber: ten "]) =
      .error (.invalidParameter "age" "minNumber" "ten") := (stops _).2 (by decide)
  refine ⟨rfl, rfl, first, ?_⟩
  obtain ⟨error, stopped, otherStopped⟩ | ⟨report, _, made, _⟩ := pair (plain .extended)
    (Request.build [.field "age" (.text "9") "required|minNumber: ten ", .label "age" "Age"])
    rfl rfl
  · rw [otherStopped, ← stopped, first]
  · rw [first] at made
    cases made

end Validator

end FormRules
