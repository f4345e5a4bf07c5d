/-
**Validation as one scan.**

A validation is the scan of one flat list of steps. Every field contributes its steps in the order
of the request: a single error if its rule string has a blank segment, else one step per segment.

* `Validator.segmentOutcome` is what a segment comes to, read off the tables of the validator;
* `Validator.fieldOutcomes` are the outcomes that a field contributes;
* `Validator.make_eq_extend`: a validation works through the outcomes of all fields, so it stops
  with their first error (`Validator.make_eq_error_iff`) or reports their failures
  (`Validator.make_eq_ok_iff`);
* `Validator.steps` are the same outcomes with their positions, and `Validator.make_eq_scan` is the
  validation in terms of them.
-/

import FormRules.Validator
import FormRules.Proofs.RuleString
import FormRules.Proofs.Validation.Outcome

namespace FormRules

namespace Validator

variable (validator : Validator) (request : Request)

/-- What a check gets to see when a segment of the rule string of a field calls it. -/
def checkInput (field name : String) (parameter : Option String) : CheckInput where
  rule := name
  field := field
  value := request.value field
  parameter := parameter
  label := request.labelFor field
  template := validator.templateFor request name

/-- What a segment comes to. A registered check comes before a built-in one of the same name, a
built-in rule without a parameter gets to see none, and other names are errors. -/
def segmentOutcome (field : String) (text : List Char) : Outcome :=
  let name := Segment.nameOf text
  let parameter := Segment.parameterOf text
  match validator.callbacks.get? name, Rule.ofName? name with
  | some check, _ => check (validator.checkInput request field name parameter)
  | none, some rule => rule.check
      (validator.checkInput request field name (if rule.takesParameter then parameter else none))
  | none, none => .error (.unknownRule field name)

/-- The outcomes that a field contributes. One blank segment is enough for a single error. -/
def fieldOutcomes (entry : String × String) : List Outcome :=
  if ∃ text ∈ Segment.texts entry.2, Segment.Blank text then
    [.error (.emptyRule entry.1 entry.2)]
  else
    (Segment.texts entry.2).map (validator.segmentOutcome request entry.1)

/-- The outcomes of all fields, in the order of the request. -/
def outcomes : List Outcome :=
  request.rules.entries.flatMap (validator.fieldOutcomes request)

variable {validator request}

/-! ### The outcome of a segment -/

section SegmentOutcome

variable {field : String} {text : List Char}

/-- A registered check sees the parameter as it is written. -/
theorem segmentOutcome_of_registered {check : Check}
    (registered : validator.callbacks.get? (Segment.nameOf text) = some check) :
    validator.segmentOutcome request field text =
      check (validator.checkInput request field (Segment.nameOf text)
        (Segment.parameterOf text)) := by
  simp only [segmentOutcome, registered]

/-- A built-in check sees the parameter only if its rule takes one. -/
theorem segmentOutcome_of_builtin {rule : Rule}
    (unregistered : validator.callbacks.get? (Segment.nameOf text) = none)
    (found : Rule.ofName? (Segment.nameOf text) = some rule) :
    validator.segmentOutcome request field text =
      rule.check (validator.checkInput request field (Segment.nameOf text)
        (if rule.takesParameter then Segment.parameterOf text else none)) := by
  simp only [segmentOutcome, unregistered, found]

/-- A name without a check is an error. -/
theorem segmentOutcome_of_unknown
    (unregistered : validator.callbacks.get? (Segment.nameOf text) = none)
    (unknown : Rule.ofName? (Segment.nameOf text) = none) :
    validator.segmentOutcome request field text =
      .error (.unknownRule field (Segment.nameOf text)) := by
  simp only [segmentOutcome, unregistered, unknown]

end SegmentOutcome

/-! ### The loops as a scan -/

/-- The check that a call runs comes to the outcome of its segment. -/
theorem runCall_callOf (field : String) (text : List Char) :
    validator.runCall request field (Segment.callOf text) =
      validator.segmentOutcome request field text := by
  simp only [runCall, resolve, Segment.callOf]
  cases registered : validator.callbacks.get? (Segment.nameOf text) with
  | some check =>
    rw [segmentOutcome_of_registered registered]
    rfl
  | none =>
    cases found : Rule.ofName? (Segment.nameOf text) with
    | some rule =>
      rw [segmentOutcome_of_builtin registered found]
      rfl
    | none =>
      rw [segmentOutcome_of_unknown registered found]
      rfl

/-- A field is worked through outcome by outcome. -/
theorem runField_eq_extend (report : Report) (entry : String × String) :
    validator.runField request report entry =
      report.extend (validator.fieldOutcomes request entry) := by
  rw [runField, Call.parse_eq, fieldOutcomes]
  by_cases blank : ∃ text ∈ Segment.texts entry.2, Segment.Blank text
  · rw [if_pos blank, if_pos blank]
    rfl
  · rw [if_neg blank, if_neg blank]
    have calls := Report.foldlM_extend_singleton ((Segment.texts entry.2).map Segment.callOf)
      (validator.runCall request entry.1)
      (fun report call => (report.extend_singleton (validator.runCall request entry.1 call)).symm)
      report
    have sameOutcomes : validator.runCall request entry.1 ∘ Segment.callOf =
        validator.segmentOutcome request entry.1 := funext (runCall_callOf entry.1)
    rw [List.map_map, sameOutcomes] at calls
    exact calls

/-- **A validation works through the outcomes of all fields in order.** -/
theorem make_eq_extend :
    validator.make request = (Report.empty validator.mode).extend (validator.outcomes request) := by
  rw [make, outcomes, ← Report.foldlM_extend]
  simp only [← runField_eq_extend]

/-- A validation stops exactly with the first error of its outcomes. -/
theorem make_eq_error_iff {error : Error} :
    validator.make request = .error error ↔
      Outcome.firstError? (validator.outcomes request) = some error := by
  rw [make_eq_extend]
  cases stops : Outcome.firstError? (validator.outcomes request) with
  | none => simp [Report.extend_of_none stops]
  | some first => simp [Report.extend_of_error stops]

/-- A validation succeeds exactly without an error, and reports the failures of its outcomes. -/
theorem make_eq_ok_iff {report : Report} :
    validator.make request = .ok report ↔
      Outcome.firstError? (validator.outcomes request) = none ∧
        report = ⟨validator.mode, Outcome.failures (validator.outcomes request)⟩ := by
  rw [make_eq_extend]
  cases stops : Outcome.firstError? (validator.outcomes request) with
  | none =>
    rw [Report.extend_of_none stops, Except.ok.injEq, eq_comm]
    simp [Report.empty]
  | some first => simp [Report.extend_of_error stops]

/-- A validation succeeds exactly without an error. -/
theorem exists_make_eq_ok_iff :
    (∃ report, validator.make request = .ok report) ↔
      Outcome.firstError? (validator.outcomes request) = none := by
  simp [make_eq_ok_iff]

/-! ### Steps with their positions -/

/-- A step of a validation: an outcome with the position of its field in the request and the
position of its segment in the rule string of the field. -/
structure Step where
  field : Nat
  segment : Nat
  outcome : Outcome

/-- A step comes before another one if its field does, or if they share the field and its segment
does. -/
def Step.Before (first second : Step) : Prop :=
  first.field < second.field ∨ first.field = second.field ∧ first.segment < second.segment

/-- The steps of the field at a position. -/
def fieldSteps (validator : Validator) (request : Request) (position : Nat)
    (entry : String × String) : List Step :=
  (validator.fieldOutcomes request entry).zipIdx.map fun located =>
    ⟨position, located.2, located.1⟩

/-- The steps of a validation, field by field. -/
def steps (validator : Validator) (request : Request) : List Step :=
  request.rules.entries.zipIdx.flatMap fun located =>
    validator.fieldSteps request located.2 located.1

/-- The indices of a list grow along it. -/
theorem pairwise_zipIdx_lt {α : Type} (items : List α) :
    items.zipIdx.Pairwise fun first second => first.2 < second.2 := by
  have indices : (items.zipIdx.map Prod.snd).Pairwise (· < ·) := by
    rw [List.zipIdx_map_snd]
    exact List.pairwise_lt_range'
  exact List.pairwise_map.1 indices

/-- The steps of a field carry its outcomes. -/
theorem map_outcome_fieldSteps (position : Nat) (entry : String × String) :
    (validator.fieldSteps request position entry).map Step.outcome =
      validator.fieldOutcomes request entry := by
  rw [fieldSteps, List.map_map]
  exact List.zipIdx_map_fst 0 _

/-- The steps of a validation carry its outcomes. -/
theorem map_outcome_steps :
    (validator.steps request).map Step.outcome = validator.outcomes request := by
  rw [steps, List.map_flatMap, outcomes]
  simp only [map_outcome_fieldSteps]
  calc request.rules.entries.zipIdx.flatMap
        (fun located => validator.fieldOutcomes request located.1)
      = (request.rules.entries.zipIdx.map Prod.fst).flatMap (validator.fieldOutcomes request) :=
        (List.flatMap_map _ _ _).symm
    _ = request.rules.entries.flatMap (validator.fieldOutcomes request) := by
        rw [List.zipIdx_map_fst]

/-- A step of the field at a position has that position and an outcome of the field. -/
theorem mem_fieldSteps_iff {position : Nat} {entry : String × String} {step : Step} :
    step ∈ validator.fieldSteps request position entry ↔
      step.field = position ∧
        (validator.fieldOutcomes request entry)[step.segment]? = some step.outcome := by
  rw [fieldSteps, List.mem_map]
  constructor
  · rintro ⟨⟨outcome, segment⟩, member, rfl⟩
    exact ⟨rfl, List.mk_mem_zipIdx_iff_getElem?.1 member⟩
  · rintro ⟨rfl, found⟩
    exact ⟨(step.outcome, step.segment), List.mk_mem_zipIdx_iff_getElem?.2 found, rfl⟩

/-- Exactly the outcomes that the fields contribute are steps, each at its position. -/
theorem mem_steps_iff {step : Step} :
    step ∈ validator.steps request ↔ ∃ entry, request.rules.entries[step.field]? = some entry ∧
      (validator.fieldOutcomes request entry)[step.segment]? = some step.outcome := by
  rw [steps, List.mem_flatMap]
  constructor
  · rintro ⟨⟨entry, position⟩, member, inField⟩
    obtain ⟨rfl, found⟩ := mem_fieldSteps_iff.1 inField
    exact ⟨entry, List.mk_mem_zipIdx_iff_getElem?.1 member, found⟩
  · rintro ⟨entry, known, found⟩
    exact ⟨(entry, step.field), List.mk_mem_zipIdx_iff_getElem?.2 known,
      mem_fieldSteps_iff.2 ⟨rfl, found⟩⟩

/-- The positions grow strictly along the steps. -/
theorem pairwise_steps : (validator.steps request).Pairwise Step.Before := by
  rw [steps, List.pairwise_flatMap]
  refine ⟨fun located _ => ?_, (pairwise_zipIdx_lt request.rules.entries).imp ?_⟩
  · rw [fieldSteps, List.pairwise_map]
    exact (pairwise_zipIdx_lt _).imp fun later => Or.inr ⟨rfl, later⟩
  · intro first second later step inFirst other inSecond
    obtain ⟨firstField, _⟩ := mem_fieldSteps_iff.1 inFirst
    obtain ⟨secondField, _⟩ := mem_fieldSteps_iff.1 inSecond
    exact Or.inl (by rw [firstField, secondField]; exact later)

/-- **A validation is one scan over its steps.** The first error among the steps is the result;
without one the report has a failure per failing step. The steps are strictly ordered by field and
segment, and they are exactly the outcomes of the fields, so no failure is lost, doubled or moved.
-/
theorem make_eq_scan (validator : Validator) (request : Request) :
    (validator.make request =
      match (validator.steps request).findSome? fun step => Outcome.error? step.outcome with
      | some error => .error error
      | none => .ok ⟨validator.mode,
          (validator.steps request).filterMap fun step => Outcome.failure? step.outcome⟩) ∧
    (validator.steps request).Pairwise Step.Before ∧
    ∀ step : Step, step ∈ validator.steps request ↔
      ∃ entry, request.rules.entries[step.field]? = some entry ∧
        (validator.fieldOutcomes request entry)[step.segment]? = some step.outcome := by
  have errors : ((validator.steps request).findSome? fun step => Outcome.error? step.outcome) =
      Outcome.firstError? (validator.outcomes request) := by
    rw [Outcome.firstError?, ← map_outcome_steps, List.findSome?_map]
    rfl
  have failures : ((validator.steps request).filterMap fun step => Outcome.failure? step.outcome) =
      Outcome.failures (validator.outcomes request) := by
    rw [Outcome.failures, ← map_outcome_steps, List.filterMap_map]
    rfl
  refine ⟨?_, pairwise_steps, fun step => mem_steps_iff⟩
  rw [make_eq_extend, errors, failures]
  rfl

end Validator

end FormRules
