/-
**Presentation never decides.**

Labels, templates, catalogs and error modes word the failures of a validation. What is decided - the
error, or the fields, rules and parameters of the failures - is the same for two validations that
differ in nothing else.

* `Failure.finding` is what a failure says apart from its wording, and `Outcome.decision` is an
  outcome apart from the wording of its failure;
* `Check.IgnoresPresentation` are the checks whose decision does not look at the wording, and
  `Rule.check_ignoresPresentation`: the built-in ones are among them;
* `Validator.presentation_never_decides` is the result for whole validations.
-/

import FormRules.Proofs.BuiltinCheck
import FormRules.Proofs.Validation.Scan

namespace FormRules

/-- The field, the rule and the parameter of a failure. -/
abbrev Finding := String × String × Option String

/-- What a failure says apart from its wording. -/
def Failure.finding (failure : Failure) : Finding :=
  (failure.field, failure.rule, failure.parameter)

namespace Outcome

/-- An outcome apart from the wording of its failure. -/
def decision (outcome : Outcome) : Except Error (Option Finding) :=
  outcome.map (Option.map Failure.finding)

theorem error?_decision (outcome : Outcome) : error? (decision outcome) = error? outcome := by
  cases outcome <;> rfl

theorem failure?_decision (outcome : Outcome) :
    failure? (decision outcome) = (failure? outcome).map Failure.finding := by
  cases outcome <;> rfl

/-- The first error is decided. -/
theorem firstError?_map_decision (outcomes : List Outcome) :
    firstError? (outcomes.map decision) = firstError? outcomes := by
  rw [firstError?, List.findSome?_map, firstError?]
  exact congrArg (List.findSome? · outcomes) (funext error?_decision)

/-- The findings are decided. -/
theorem failures_map_decision (outcomes : List Outcome) :
    failures (outcomes.map decision) = (failures outcomes).map Failure.finding := by
  rw [failures, List.filterMap_map, failures, List.map_filterMap]
  exact congrArg (List.filterMap · outcomes) (funext failure?_decision)

end Outcome

/-- A check that decides without looking at the label or the template. -/
def Check.IgnoresPresentation (check : Check) : Prop :=
  ∀ (input : CheckInput) (label template : String),
    Outcome.decision (check { input with label := label, template := template }) =
      Outcome.decision (check input)

/-- The built-in checks decide without looking at the label or the template: they read the parameter
and the value. -/
theorem Rule.check_ignoresPresentation (rule : Rule) : Check.IgnoresPresentation rule.check := by
  intro input label template
  have sameBound : rule.bound { input with label := label, template := template } =
      rule.bound input := rfl
  rw [check_eq, check_eq, sameBound]
  cases rule.bound input with
  | error error => rfl
  | ok bound =>
    show Except.ok (Option.map _ (CheckInput.failIf _ _)) = Except.ok (Option.map _ _)
    simp only [CheckInput.failIf]
    split <;> rfl

namespace Validator

variable {validator other : Validator} {request second : Request}

/-! ### Two runs -/

/-- The checks of two runs get to see the same but for the label and the template. -/
theorem checkInput_of_same_data (validator other : Validator)
    (sameData : second.data = request.data) (field name : String) (parameter : Option String) :
    other.checkInput second field name parameter =
      { validator.checkInput request field name parameter with
        label := second.labelFor field
        template := other.templateFor second name } := by
  simp only [checkInput, Request.value, sameData]

/-- A segment is decided alike in two runs. -/
theorem decision_segmentOutcome (sameData : second.data = request.data)
    (sameCallbacks : other.callbacks = validator.callbacks)
    (blind : ∀ entry ∈ validator.callbacks.entries, Check.IgnoresPresentation entry.2)
    (field : String) (text : List Char) :
    Outcome.decision (other.segmentOutcome second field text) =
      Outcome.decision (validator.segmentOutcome request field text) := by
  cases registered : validator.callbacks.get? (Segment.nameOf text) with
  | some check =>
    have ignores : Check.IgnoresPresentation check :=
      blind _ (Table.get?_eq_some_iff.1 registered)
    have otherRegistered : other.callbacks.get? (Segment.nameOf text) = some check := by
      rw [sameCallbacks, registered]
    rw [segmentOutcome_of_registered registered, segmentOutcome_of_registered otherRegistered,
      checkInput_of_same_data validator other sameData]
    exact ignores _ _ _
  | none =>
    have otherUnregistered : other.callbacks.get? (Segment.nameOf text) = none := by
      rw [sameCallbacks, registered]
    cases found : Rule.ofName? (Segment.nameOf text) with
    | some rule =>
      rw [segmentOutcome_of_builtin registered found,
        segmentOutcome_of_builtin otherUnregistered found,
        checkInput_of_same_data validator other sameData]
      exact rule.check_ignoresPresentation _ _ _
    | none =>
      rw [segmentOutcome_of_unknown registered found,
        segmentOutcome_of_unknown otherUnregistered found]

/-- A field is decided alike in two runs. -/
theorem map_decision_fieldOutcomes (sameData : second.data = request.data)
    (sameCallbacks : other.callbacks = validator.callbacks)
    (blind : ∀ entry ∈ validator.callbacks.entries, Check.IgnoresPresentation entry.2)
    (entry : String × String) :
    (other.fieldOutcomes second entry).map Outcome.decision =
      (validator.fieldOutcomes request entry).map Outcome.decision := by
  rw [fieldOutcomes, fieldOutcomes]
  split
  · rfl
  · rw [List.map_map, List.map_map]
    exact List.map_congr_left fun text _ =>
      decision_segmentOutcome sameData sameCallbacks blind entry.1 text

/-- All fields are decided alike in two runs over the same rule strings. -/
theorem map_decision_outcomes (sameRules : second.rules = request.rules)
    (sameData : second.data = request.data) (sameCallbacks : other.callbacks = validator.callbacks)
    (blind : ∀ entry ∈ validator.callbacks.entries, Check.IgnoresPresentation entry.2) :
    (other.outcomes second).map Outcome.decision =
      (validator.outcomes request).map Outcome.decision := by
  rw [outcomes, outcomes, sameRules, List.map_flatMap, List.map_flatMap]
  exact congrArg (List.flatMap · _)
    (funext (map_decision_fieldOutcomes sameData sameCallbacks blind))

/-- **Presentation never decides.** Two validations of the same rule strings and data with the same
registered checks, none of which decides by label or template, stop with the same error or both
succeed with the same findings in the same order. -/
theorem presentation_never_decides (validator other : Validator) (request second : Request)
    (sameRules : second.rules = request.rules) (sameData : second.data = request.data)
    (sameCallbacks : other.callbacks = validator.callbacks)
    (blind : ∀ entry ∈ validator.callbacks.entries, Check.IgnoresPresentation entry.2) :
    (∃ error, validator.make request = .error error ∧ other.make second = .error error) ∨
    ∃ report report', validator.make request = .ok report ∧ other.make second = .ok report' ∧
      report'.failures.map Failure.finding = report.failures.map Failure.finding := by
  have decided := map_decision_outcomes sameRules sameData sameCallbacks blind
  have sameError : Outcome.firstError? (other.outcomes second) =
      Outcome.firstError? (validator.outcomes request) := by
    rw [← Outcome.firstError?_map_decision, decided, Outcome.firstError?_map_decision]
  cases stops : Outcome.firstError? (validator.outcomes request) with
  | some error =>
    exact Or.inl ⟨error, make_eq_error_iff.2 stops, make_eq_error_iff.2 (sameError.trans stops)⟩
  | none =>
    refine Or.inr ⟨_, _, make_eq_ok_iff.2 ⟨stops, rfl⟩,
      make_eq_ok_iff.2 ⟨sameError.trans stops, rfl⟩, ?_⟩
    rw [← Outcome.failures_map_decision, decided, Outcome.failures_map_decision]

/-- Another template, another label and another mode, and the findings are those of the plain
validation. -/
theorem presentation_never_decides_relabelled :
    let callbacks : Table Check := .ofList [("never", fun input => .ok (some input.fail))]
    (∀ entry ∈ callbacks.entries, Check.IgnoresPresentation entry.2) ∧
    ∃ report, (Validator.mk (Catalog.builtin.set "required" "Missing!") .extended callbacks).make
        (Request.build [.rule "age" "required|never:1", .label "age" "Age"]) = .ok report ∧
      report.failures.map Failure.finding =
        [("age", "required", none), ("age", "never", some "1")] := by
  intro callbacks
  have blind : ∀ entry ∈ callbacks.entries, Check.IgnoresPresentation entry.2 := by
    intro entry member
    obtain rfl := List.mem_singleton.1 member
    exact fun _ _ _ => rfl
  have plainRun : ((Validator.mk .builtin .simple callbacks).make
      (Request.build [.rule "age" "required|never:1"])).map (·.failures.map Failure.finding) =
        .ok [("age", "required", none), ("age", "never", some "1")] := rfl
  refine ⟨blind, ?_⟩
  have bothRuns := presentation_never_decides (Validator.mk .builtin .simple callbacks)
    (Validator.mk (Catalog.builtin.set "required" "Missing!") .extended callbacks)
    (Request.build [.rule "age" "required|never:1"])
    (Request.build [.rule "age" "required|never:1", .label "age" "Age"]) rfl rfl rfl blind
  obtain ⟨error, stopped, _⟩ | ⟨report, report', made, otherMade, same⟩ := bothRuns
  · rw [stopped] at plainRun
    cases plainRun
  · rw [made] at plainRun
    exact ⟨report', otherMade, same.trans (Except.ok.inj plainRun)⟩

end Validator

end FormRules
