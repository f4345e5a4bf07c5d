/-
**Joined rule strings.**

A bar between two rule strings puts their segments one after the other. So a field with the joined
rule string is validated as with the first one and then as with the second one, and the report
holds the failures of both. Only a blank segment is different: it is found before any check is run.

* `Segment.texts_append_bar`: the segments of a joined rule string;
* `Validator.fieldOutcomes_append_bar`: its outcomes, unless a segment is blank;
* `Validator.make_joined` is the result for whole validations.
-/

import FormRules.Proofs.Validation.Scan

namespace FormRules

/-- The segments of a joined rule string are those of both parts. -/
theorem Segment.texts_append_bar (first second : String) :
    texts (first ++ "|" ++ second) = texts first ++ texts second := by
  have letters : (first ++ "|" ++ second).toList = first.toList ++ '|' :: second.toList := by
    simp
  rw [texts, letters, Text.pieces_append_cons, texts, texts]

/-- The request with a single field, and all else as it is. -/
def Request.onField (request : Request) (field rules : String) : Request :=
  { request with rules := .ofList [(field, rules)] }

namespace Validator

variable {validator : Validator} {request : Request}

theorem fieldOutcomes_append_bar {field first second : String}
    (solid : ∀ text ∈ Segment.texts first ++ Segment.texts second, ¬ Segment.Blank text) :
    validator.fieldOutcomes request (field, first ++ "|" ++ second) =
      validator.fieldOutcomes request (field, first) ++
        validator.fieldOutcomes request (field, second) := by
  have outcomesOf {rules : String} (solid : ∀ text ∈ Segment.texts rules, ¬ Segment.Blank text) :
      validator.fieldOutcomes request (field, rules) =
        (Segment.texts rules).map (validator.segmentOutcome request field) :=
    if_neg fun ⟨text, member, blank⟩ => solid text member blank
  obtain ⟨solidFirst, solidSecond⟩ := List.forall_mem_append.1 solid
  rw [outcomesOf solidFirst, outcomesOf solidSecond, ← List.map_append,
    ← Segment.texts_append_bar]
  rw [← Segment.texts_append_bar] at solid
  exact outcomesOf solid

theorem make_onField (field rules : String) :
    validator.make (request.onField field rules) =
      (Report.empty validator.mode).extend (validator.fieldOutcomes request (field, rules)) := by
  rw [make_eq_extend]
  exact congrArg (Report.extend _) (List.append_nil _)

/-- **Joined rule strings give joined reports.** The error of the first part comes before that of
the second one, and without an error the failures follow each other. A blank segment in either part
comes before everything, and its error names the joined rule string. -/
theorem make_joined (validator : Validator) (request : Request) (field first second : String) :
    ((∃ text ∈ Segment.texts first ++ Segment.texts second, Segment.Blank text) →
      validator.make (request.onField field (first ++ "|" ++ second)) =
        .error (.emptyRule field (first ++ "|" ++ second))) ∧
    ((∀ text ∈ Segment.texts first ++ Segment.texts second, ¬ Segment.Blank text) →
      validator.make (request.onField field (first ++ "|" ++ second)) = do
        let report ← validator.make (request.onField field first)
        let report' ← validator.make (request.onField field second)
        return { report with failures := report.failures ++ report'.failures }) := by
  constructor
  · intro blank
    rw [← Segment.texts_append_bar] at blank
    have stops : validator.fieldOutcomes request (field, first ++ "|" ++ second) =
        [.error (.emptyRule field (first ++ "|" ++ second))] := if_pos blank
    rw [make_onField, stops]
    rfl
  · intro solid
    rw [make_onField, make_onField, make_onField, fieldOutcomes_append_bar solid,
      Report.extend_append]
    cases stops : Outcome.firstError? (validator.fieldOutcomes request (field, first)) with
    | some error =>
      rw [Report.extend_of_error stops]
      rfl
    | none =>
      rw [Report.extend_of_none stops]
      exact Report.extend_eq_bind _ _

/-- A blank segment in the second part comes before the unknown rule in the first one, and the
error names the joined rule string; without it, the failures of both parts are reported. -/
theorem make_joined_age :
    let validator := plain .simple
    let request := Request.build [.label "age" "Age"]
    (∃ text ∈ Segment.texts "nope:1" ++ Segment.texts "required| ", Segment.Blank text) ∧
    (∀ text ∈ Segment.texts "required|str" ++ Segment.texts "required:7",
      ¬ Segment.Blank text) ∧
    validator.make (request.onField "age" "nope:1") = .error (.unknownRule "age" "nope") ∧
    validator.make (request.onField "age" "nope:1|required| ") =
      .error (.emptyRule "age" "nope:1|required| ") ∧
    (validator.make (request.onField "age" "required|str|required:7")).map
      (·.failures.map Failure.rule) = .ok ["required", "required"] := by
  intro validator request
  have blank : ∃ text ∈ Segment.texts "nope:1" ++ Segment.texts "required| ",
      Segment.Blank text := by decide
  have solid : ∀ text ∈ Segment.texts "required|str" ++ Segment.texts "required:7",
      ¬ Segment.Blank text := by decide
  have stopped := (make_joined validator request "age" "nope:1" "required| ").1 blank
  have reported := (make_joined validator request "age" "required|str" "required:7").2 solid
  refine ⟨blank, solid, make_eq_error_iff.2 rfl, stopped, ?_⟩
  rw [show "required|str|required:7" = "required|str" ++ "|" ++ "required:7" from rfl, reported]
  rfl

end Validator

end FormRules
