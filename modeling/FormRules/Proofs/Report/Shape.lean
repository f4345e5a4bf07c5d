/-
**The two shapes of a report.**

The error mode decides the shape of a written report and nothing else: neither what is reported nor
how it is worded. What is written reads back as one element per failure, in both layouts.

* `Validator.make_mode`: two validations that differ in the mode only give the same report but for
  its mode;
* `Report.elements` are the elements of a written report, and `Report.read?_compact` and
  `Report.read?_pretty`: they read back;
* `Validator.modes_differ_in_shape` is the result for whole validations.
-/

import FormRules.Proofs.Json.RoundTrip
import FormRules.Proofs.Validation.Scan

namespace FormRules

def Json.valueAt? (key : String) : Json → Option Json
  | .object entries => entries.lookup (some key)
  | _ => none

namespace Report

/-- The elements of a written report, one per failure. -/
def elements (report : Report) : List Json :=
  report.failures.map fun failure =>
    match report.mode with
    | .simple => .string (some failure.message)
    | .extended => .object [(some "error", .string (some failure.rule)),
        (some "field", .string (some failure.field)),
        (some "message", .string (some failure.message))]

theorem toJson_eq (report : Report) : report.toJson = .array report.elements := by
  obtain ⟨mode, failures⟩ := report
  rw [toJson, entries, elements, List.map_map]
  cases mode <;> rfl

theorem regular_toJson (report : Report) : Json.Regular report.toJson := by
  rw [toJson_eq]
  refine .array fun element member => ?_
  obtain ⟨failure, _, rfl⟩ := List.mem_map.1 member
  cases report.mode with
  | simple => exact .string _
  | extended =>
    refine .object fun entry member => ?_
    simp only [List.mem_cons, List.not_mem_nil, or_false] at member
    obtain rfl | rfl | rfl := member <;> exact .string _

theorem read?_compact (report : Report) :
    Json.read? report.toJson.compact = some (.array report.elements) := by
  rw [Json.read?_compact report.regular_toJson, toJson_eq]

theorem read?_pretty (report : Report) :
    Json.read? report.toJson.pretty = some (.array report.elements) := by
  rw [Json.read?_pretty report.regular_toJson, toJson_eq]

/-! ### What elements say -/

/-- An element of the simple mode: a text. -/
def IsMessage (element : Json) : Prop :=
  ∃ message, element = .string (some message)

/-- An element of the extended mode: an object of a rule, a field and a message. -/
def IsRecord (element : Json) : Prop :=
  ∃ rule field message, element = .object [(some "error", .string (some rule)),
    (some "field", .string (some field)), (some "message", .string (some message))]

/-- The message that an element of either mode carries. -/
def messageOf? : Json → Option Json
  | .string text => some (.string text)
  | element => element.valueAt? "message"

theorem elements_eq_nil_iff (report : Report) : report.elements = [] ↔ report.isValid = true := by
  rw [elements, List.map_eq_nil_iff, isValid, List.isEmpty_iff]

theorem isMessage_of_mem_elements {report : Report} (simple : report.mode = .simple)
    {element : Json} (member : element ∈ report.elements) : IsMessage element := by
  rw [elements, simple] at member
  obtain ⟨failure, _, rfl⟩ := List.mem_map.1 member
  exact ⟨failure.message, rfl⟩

theorem isRecord_of_mem_elements {report : Report} (extended : report.mode = .extended)
    {element : Json} (member : element ∈ report.elements) : IsRecord element := by
  rw [elements, extended] at member
  obtain ⟨failure, _, rfl⟩ := List.mem_map.1 member
  exact ⟨failure.rule, failure.field, failure.message, rfl⟩

/-- The elements of a report carry its messages, whatever its mode. -/
theorem map_messageOf?_elements (report : Report) :
    report.elements.map messageOf? = report.messages.map fun message => some (.ofText message) := by
  rw [elements, messages, List.map_map, List.map_map]
  refine List.map_congr_left fun failure _ => ?_
  show messageOf? (match report.mode with | .simple => _ | .extended => _) = _
  cases report.mode <;> rfl

/-- The elements of the simple mode are the messages in those of the extended mode. -/
theorem map_valueAt?_elements (failures : List Failure) :
    (Report.mk .extended failures).elements.map (Json.valueAt? "message") =
      (Report.mk .simple failures).elements.map some := by
  rw [elements, elements, List.map_map, List.map_map]
  rfl

end Report

namespace Validator

/-- **The mode of a validator is the mode of its reports and nothing else.** -/
theorem make_mode (validator : Validator) (mode : ErrorMode) (request : Request) :
    { validator with mode := mode }.make request =
      (validator.make request).map fun report => { report with mode := mode } := by
  have sameOutcomes : { validator with mode := mode }.outcomes request =
      validator.outcomes request := rfl
  rw [make_eq_extend, make_eq_extend, sameOutcomes]
  cases stops : Outcome.firstError? (validator.outcomes request) with
  | some error => rw [Report.extend_of_error stops, Report.extend_of_error stops]; rfl
  | none => rw [Report.extend_of_none stops, Report.extend_of_none stops]; rfl

/-- **The two modes differ in shape only.** A validation stops with the same error in both modes or
reports the same failures with the same messages. A written report of any mode reads back, in both
layouts, as one element per failure, in order: its message, or an object of its rule, field and
message and nothing else. So the array of the simple mode holds the messages in the array of the
extended mode, and labels and parameters are never written. -/
theorem modes_differ_in_shape (validator : Validator) (request : Request) :
    ((∃ error, { validator with mode := .simple }.make request = .error error ∧
        { validator with mode := .extended }.make request = .error error) ∨
      ∃ report report', { validator with mode := .simple }.make request = .ok report ∧
        { validator with mode := .extended }.make request = .ok report' ∧
        report'.failures = report.failures ∧ report'.messages = report.messages ∧
        ∃ texts records,
          Json.read? report.toJson.compact = some (.array texts) ∧
          Json.read? report.toJson.pretty = some (.array texts) ∧
          Json.read? report'.toJson.compact = some (.array records) ∧
          Json.read? report'.toJson.pretty = some (.array records) ∧
          records.map (Json.valueAt? "message") = texts.map some) ∧
    (∀ report : Report,
      Json.read? report.toJson.compact = some (.array report.elements) ∧
      Json.read? report.toJson.pretty = some (.array report.elements)) ∧
    ∀ (mode : ErrorMode) (failures : List Failure) (label : Failure → String)
      (parameter : Failure → Option String),
      let relabelled := failures.map fun failure =>
        { failure with label := label failure, parameter := parameter failure }
      (Report.mk mode relabelled).toJson.compact = (Report.mk mode failures).toJson.compact ∧
      (Report.mk mode relabelled).toJson.pretty = (Report.mk mode failures).toJson.pretty := by
  refine ⟨?_, fun report => ⟨report.read?_compact, report.read?_pretty⟩, ?_⟩
  · rw [make_mode validator .simple, make_mode validator .extended]
    cases validator.make request with
    | error error => exact Or.inl ⟨error, rfl, rfl⟩
    | ok report =>
      refine Or.inr ⟨_, _, rfl, rfl, rfl, rfl, _, _, Report.read?_compact _,
        Report.read?_pretty _, Report.read?_compact _, Report.read?_pretty _, ?_⟩
      exact Report.map_valueAt?_elements report.failures
  · intro mode failures label parameter relabelled
    have sameElements : (Report.mk mode relabelled).elements =
        (Report.mk mode failures).elements := by
      rw [Report.elements, Report.elements, List.map_map]
      rfl
    rw [Report.toJson_eq, Report.toJson_eq, sameElements]
    exact ⟨rfl, rfl⟩

end Validator

end FormRules
