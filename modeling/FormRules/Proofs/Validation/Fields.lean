/-
**Fields are independent.**

The failures of a field depend on its own rule string, value and label and on the templates, and on
nothing that concerns other fields. So the order of the fields orders the report and does nothing
else.

* `Check.NamesField` are the checks whose failures name the field that was checked, and
  `Rule.check_namesField`: the built-in ones are among them;
* `Validator.fieldOutcomes_congr`: what the outcomes of a field depend on;
* `Validator.forField_eq_of_make`: the failures of a field in a report are those of its outcomes;
* `Validator.fields_independent` is the result for whole validations.
-/

import FormRules.Proofs.BuiltinCheck
import FormRules.Proofs.Validation.Scan
import Mathlib.Data.List.Perm.Basic

namespace FormRules

/-- A check whose failures name the field that was checked. -/
def Check.NamesField (check : Check) : Prop :=
  ∀ (input : CheckInput) (failure : Failure), check input = .ok (some failure) →
    failure.field = input.field

/-- The failures of the built-in checks name the field that was checked. -/
theorem Rule.check_namesField (rule : Rule) : Check.NamesField rule.check := by
  intro input failure failed
  rw [eq_fail_of_check failed]
  rfl

namespace Outcome

/-- A failure is among the failures of outcomes exactly if a check came to it. -/
theorem mem_failures_iff {outcomes : List Outcome} {failure : Failure} :
    failure ∈ failures outcomes ↔ .ok (some failure) ∈ outcomes := by
  rw [failures, List.mem_filterMap]
  constructor
  · rintro ⟨outcome, member, failed⟩
    cases outcome with
    | error error => cases failed
    | ok result =>
      rw [show result = some failure from failed] at member
      exact member
  · intro member
    exact ⟨_, member, rfl⟩

/-- Whether there is an error does not depend on the order of the outcomes. -/
theorem firstError?_eq_none_iff_of_perm {first second : List Outcome} (perm : first.Perm second) :
    firstError? first = none ↔ firstError? second = none := by
  rw [firstError?_eq_none_iff, firstError?_eq_none_iff]
  exact forall_congr' fun outcome => by rw [perm.mem_iff]

end Outcome

/-- What the entries of a table add up to when only those of one key count. -/
theorem Table.flatMap_ite_key {α β : Type} (table : Table α) (key : String)
    (summand : String × α → List β) :
    (table.entries.flatMap fun entry => if entry.1 = key then summand entry else []) =
      (table.get? key).elim [] fun value => summand (key, value) := by
  obtain ⟨entries, distinct⟩ := table
  rw [Table.get?]
  induction entries with
  | nil => rfl
  | cons entry rest ih =>
    obtain ⟨name, value⟩ := entry
    obtain ⟨absent, distinctRest⟩ := List.nodup_cons.1 distinct
    rw [List.flatMap_cons, ih distinctRest, List.lookup_cons]
    by_cases same : name = key
    · subst same
      have notFound : rest.lookup name = none := by
        rw [List.lookup_eq_none_iff]
        intro entry inRest
        refine bne_iff_ne.2 ?_
        rintro rfl
        exact absent (List.mem_map.2 ⟨entry, inRest, rfl⟩)
      simp [notFound]
    · have different : (key == name) = false := beq_eq_false_iff_ne.2 (Ne.symm same)
      simp [same, different]

namespace Validator

variable {validator : Validator} {request : Request}

/-! ### The failures of one field -/

/-- Every failure of a field names it. -/
theorem field_of_mem_failures
    (named : ∀ entry ∈ validator.callbacks.entries, Check.NamesField entry.2)
    {entry : String × String} {failure : Failure}
    (member : failure ∈ Outcome.failures (validator.fieldOutcomes request entry)) :
    failure.field = entry.1 := by
  have failed := Outcome.mem_failures_iff.1 member
  rw [fieldOutcomes] at failed
  split at failed
  · simp at failed
  · obtain ⟨text, _, failed⟩ := List.mem_map.1 failed
    cases registered : validator.callbacks.get? (Segment.nameOf text) with
    | some check =>
      rw [segmentOutcome_of_registered registered] at failed
      exact named _ (Table.get?_eq_some_iff.1 registered) _ _ failed
    | none =>
      cases found : Rule.ofName? (Segment.nameOf text) with
      | some rule =>
        rw [segmentOutcome_of_builtin registered found] at failed
        exact rule.check_namesField _ _ failed
      | none =>
        rw [segmentOutcome_of_unknown registered found] at failed
        cases failed

/-- A field's failures are kept by the filter for the field and dropped by any other one. -/
theorem filter_failures_fieldOutcomes
    (named : ∀ entry ∈ validator.callbacks.entries, Check.NamesField entry.2)
    (field : String) (entry : String × String) :
    ((Outcome.failures (validator.fieldOutcomes request entry)).filter fun failure =>
        failure.field = field) =
      if entry.1 = field then Outcome.failures (validator.fieldOutcomes request entry) else [] := by
  split
  · next same =>
    refine List.filter_eq_self.2 fun failure member => ?_
    exact decide_eq_true ((field_of_mem_failures named member).trans same)
  · next different =>
    refine List.filter_eq_nil_iff.2 fun failure member failed => ?_
    exact different ((field_of_mem_failures named member).symm.trans (of_decide_eq_true failed))

/-- **The failures of a field in a report are those of its outcomes**; a field without a rule string
has none. -/
theorem forField_eq_of_make
    (named : ∀ entry ∈ validator.callbacks.entries, Check.NamesField entry.2) {report : Report}
    (made : validator.make request = .ok report) (field : String) :
    report.forField field = (request.rules.get? field).elim [] fun rules =>
      Outcome.failures (validator.fieldOutcomes request (field, rules)) := by
  obtain ⟨_, rfl⟩ := make_eq_ok_iff.1 made
  show (Outcome.failures (validator.outcomes request)).filter _ = _
  rw [outcomes, Outcome.failures_flatMap, List.filter_flatMap]
  simp only [filter_failures_fieldOutcomes named]
  exact request.rules.flatMap_ite_key field _

/-- What the outcomes of a field depend on: its value and label, the templates of the request and
the tables of the validator. -/
theorem fieldOutcomes_congr {other : Validator} {second : Request} {entry : String × String}
    (sameCatalog : other.catalog = validator.catalog)
    (sameCallbacks : other.callbacks = validator.callbacks)
    (sameValue : second.value entry.1 = request.value entry.1)
    (sameLabel : second.labelFor entry.1 = request.labelFor entry.1)
    (sameMessages : second.messages = request.messages) :
    other.fieldOutcomes second entry = validator.fieldOutcomes request entry := by
  have sameTemplate (rule : String) :
      other.templateFor second rule = validator.templateFor request rule := by
    rw [templateFor, templateFor, Request.template?, Request.template?, sameMessages, sameCatalog]
  have sameInput (name : String) (parameter : Option String) :
      other.checkInput second entry.1 name parameter =
        validator.checkInput request entry.1 name parameter := by
    rw [checkInput, checkInput, sameValue, sameLabel, sameTemplate]
  have sameSegment (text : List Char) : other.segmentOutcome second entry.1 text =
      validator.segmentOutcome request entry.1 text := by
    simp only [segmentOutcome, sameCallbacks, sameInput]
  rw [fieldOutcomes, fieldOutcomes, funext sameSegment]

/-! ### The order of the fields -/

/-- The outcomes of a request whose fields come in another order. -/
theorem outcomes_perm {rules : Table String} (perm : rules.entries.Perm request.rules.entries) :
    (validator.outcomes { request with rules := rules }).Perm (validator.outcomes request) :=
  perm.flatMap_right (validator.fieldOutcomes request)

/-- The failures of the fields one after the other are the failures of the report. -/
theorem flatMap_forField_of_make
    (named : ∀ entry ∈ validator.callbacks.entries, Check.NamesField entry.2) {report : Report}
    (made : validator.make request = .ok report) :
    request.rules.keys.flatMap report.forField = report.failures := by
  have fieldwise : ∀ entry ∈ request.rules.entries, report.forField entry.1 =
      Outcome.failures (validator.fieldOutcomes request entry) := by
    intro entry member
    rw [forField_eq_of_make named made, Table.get?_eq_some_iff.2 member]
    rfl
  calc request.rules.keys.flatMap report.forField
      = request.rules.entries.flatMap fun entry => report.forField entry.1 :=
        List.flatMap_map _ _ _
    _ = request.rules.entries.flatMap fun entry =>
          Outcome.failures (validator.fieldOutcomes request entry) :=
        List.flatMap_congr fieldwise
    _ = report.failures := by
        obtain ⟨_, rfl⟩ := make_eq_ok_iff.1 made
        rw [outcomes, Outcome.failures_flatMap]

/-- A failure of a report belongs to exactly one field of the request. -/
theorem existsUnique_field_of_make
    (named : ∀ entry ∈ validator.callbacks.entries, Check.NamesField entry.2) {report : Report}
    (made : validator.make request = .ok report) {failure : Failure}
    (member : failure ∈ report.failures) :
    ∃! field, field ∈ request.rules.keys ∧ failure ∈ report.forField field := by
  rw [← flatMap_forField_of_make named made] at member
  obtain ⟨field, known, inField⟩ := List.mem_flatMap.1 member
  refine ⟨field, ⟨known, inField⟩, ?_⟩
  rintro other ⟨_, inOther⟩
  have isField : failure.field = field := of_decide_eq_true (List.mem_filter.1 inField).2
  have isOther : failure.field = other := of_decide_eq_true (List.mem_filter.1 inOther).2
  exact isOther.symm.trans isField

/-- **Fields are independent.** Let the failures of the registered checks name the field that was
checked. Two reports agree on every field whose rule string, value and label are the same, if the
templates are, whatever the requests say about other fields and whatever the error modes are. The
order of the fields decides neither whether a validation succeeds nor what is reported for a field,
only in which order the fields are reported: the report is the reports of its fields, one after the
other. -/
theorem fields_independent (validator : Validator)
    (named : ∀ entry ∈ validator.callbacks.entries, Check.NamesField entry.2) :
    (∀ (field : String) (mode : ErrorMode) (request second : Request) (report report' : Report),
      second.rules.get? field = request.rules.get? field →
      second.value field = request.value field →
      second.labelFor field = request.labelFor field →
      second.messages = request.messages →
      validator.make request = .ok report →
      { validator with mode := mode }.make second = .ok report' →
      report'.forField field = report.forField field) ∧
    (∀ (request : Request) (rules : Table String), rules.entries.Perm request.rules.entries →
      ((∃ report, validator.make { request with rules := rules } = .ok report) ↔
        ∃ report, validator.make request = .ok report) ∧
      ∀ report report', validator.make request = .ok report →
        validator.make { request with rules := rules } = .ok report' →
        report'.failures.Perm report.failures ∧
        ∀ field, report'.forField field = report.forField field) ∧
    ∀ (request : Request) (report : Report), validator.make request = .ok report →
      (∀ failure ∈ report.failures,
        ∃! field, field ∈ request.rules.keys ∧ failure ∈ report.forField field) ∧
      request.rules.keys.flatMap report.forField = report.failures := by
  refine ⟨?_, ?_, ?_⟩
  · intro field mode request second report report' sameRules sameValue sameLabel sameMessages made
      made'
    have sameOutcomes (rules : String) :
        { validator with mode := mode }.fieldOutcomes second (field, rules) =
          validator.fieldOutcomes request (field, rules) :=
      fieldOutcomes_congr rfl rfl sameValue sameLabel sameMessages
    have namedToo : ∀ entry ∈ { validator with mode := mode }.callbacks.entries,
        Check.NamesField entry.2 := named
    rw [forField_eq_of_make namedToo made', forField_eq_of_make named made, sameRules]
    simp only [sameOutcomes]
  · intro request rules perm
    refine ⟨?_, fun report report' made made' => ⟨?_, fun field => ?_⟩⟩
    · rw [exists_make_eq_ok_iff, exists_make_eq_ok_iff]
      exact Outcome.firstError?_eq_none_iff_of_perm (outcomes_perm perm)
    · obtain ⟨_, rfl⟩ := make_eq_ok_iff.1 made
      obtain ⟨_, rfl⟩ := make_eq_ok_iff.1 made'
      exact (outcomes_perm perm).filterMap Outcome.failure?
    · have sameRules : rules.get? field = request.rules.get? field :=
        Table.get?_eq_of_perm perm field
      have sameOutcomes (text : String) :
          validator.fieldOutcomes { request with rules := rules } (field, text) =
            validator.fieldOutcomes request (field, text) :=
        fieldOutcomes_congr rfl rfl rfl rfl rfl
      rw [forField_eq_of_make named made', forField_eq_of_make named made]
      simp only [sameRules, sameOutcomes]
  · intro request report made
    exact ⟨fun failure member => existsUnique_field_of_make named made member,
      flatMap_forField_of_make named made⟩

/-- Two fields, the same two in the other order, and one of them among others: its failures stay
what they are. -/
theorem fields_independent_two_fields :
    let callbacks : Table Check := .ofList [("never", fun input => .ok (some input.fail))]
    let validator : Validator := ⟨.builtin, .simple, callbacks⟩
    let request := Request.build [.rule "name" "required|never:1", .rule "age" "never"]
    let swapped := Table.ofList [("age", "never"), ("name", "required|never:1")]
    let second := Request.build [.field "size" (.bool true) "str", .label "size" "Size",
      .rule "name" "required|never:1", .mode .extended]
    (∀ entry ∈ callbacks.entries, Check.NamesField entry.2) ∧
    swapped.entries.Perm request.rules.entries ∧
    second.rules.get? "name" = request.rules.get? "name" ∧
    ∃ report report' report'', validator.make request = .ok report ∧
      validator.make { request with rules := swapped } = .ok report' ∧
      { validator with mode := .extended }.make second = .ok report'' ∧
      report'.failures.Perm report.failures ∧
      report'.forField "name" = report.forField "name" ∧
      report''.forField "name" = report.forField "name" ∧
      ["name", "age"].flatMap report.forField = report.failures := by
  intro callbacks validator request swapped second
  have named : ∀ entry ∈ callbacks.entries, Check.NamesField entry.2 := by
    intro entry member
    obtain rfl := List.mem_singleton.1 member
    intro input failure failed
    rw [← Option.some.inj (Except.ok.inj failed)]
    rfl
  have perm : swapped.entries.Perm request.rules.entries :=
    List.Perm.swap ("name", "required|never:1") ("age", "never") []
  obtain ⟨onlyOwn, anyOrder, fieldwise⟩ := fields_independent validator named
  obtain ⟨report, made⟩ : ∃ report, validator.make request = .ok report :=
    exists_make_eq_ok_iff.2 rfl
  obtain ⟨report', made'⟩ := (anyOrder request swapped perm).1.2 ⟨report, made⟩
  obtain ⟨report'', made''⟩ :
      ∃ report, { validator with mode := .extended }.make second = .ok report :=
    exists_make_eq_ok_iff.2 rfl
  obtain ⟨permuted, sameFields⟩ := (anyOrder request swapped perm).2 report report' made made'
  refine ⟨named, perm, rfl, report, report', report'', made, made', made'', permuted,
    sameFields "name", ?_, (fieldwise request report made).2⟩
  exact onlyOwn "name" .extended request second report report'' rfl rfl rfl rfl made made''

end Validator

end FormRules
