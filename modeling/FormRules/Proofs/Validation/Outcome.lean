/-
**From the outcomes of checks to a report.**

A check comes to one of three outcomes: it passes, it fails with a failure, or it stops with an
error. A validation works through a list of outcomes: the first error ends it, and without one the
report gains the failures in their order.

* `Report.extend` is a report after a list of outcomes;
* `Report.extend_append`: working through two lists one after the other;
* `Report.foldlM_extend`: a loop that works through one list per item works through their
  concatenation, and `Report.foldlM_extend_singleton` is the case of one outcome per item.
-/

import FormRules.Report

namespace FormRules

/-- What a check comes to. -/
abbrev Outcome := Except Error (Option Failure)

namespace Outcome

/-- The error of a check that stops. -/
def error? {α : Type} : Except Error α → Option Error
  | .error error => some error
  | .ok _ => none

/-- The failure of a check that fails, in full or in whatever form the outcome keeps of it. -/
def failure? {α : Type} : Except Error (Option α) → Option α
  | .error _ => none
  | .ok failure => failure

/-- The first error among outcomes. -/
def firstError? {α : Type} (outcomes : List (Except Error α)) : Option Error :=
  outcomes.findSome? error?

/-- The failures among outcomes, in their order. -/
def failures {α : Type} (outcomes : List (Except Error (Option α))) : List α :=
  outcomes.filterMap failure?

/-- Without an error every outcome passes or fails. -/
theorem firstError?_eq_none_iff {outcomes : List Outcome} :
    firstError? outcomes = none ↔ ∀ outcome ∈ outcomes, error? outcome = none :=
  List.findSome?_eq_none_iff

theorem firstError?_append (first second : List Outcome) :
    firstError? (first ++ second) = (firstError? first).or (firstError? second) :=
  List.findSome?_append

theorem failures_append (first second : List Outcome) :
    failures (first ++ second) = failures first ++ failures second :=
  List.filterMap_append

/-- The failures of several lists of outcomes, list by list. -/
theorem failures_flatMap {α : Type} (items : List α) (outcomes : α → List Outcome) :
    failures (items.flatMap outcomes) = items.flatMap fun item => failures (outcomes item) :=
  List.filterMap_flatMap

/-- The first error of several lists of outcomes is that of the first list with one. -/
theorem firstError?_flatMap {α : Type} (items : List α) (outcomes : α → List Outcome) :
    firstError? (items.flatMap outcomes) =
      items.findSome? fun item => firstError? (outcomes item) := by
  induction items with
  | nil => rfl
  | cons item rest ih =>
    rw [List.flatMap_cons, firstError?_append, ih, List.findSome?_cons]
    cases firstError? (outcomes item) <;> rfl

end Outcome

namespace Report

/-- The report after outcomes in order: the first error ends the validation, and without one the
failures are added. -/
def extend (report : Report) (outcomes : List Outcome) : Except Error Report :=
  match Outcome.firstError? outcomes with
  | some error => .error error
  | none => .ok { report with failures := report.failures ++ Outcome.failures outcomes }

theorem extend_of_error {outcomes : List Outcome} {error : Error}
    (stops : Outcome.firstError? outcomes = some error) (report : Report) :
    report.extend outcomes = .error error := by
  rw [extend, stops]

theorem extend_of_none {outcomes : List Outcome} (runs : Outcome.firstError? outcomes = none)
    (report : Report) :
    report.extend outcomes =
      .ok { report with failures := report.failures ++ Outcome.failures outcomes } := by
  rw [extend, runs]

theorem extend_nil (report : Report) : report.extend [] = .ok report := by
  rw [extend_of_none rfl]
  simp [Outcome.failures]

/-- One outcome stops the validation, adds its failure or changes nothing. -/
theorem extend_singleton (report : Report) (outcome : Outcome) :
    report.extend [outcome] = (do
      match ← outcome with
      | some failure => return report.push failure
      | none => return report) := by
  cases outcome with
  | error error => rfl
  | ok failure? =>
    rw [extend_of_none rfl]
    cases failure? with
    | none =>
      show Except.ok (⟨report.mode, report.failures ++ []⟩ : Report) = .ok report
      rw [List.append_nil]
    | some failure => rfl

/-- Working through two lists of outcomes one after the other. -/
theorem extend_append (report : Report) (first second : List Outcome) :
    report.extend (first ++ second) =
      report.extend first >>= fun extended => extended.extend second := by
  cases stops : Outcome.firstError? first with
  | some error =>
    have whole : Outcome.firstError? (first ++ second) = some error := by
      rw [Outcome.firstError?_append, stops, Option.some_or]
    rw [extend_of_error whole, extend_of_error stops]
    rfl
  | none =>
    have whole : Outcome.firstError? (first ++ second) = Outcome.firstError? second := by
      rw [Outcome.firstError?_append, stops, Option.none_or]
    rw [extend_of_none stops, extend, whole, Outcome.failures_append, ← List.append_assoc]
    rfl

/-- What outcomes add to a report does not depend on what it already holds. -/
theorem extend_eq_bind (report : Report) (outcomes : List Outcome) :
    report.extend outcomes = do
      let added ← (empty report.mode).extend outcomes
      return { report with failures := report.failures ++ added.failures } := by
  cases stops : Outcome.firstError? outcomes with
  | some error =>
    rw [extend_of_error stops, extend_of_error stops]
    rfl
  | none =>
    rw [extend_of_none stops, extend_of_none stops]
    rfl

/-- A loop that works through one list of outcomes per item works through all of them in order. -/
theorem foldlM_extend {α : Type} (items : List α) (outcomes : α → List Outcome) (report : Report) :
    items.foldlM (fun report item => report.extend (outcomes item)) report =
      report.extend (items.flatMap outcomes) := by
  induction items generalizing report with
  | nil => exact (extend_nil report).symm
  | cons item rest ih =>
    rw [List.foldlM_cons, List.flatMap_cons, extend_append]
    simp only [ih]

/-- A loop that works through one outcome per item. -/
theorem foldlM_extend_singleton {α : Type} (items : List α) (outcome : α → Outcome)
    {step : Report → α → Except Error Report}
    (each : ∀ report item, step report item = report.extend [outcome item]) (report : Report) :
    items.foldlM step report = report.extend (items.map outcome) := by
  have sameStep : step = fun report item => report.extend [outcome item] := by
    funext report item
    exact each report item
  rw [sameStep, foldlM_extend, ← List.map_eq_flatMap]

end Report

end FormRules
