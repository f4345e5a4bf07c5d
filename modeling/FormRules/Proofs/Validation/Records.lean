/-
**Where the records of a report come from.**

Every record of a report is the failure of one call: a field of the request and a segment of its
rule string. A built-in check words its failure by what it got to see and by nothing else.

* `Request.calls` are the calls of a request, in order;
* `Validator.failures_of_make`: the failures of a report are those of its calls;
* `Validator.eq_fail_of_runCall`: what the failure of a built-in rule is;
* `Validator.ofRequest_eq` is the validator of a request.
-/

import FormRules.Proofs.BuiltinCheck
import FormRules.Proofs.Validation.Scan
import Mathlib.Data.List.Basic

namespace FormRules

/-- The calls of a request, each with its field, in the order in which they are run. -/
def Request.calls (request : Request) : List (String × Call) :=
  request.rules.entries.flatMap fun entry =>
    (Segment.texts entry.2).map fun text => (entry.1, Segment.callOf text)

namespace Validator

variable {validator : Validator} {request : Request}

/-- The validator of a request has its checks and its mode. -/
theorem ofRequest_eq (request : Request) (catalog : Catalog) :
    ofRequest request catalog = ⟨catalog, request.mode, request.callbacks⟩ := by
  have sameChecks := request.callbacks.ofList_entries
  show (⟨catalog, request.mode, Table.empty.insertAll request.callbacks.entries⟩ : Validator) = _
  rw [Table.ofList] at sameChecks
  rw [sameChecks]

/-! ### Records and calls -/

/-- A validation that succeeds has met no blank segment. -/
theorem not_blank_of_firstError?_eq_none
    (clean : Outcome.firstError? (validator.outcomes request) = none) {entry : String × String}
    (member : entry ∈ request.rules.entries) :
    ¬ ∃ text ∈ Segment.texts entry.2, Segment.Blank text := by
  intro blank
  have stops : validator.fieldOutcomes request entry = [.error (.emptyRule entry.1 entry.2)] :=
    if_pos blank
  have listed : .error (.emptyRule entry.1 entry.2) ∈ validator.outcomes request := by
    refine List.mem_flatMap.2 ⟨entry, member, ?_⟩
    rw [stops]
    exact List.mem_singleton_self _
  cases Outcome.firstError?_eq_none_iff.1 clean _ listed

/-- **The failures of a report are those of the calls**, in their order. -/
theorem failures_of_make {report : Report} (made : validator.make request = .ok report) :
    report.failures = request.calls.filterMap fun origin =>
      Outcome.failure? (validator.runCall request origin.1 origin.2) := by
  obtain ⟨clean, rfl⟩ := make_eq_ok_iff.1 made
  show Outcome.failures (validator.outcomes request) = _
  rw [outcomes, Outcome.failures_flatMap, Request.calls, List.filterMap_flatMap]
  refine List.flatMap_congr fun entry member => ?_
  rw [fieldOutcomes, if_neg (not_blank_of_firstError?_eq_none clean member), Outcome.failures,
    List.filterMap_map, List.filterMap_map]
  refine List.filterMap_congr fun text _ => ?_
  exact congrArg Outcome.failure? (runCall_callOf entry.1 text).symm

/-! ### The failure of a call -/

section Call

variable {field : String} {call : Call} {failure : Failure}

/-- A call of a built-in rule runs its check. -/
theorem runCall_of_builtin {rule : Rule} (unregistered : validator.callbacks.get? call.name = none)
    (found : Rule.ofName? call.name = some rule) :
    validator.runCall request field call =
      rule.check (validator.inputFor request field call (.builtin rule)) := by
  have resolved : validator.resolve call.name = some (.builtin rule) := by
    rw [resolve, unregistered, found]
    rfl
  rw [runCall, resolved]
  rfl

/-- **The record of a built-in rule** is the failure of what its check got to see. -/
theorem eq_fail_of_runCall {rule : Rule} (unregistered : validator.callbacks.get? call.name = none)
    (found : Rule.ofName? call.name = some rule)
    (failed : validator.runCall request field call = .ok (some failure)) :
    failure = (validator.inputFor request field call (.builtin rule)).fail := by
  rw [runCall_of_builtin unregistered found] at failed
  exact Rule.eq_fail_of_check failed

end Call

end Validator

end FormRules
