/-
**What building steps leave in a request.**

A step of building a request writes an entry to some of its parts. Each part is made of the entries
that the steps write to it, one after the other, so later entries of a name replace earlier ones.
The rule strings keep the order in which their fields came first.

* `Request.Step.datum?` and the definitions behind it are what a step writes to each part;
* `Request.foldl_apply` and `Request.build_eq`: the parts of a request that is built;
* `Table.keys_ofList`, `Table.get?_ofList` and `Dictionary.get?_ofEntries`: what is found in parts
  that are made of entries.
-/

import FormRules.Request
import Mathlib.Data.List.Basic
import Mathlib.Data.List.Induction

namespace FormRules

/-! ### Parts made of entries -/

section Entries

variable {α : Type} (entries : List (String × α))

/-- **A table made of entries has each of their keys once, at its first position.** -/
theorem Table.keys_ofList : (ofList entries).keys = (entries.map Prod.fst).eraseDups := by
  induction entries using List.reverseRecOn with
  | nil => rfl
  | append_singleton entries entry ih =>
    have built : ofList (entries ++ [entry]) = (ofList entries).insert entry.1 entry.2 := by
      rw [ofList, insertAll, List.foldl_concat]
      rfl
    rw [built, List.map_append, List.map_singleton, List.eraseDups_append, ← ih, List.removeAll]
    by_cases known : entry.1 ∈ (ofList entries).keys
    · have listed : entry.1 ∈ entries.map Prod.fst := by
        rwa [ih, List.mem_eraseDups] at known
      rw [keys_insert_of_mem _ known]
      simp [listed]
    · have new : entry.1 ∉ entries.map Prod.fst := by
        rwa [ih, List.mem_eraseDups] at known
      rw [keys_insert_of_not_mem _ known]
      simp [new, List.eraseDups_cons]

/-- A table made of entries has the last value of each key. -/
theorem Table.get?_ofList (key : String) :
    (ofList entries).get? key = entries.reverse.lookup key := by
  rw [ofList, get?_insertAll]
  exact Option.or_none

/-- A dictionary made of entries has the last value of each key. -/
theorem Dictionary.get?_ofEntries (key : String) :
    (ofEntries entries).get? key = entries.reverse.lookup key := by
  induction entries using List.reverseRecOn with
  | nil => exact Std.ExtTreeMap.getElem?_empty
  | append_singleton entries entry ih =>
    rw [ofEntries, List.foldl_concat, List.reverse_concat, List.lookup_cons, ← ih]
    refine Std.ExtTreeMap.getElem?_insert.trans ?_
    by_cases same : key = entry.1
    · rw [same, beq_self_eq_true]
      exact if_pos Std.ReflCmp.compare_self
    · rw [beq_eq_false_iff_ne.2 same]
      exact if_neg fun equal => same (Std.LawfulEqCmp.eq_of_compare equal).symm

end Entries

namespace Request

/-! ### What a step writes -/

namespace Step

/-- The value that a step writes. -/
def datum? : Step → Option (String × Value)
  | field name value _ => some (name, value)
  | _ => none

/-- The rule string that a step writes. -/
def ruled? : Step → Option (String × String)
  | field name _ rules => some (name, rules)
  | rule name rules => some (name, rules)
  | _ => none

/-- The label that a step writes. -/
def labelled? : Step → Option (String × String)
  | label name text => some (name, text)
  | _ => none

/-- The template that a step writes. -/
def worded? : Step → Option (String × String)
  | message name template => some (name, template)
  | _ => none

/-- The check that a step registers. -/
def registered? : Step → Option (String × Check)
  | callback name check => some (name, check)
  | _ => none

/-- The mode that a step chooses. -/
def mode? : Step → Option ErrorMode
  | mode chosen => some chosen
  | _ => none

end Step

variable (steps : List Step)

/-! ### Requests that are built -/

/-- Steps write to each part of a request what they write to it one after the other. -/
theorem foldl_apply (request : Request) :
    steps.foldl Step.apply request = {
      data := (steps.filterMap Step.datum?).foldl
        (fun dictionary entry => dictionary.insert entry.1 entry.2) request.data
      rules := request.rules.insertAll (steps.filterMap Step.ruled?)
      labels := (steps.filterMap Step.labelled?).foldl
        (fun dictionary entry => dictionary.insert entry.1 entry.2) request.labels
      messages := (steps.filterMap Step.worded?).foldl
        (fun dictionary entry => dictionary.insert entry.1 entry.2) request.messages
      callbacks := request.callbacks.insertAll (steps.filterMap Step.registered?)
      mode := (steps.filterMap Step.mode?).getLast?.getD request.mode } := by
  induction steps generalizing request with
  | nil => rfl
  | cons step rest ih =>
    rw [List.foldl_cons, ih]
    cases step with
    | mode chosen =>
      have last : (chosen :: rest.filterMap Step.mode?).getLast?.getD request.mode =
          (rest.filterMap Step.mode?).getLast?.getD chosen := by
        rw [List.getLast?_cons, Option.getD_some]
      rw [List.filterMap_cons_some (show Step.mode? (.mode chosen) = some chosen from rfl), last]
      rfl
    | field | rule | label | message | callback => rfl

/-- **A request that is built is made of what its steps write.** -/
theorem build_eq : build steps = {
    data := .ofEntries (steps.filterMap Step.datum?)
    rules := .ofList (steps.filterMap Step.ruled?)
    labels := .ofEntries (steps.filterMap Step.labelled?)
    messages := .ofEntries (steps.filterMap Step.worded?)
    callbacks := .ofList (steps.filterMap Step.registered?)
    mode := (steps.filterMap Step.mode?).getLast?.getD .simple } :=
  foldl_apply steps empty

end Request

end FormRules
