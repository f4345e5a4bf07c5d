/-
**Requests.**

A request holds the values of the fields and a rule string for each field that is to be validated,
and may bring labels, messages and checks of its own.

* `Request.value` and `Request.labelFor` are what a field has, entry or not;
* `Request.Step.apply` carries out one step of building a request, and `Request.build` all of them.
-/

import FormRules.Check
import FormRules.Dictionary
import FormRules.ErrorMode
import FormRules.Table

namespace FormRules

/-- What is to be validated. -/
structure Request where
  data : Dictionary Value
  /-- The rule string of each field, in the order in which the fields are validated. -/
  rules : Table String
  labels : Dictionary String
  /-- Templates that replace those of the catalog. -/
  messages : Dictionary String
  /-- Checks under rule names, in the order of their registration. -/
  callbacks : Table Check
  mode : ErrorMode

namespace Request

/-- The request without any field. -/
def empty : Request := ⟨∅, .empty, ∅, ∅, .empty, .simple⟩

/-- The value of a field; a field without an entry holds nothing. -/
def value (request : Request) (field : String) : Value :=
  (request.data.get? field).getD .null

/-- The label of a field, its name if it has none or an empty one. -/
def labelFor (request : Request) (field : String) : String :=
  ((request.labels.get? field).filter (· ≠ "")).getD field

/-- The template that the request has for a rule name; an empty one does not count. -/
def template? (request : Request) (rule : String) : Option String :=
  (request.messages.get? rule).filter (· ≠ "")

/-! ### Building requests -/

/-- A step of building a request. -/
inductive Step where
  /-- A field with its value and rule string. -/
  | field (name : String) (value : Value) (rules : String)
  /-- The rule string of a field, whose value stays as it is. -/
  | rule (name rules : String)
  | label (field label : String)
  | message (rule template : String)
  | callback (rule : String) (check : Check)
  | mode (mode : ErrorMode)

/-- Carries out a step. -/
def Step.apply (request : Request) : Step → Request
  | .field name value rules =>
    { request with
      data := request.data.insert name value
      rules := request.rules.insert name rules }
  | .rule name rules => { request with rules := request.rules.insert name rules }
  | .label name text => { request with labels := request.labels.insert name text }
  | .message name template => { request with messages := request.messages.insert name template }
  | .callback name check => { request with callbacks := request.callbacks.insert name check }
  | .mode chosen => { request with mode := chosen }

/-- The request that steps build. -/
def build (steps : List Step) : Request :=
  steps.foldl Step.apply empty

end Request

end FormRules
