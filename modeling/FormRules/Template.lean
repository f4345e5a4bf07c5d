/-
**Message templates.**

A template is a text with placeholders for the label of a field and for the parameter of a rule.

* `Placeholder.at?` recognizes a placeholder at the start of a text;
* `Template.render` replaces the placeholders in one pass from left to right: what is put in is not
  looked at again.
-/

namespace FormRules

/-- A placeholder of message templates. -/
inductive Placeholder where
  /-- The label of the field. -/
  | fieldLabel
  /-- The parameter of the rule. -/
  | fieldSize
deriving DecidableEq

namespace Placeholder

/-- Every placeholder. -/
def all : List Placeholder := [fieldLabel, fieldSize]

/-- A placeholder as it is written in templates. -/
def token : Placeholder → String
  | fieldLabel => "#fieldLabel#"
  | fieldSize => "#fieldSize#"

/-- The placeholder that a text starts with. -/
def at? (text : List Char) : Option Placeholder :=
  all.find? fun placeholder => placeholder.token.toList.isPrefixOf text

/-- What stands for a placeholder in a message: the label, and the parameter if there is one. A
placeholder without a value stays as it is written. -/
def value (label : String) (size : Option String) : Placeholder → String
  | fieldLabel => label
  | fieldSize => size.getD fieldSize.token

theorem token_length_pos (placeholder : Placeholder) : 0 < placeholder.token.toList.length := by
  cases placeholder <;> decide

end Placeholder

namespace Template

/-- The message that a template makes for a label and a parameter. The first placeholder from the
left is replaced and the text behind it goes on as a template. -/
def renderChars (label : String) (size : Option String) (template : List Char) : List Char :=
  match template with
  | [] => []
  | letter :: rest =>
    match Placeholder.at? (letter :: rest) with
    | some placeholder =>
      (placeholder.value label size).toList ++
        renderChars label size ((letter :: rest).drop placeholder.token.toList.length)
    | none => letter :: renderChars label size rest
termination_by template.length
decreasing_by
  · have := placeholder.token_length_pos
    simp only [List.length_drop, List.length_cons]
    omega
  · simp

/-- The message that a template makes for a label and a parameter. -/
def render (template label : String) (size : Option String) : String :=
  String.ofList (renderChars label size template.toList)

end Template

/-- The message of rules that have no template at all. -/
def fallbackTemplate : String := "The #fieldLabel# is invalid!"

end FormRules
