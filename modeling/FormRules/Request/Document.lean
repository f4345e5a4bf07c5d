/-
**Requests as JSON documents.**

A request is an object with the entries `data`, `rules`, `labels`, `messages` and `errors`, or an
array of their values in this order. Only `rules` is needed. Entries under other keys are not looked
at, and the entries that count may come only once.

* `Request.ofJson?` finds a request in a document;
* `Request.read?` reads a text.
-/

import FormRules.Json.Reader
import FormRules.Request

namespace FormRules

/-- The value that a document denotes; arrays and objects are no values. -/
def Value.ofJson? : Json → Option Value
  | .null => some .null
  | .bool truth => some (.bool truth)
  | .number literal => (Json.binary64? literal).map .number
  | .string content => content.map .text
  | .array _ => none
  | .object _ => none

/-- The value that a text denotes. -/
def Value.read? (text : String) : Option Value :=
  (Json.read? text).bind Value.ofJson?

namespace Request

/-- The text of a string. -/
def asText? : Json → Option String
  | .string text => text
  | _ => none

/-- The entries of an object whose values all fit. -/
def asEntries? {α : Type} (read : Json → Option α) : Json → Option (List (String × α))
  | .object entries => entries.mapM fun entry => do return (← entry.1, ← read entry.2)
  | _ => none

/-- How deep arrays and objects may be nested in a document that is looked at. -/
def deepest : Nat := 127

/-- The mode that the value of an entry selects. Any document will do if all its parts denote
something and its nesting, which counts the request around it, is not too deep. -/
def mode? (flag : Json) : Option ErrorMode :=
  if flag.nesting < deepest ∧ flag.isDenoted = true then
    some (.ofFlag (asText? flag))
  else
    none

/-- The parts of a request that a document may hold, as they are written. -/
structure Parts where
  data : Option Json
  rules : Option Json
  labels : Option Json
  messages : Option Json
  errors : Option Json

/-- A part that may be missing but must fit if it is there. -/
def orElse? {α : Type} (missing : α) (read : Json → Option α) : Option Json → Option α
  | none => some missing
  | some document => read document

/-- The request that the parts of a document make. -/
def Parts.toRequest? (parts : Parts) : Option Request := do
  let data ← orElse? [] (asEntries? Value.ofJson?) parts.data
  let rules ← parts.rules.bind (asEntries? asText?)
  let labels ← orElse? [] (asEntries? asText?) parts.labels
  let messages ← orElse? [] (asEntries? asText?) parts.messages
  let mode ← orElse? ErrorMode.simple mode? parts.errors
  return {
    data := .ofEntries data
    rules := .ofList rules
    labels := .ofEntries labels
    messages := .ofEntries messages
    callbacks := .empty
    mode := mode }

/-- The value under one of some keys, `none` if there are several. -/
def single? (keys : List String) (entries : List (String × Json)) : Option (Option Json) :=
  match entries.filter fun entry => keys.contains entry.1 with
  | [] => some none
  | [entry] => some (some entry.2)
  | _ => none

/-- The parts of an object. The flag for the error mode has two names. -/
def Parts.ofEntries? (entries : List (String × Json)) : Option Parts :=
  return {
    data := ← single? ["data"] entries
    rules := ← single? ["rules"] entries
    labels := ← single? ["labels"] entries
    messages := ← single? ["messages"] entries
    errors := ← single? ["errors", "extendedErrors"] entries }

/-- The parts of a document. -/
def Parts.ofJson? : Json → Option Parts
  | .object entries => (asEntries? some (.object entries)).bind Parts.ofEntries?
  | .array elements =>
    if elements.length ≤ 5 then
      some ⟨elements[0]?, elements[1]?, elements[2]?, elements[3]?, elements[4]?⟩
    else
      none
  | _ => none

/-- The request that a document is. -/
def ofJson? (document : Json) : Option Request :=
  (Parts.ofJson? document).bind Parts.toRequest?

/-- The request that a text is. -/
def read? (text : String) : Option Request :=
  (Json.read? text).bind ofJson?

end Request

end FormRules
