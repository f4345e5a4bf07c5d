/-
**Requests as documents.**

The object that lists what building steps write reads as the request that the steps build. Of an
object itself only the values under the known keys count: neither the order of its entries nor
entries under other keys matter, and the flag for the error mode has two names.

* `Value.IsWritten`: how a value is written, and `Value.ofJson?_eq_some_iff` compares it with the
  reader;
* `Request.listing` is the object that lists steps, and `Request.ofJson?_listing`: it reads as the
  request that they build;
* `Request.under` are the values under some keys, and `Request.ofJson?_object_congr`: an object is
  read by these alone, and `Request.ofJson?_object_repeated`: not at all if a part comes twice;
* `Request.build_agrees_with_read` is the result.
-/

import FormRules.Proofs.Json.RoundTrip
import FormRules.Proofs.Request.Building
import FormRules.Request.Document
import Mathlib.Data.List.Forall2

namespace FormRules

/-! ### Values -/

/-- **A value is written as a document.** A number may be written by any literal that denotes it. -/
inductive Value.IsWritten : Value → Json → Prop
  | null : IsWritten .null .null
  | bool (truth : Bool) : IsWritten (.bool truth) (.bool truth)
  | number {amount : Binary64} {literal : Decimal.Literal}
      (denotes : Json.binary64? literal = some amount) :
      IsWritten (.number amount) (.number literal)
  | text (content : String) : IsWritten (.text content) (.ofText content)

/-- A document is read as exactly the value that is written so. -/
theorem Value.ofJson?_eq_some_iff {document : Json} {value : Value} :
    ofJson? document = some value ↔ value.IsWritten document := by
  constructor
  · intro read
    cases document with
    | null =>
      cases read
      exact .null
    | bool truth =>
      cases read
      exact .bool truth
    | number literal =>
      rw [ofJson?, Option.map_eq_some_iff] at read
      obtain ⟨amount, denotes, rfl⟩ := read
      exact .number denotes
    | string content =>
      obtain ⟨content, rfl, rfl⟩ := Option.map_eq_some_iff.1 read
      exact .text content
    | array elements => cases read
    | object entries => cases read
  · rintro (_ | _ | denotes | _)
    · rfl
    · rfl
    · rw [ofJson?, denotes]
      rfl
    · rfl

namespace Request

/-! ### Objects of entries -/

/-- An entry with the value of another one as a document. -/
structure IsWrittenEntry (entry : String × Value) (written : String × Json) : Prop where
  key : written.1 = entry.1
  value : entry.2.IsWritten written.2

/-- Entries that fit are read in order, repeated keys included. -/
theorem asEntries?_ofEntries {α : Type} {read : Json → Option α} {entries : List (String × α)}
    {written : List (String × Json)}
    (fits : List.Forall₂ (fun entry document =>
      document.1 = entry.1 ∧ read document.2 = some entry.2) entries written) :
    asEntries? read (.ofEntries written) = some entries := by
  induction fits with
  | nil => rfl
  | @cons entry document entries written fit _ ih =>
    rw [Json.ofEntries, asEntries?] at ih ⊢
    rw [List.map_cons, List.mapM_cons, ih, fit.1, fit.2]
    rfl

/-- Texts under names as an object. -/
def textsObject (entries : List (String × String)) : Json :=
  .ofEntries (entries.map fun entry => (entry.1, .ofText entry.2))

theorem asEntries?_textsObject (entries : List (String × String)) :
    asEntries? asText? (textsObject entries) = some entries := by
  refine asEntries?_ofEntries (List.forall₂_map_right_iff.2 (List.forall₂_same.2 ?_))
  intro entry _
  exact ⟨rfl, rfl⟩

/-- **The object that lists steps**: what they write to each part in order, the values as documents,
and a flag for the error mode that may be missing. -/
def listing (steps : List Step) (data : List (String × Json)) (flag : Option Json) : Json :=
  .ofEntries ([("data", .ofEntries data),
    ("rules", textsObject (steps.filterMap Step.ruled?)),
    ("labels", textsObject (steps.filterMap Step.labelled?)),
    ("messages", textsObject (steps.filterMap Step.worded?))] ++
    (flag.map fun document => ("errors", document)).toList)

/-- The parts of a listing are what it lists. -/
theorem parts_listing (steps : List Step) (data : List (String × Json)) (flag : Option Json) :
    Parts.ofJson? (listing steps data flag) = some {
      data := some (.ofEntries data)
      rules := some (textsObject (steps.filterMap Step.ruled?))
      labels := some (textsObject (steps.filterMap Step.labelled?))
      messages := some (textsObject (steps.filterMap Step.worded?))
      errors := flag } := by
  cases flag <;> rfl

/-- A listing can be written if the values and the flag can. -/
theorem regular_listing {steps : List Step} {data : List (String × Json)} {flag : Option Json}
    (regularData : ∀ entry ∈ data, Json.Regular entry.2)
    (regularFlag : ∀ document ∈ flag, Json.Regular document) :
    Json.Regular (listing steps data flag) := by
  have ofEntries {entries : List (String × Json)}
      (regular : ∀ entry ∈ entries, Json.Regular entry.2) : Json.Regular (.ofEntries entries) := by
    refine .object fun entry member => ?_
    obtain ⟨entry, inside, rfl⟩ := List.mem_map.1 member
    exact regular entry inside
  have texts (entries : List (String × String)) : Json.Regular (textsObject entries) := by
    refine ofEntries fun entry member => ?_
    obtain ⟨entry, _, rfl⟩ := List.mem_map.1 member
    exact .string _
  refine ofEntries fun entry member => ?_
  rcases List.mem_append.1 member with inPart | isFlag
  · simp only [List.mem_cons, List.not_mem_nil, or_false] at inPart
    rcases inPart with rfl | rfl | rfl | rfl
    · exact ofEntries regularData
    · exact texts _
    · exact texts _
    · exact texts _
  · obtain ⟨document, given, rfl⟩ := Option.map_eq_some_iff.1 (Option.mem_toList.1 isFlag)
    exact regularFlag document given

/-- A flag selects the extended mode exactly if it is the word for it. -/
theorem ofFlag_eq_extended_iff {flag : Json} :
    ErrorMode.ofFlag (asText? flag) = .extended ↔ flag = .ofText "extended" := by
  constructor
  · intro selects
    cases flag with
    | string content =>
      cases content with
      | none => cases selects
      | some word =>
        rw [asText?, ErrorMode.ofFlag] at selects
        split at selects
        · next same => rw [same, Json.ofText]
        · cases selects
    | null | bool | number | array | object => cases selects
  · rintro rfl
    rfl

/-- A flag that may be missing selects the mode that it is the word for. -/
theorem orElse?_mode?_eq_some {flag : Option Json} {mode : ErrorMode}
    (readable : ∀ document, flag = some document →
      document.nesting < deepest ∧ document.isDenoted = true)
    (selects : flag = some (.ofText "extended") ↔ mode = .extended) :
    orElse? ErrorMode.simple mode? flag = some mode := by
  cases flag with
  | none =>
    cases mode with
    | simple => rfl
    | extended => cases selects.2 rfl
  | some document =>
    rw [orElse?, mode?, if_pos (readable document rfl)]
    rw [Option.some.injEq, ← ofFlag_eq_extended_iff] at selects
    revert selects
    cases ErrorMode.ofFlag (asText? document) <;> cases mode <;> simp

/-- **The object that lists steps reads as the request that they build**, if no step registers a
check. -/
theorem ofJson?_listing {steps : List Step} {data : List (String × Json)} {flag : Option Json}
    (noChecks : ∀ step ∈ steps, step.registered? = none)
    (written : List.Forall₂ IsWrittenEntry (steps.filterMap Step.datum?) data)
    (readable : ∀ document, flag = some document →
      document.nesting < deepest ∧ document.isDenoted = true)
    (selects : flag = some (.ofText "extended") ↔ (build steps).mode = .extended) :
    ofJson? (listing steps data flag) = some (build steps) := by
  have dataRead : asEntries? Value.ofJson? (.ofEntries data) =
      some (steps.filterMap Step.datum?) :=
    asEntries?_ofEntries (written.imp fun _ _ entry =>
      ⟨entry.key, Value.ofJson?_eq_some_iff.2 entry.value⟩)
  have modeRead := orElse?_mode?_eq_some readable selects
  have noneRegistered : steps.filterMap Step.registered? = [] :=
    List.filterMap_eq_nil_iff.2 noChecks
  rw [ofJson?, parts_listing, Option.bind_some, Parts.toRequest?, modeRead, build_eq,
    noneRegistered]
  simp only [orElse?, Option.bind_some, dataRead, asEntries?_textsObject]
  rfl

/-! ### What an object is read by -/

/-- The values under some keys, in order. -/
def under (keys : List String) (entries : List (Option String × Json)) : List Json :=
  entries.filterMap fun entry => if entry.1.any keys.contains then some entry.2 else none

/-- The element of a list with at most one. -/
def atMostOne? {α : Type} : List α → Option (Option α)
  | [] => some none
  | [item] => some (some item)
  | _ => none

/-- The keys of the parts of a request. -/
def partKeys : List (List String) :=
  [["data"], ["rules"], ["labels"], ["messages"], ["errors", "extendedErrors"]]

/-- An entry with its key, if this denotes a text. -/
def named? (entry : Option String × Json) : Option (String × Json) :=
  entry.1.map fun key => (key, entry.2)

variable {first second : List (Option String × Json)}

/-- An object has named entries if all its keys denote texts. -/
theorem asEntries?_some (entries : List (Option String × Json)) :
    asEntries? some (.object entries) =
      if entries.all (·.1.isSome) then some (entries.filterMap named?) else none := by
  rw [asEntries?]
  induction entries with
  | nil => rfl
  | cons entry rest ih =>
    obtain ⟨key, value⟩ := entry
    rw [List.mapM_cons, ih]
    cases key with
    | none => rfl
    | some key => cases every : rest.all (·.1.isSome) <;> simp [every, named?]

/-- A part is the only value under its keys. -/
theorem single?_filterMap_named? (keys : List String) (entries : List (Option String × Json)) :
    single? keys (entries.filterMap named?) = atMostOne? (under keys entries) := by
  have kept : ((entries.filterMap named?).filter fun entry => keys.contains entry.1).map Prod.snd =
      under keys entries := by
    induction entries with
    | nil => rfl
    | cons entry rest ih =>
      obtain ⟨key, value⟩ := entry
      cases key with
      | none => exact ih
      | some key =>
        rw [under] at ih ⊢
        by_cases known : key ∈ keys <;> simp [named?, known, ← ih]
  rw [single?, ← kept]
  generalize (entries.filterMap named?).filter _ = found
  rcases found with _ | ⟨_, _ | ⟨_, _⟩⟩ <;> rfl

/-- An object whose keys denote texts is read part by part, and no other object is read. -/
theorem ofJson?_object (entries : List (Option String × Json)) :
    ofJson? (.object entries) =
      if entries.all (·.1.isSome) then
        (Parts.ofEntries? (entries.filterMap named?)).bind Parts.toRequest?
      else none := by
  rw [ofJson?, Parts.ofJson?, asEntries?_some]
  split <;> rfl

theorem atMostOne?_eq_none {α : Type} {items : List α} (several : 2 ≤ items.length) :
    atMostOne? items = none := by
  rcases items with _ | ⟨_, _ | ⟨_, _⟩⟩
  · cases several
  · exact absurd several (by simp)
  · rfl

/-- The order of a list decides nothing about its only element. -/
theorem atMostOne?_eq_of_perm {α : Type} {items others : List α} (perm : items.Perm others) :
    atMostOne? items = atMostOne? others := by
  have sameLength := perm.length_eq
  rcases items with _ | ⟨item, _ | ⟨_, _⟩⟩
  · rw [List.nil_perm.1 perm]
  · rw [List.singleton_perm.1 perm]
  · rcases others with _ | ⟨_, _ | ⟨_, _⟩⟩
    · cases sameLength
    · cases sameLength
    · rfl

/-- **An object is read by the values under the keys of the parts**, if its keys denote texts. -/
theorem ofJson?_object_congr
    (keyed : first.all (·.1.isSome) = second.all (·.1.isSome))
    (same : ∀ keys ∈ partKeys, atMostOne? (under keys first) = atMostOne? (under keys second)) :
    ofJson? (.object first) = ofJson? (.object second) := by
  have sameParts (keys : List String) (known : keys ∈ partKeys) :
      single? keys (first.filterMap named?) = single? keys (second.filterMap named?) := by
    rw [single?_filterMap_named?, single?_filterMap_named?, same keys known]
  rw [ofJson?_object, ofJson?_object, keyed, Parts.ofEntries?, Parts.ofEntries?,
    sameParts ["data"] (by decide), sameParts ["rules"] (by decide),
    sameParts ["labels"] (by decide), sameParts ["messages"] (by decide),
    sameParts ["errors", "extendedErrors"] (by decide)]

/-- The order of the entries of an object does not matter. -/
theorem ofJson?_object_of_perm (perm : first.Perm second) :
    ofJson? (.object first) = ofJson? (.object second) :=
  ofJson?_object_congr perm.all_eq fun _ _ => atMostOne?_eq_of_perm (perm.filterMap _)

variable (before after : List (Option String × Json))

/-- An entry counts under the keys that it has. -/
theorem under_append_cons (keys : List String) (key : String) (value : Json) :
    under keys (before ++ (some key, value) :: after) =
      under keys before ++ (if keys.contains key then [value] else []) ++ under keys after := by
  rw [under, under, under, List.filterMap_append]
  by_cases known : key ∈ keys <;> simp [known]

/-- An entry under an unknown key does not count. -/
theorem ofJson?_object_unknown {key : String} (unknown : key ∉ partKeys.flatten) (value : Json) :
    ofJson? (.object (before ++ (some key, value) :: after)) =
      ofJson? (.object (before ++ after)) := by
  refine ofJson?_object_congr (by simp) fun keys known => congrArg atMostOne? ?_
  have foreign : keys.contains key = false := by
    rw [List.contains_eq_mem, decide_eq_false_iff_not]
    exact fun member => unknown (List.mem_flatten.2 ⟨keys, known, member⟩)
  rw [under_append_cons, foreign, under, under, under, List.filterMap_append]
  simp

/-- The two names of the flag are alike. -/
theorem ofJson?_object_renamed (flag : Json) :
    ofJson? (.object (before ++ (some "errors", flag) :: after)) =
      ofJson? (.object (before ++ (some "extendedErrors", flag) :: after)) := by
  have sameKeys : ∀ keys ∈ partKeys,
      keys.contains "errors" = keys.contains "extendedErrors" := by decide
  refine ofJson?_object_congr (by simp) fun keys known => congrArg atMostOne? ?_
  rw [under_append_cons, under_append_cons, sameKeys keys known]

/-- A part that comes twice is refused. -/
theorem ofJson?_object_repeated {keys : List String} (known : keys ∈ partKeys)
    {entries : List (Option String × Json)} (several : 2 ≤ (under keys entries).length) :
    ofJson? (.object entries) = none := by
  have noPart : single? keys (entries.filterMap named?) = none := by
    rw [single?_filterMap_named?, atMostOne?_eq_none several]
  have noParts : Parts.ofEntries? (entries.filterMap named?) = none := by
    rw [partKeys] at known
    simp only [List.mem_cons, List.not_mem_nil, or_false] at known
    rcases known with rfl | rfl | rfl | rfl | rfl <;> simp [Parts.ofEntries?, noPart]
  rw [ofJson?_object, noParts]
  split <;> rfl

/-! ### The result -/

/-- **Building a request and reading it agree.** A text that lists building steps without checks
reads as the request that they build; numbers may be written in any way that reads back, and the
flag may be anything that can be read, as long as it is the word for the extended mode exactly if
the steps leave this mode. The rule strings of a request that is built stand in the order in which
their fields came first, and each field has its last one; a step for the rule string alone keeps the
value; the other parts have the last entry of each name. Of an object neither the order of its
entries nor entries under unknown keys matter, and the flag has two names; a part that comes twice,
also under both names, is refused. -/
theorem build_agrees_with_read :
    (∀ (steps : List Step) (data : List (String × Json)) (flag : Option Json) (text : String),
      (∀ step ∈ steps, step.registered? = none) →
      List.Forall₂ IsWrittenEntry (steps.filterMap Step.datum?) data →
      (∀ document, flag = some document →
        document.nesting < deepest ∧ document.isDenoted = true) →
      (flag = some (.ofText "extended") ↔ (build steps).mode = .extended) →
      Json.read? text = some (listing steps data flag) → read? text = some (build steps)) ∧
    (∀ steps : List Step,
      (build steps).rules.keys = ((steps.filterMap Step.ruled?).map Prod.fst).eraseDups ∧
      (∀ name, (build steps).rules.get? name =
        (steps.filterMap Step.ruled?).reverse.lookup name) ∧
      (∀ name, (build steps).data.get? name =
        (steps.filterMap Step.datum?).reverse.lookup name) ∧
      (∀ name, (build steps).labels.get? name =
        (steps.filterMap Step.labelled?).reverse.lookup name) ∧
      (∀ name, (build steps).messages.get? name =
        (steps.filterMap Step.worded?).reverse.lookup name) ∧
      (build steps).mode = (steps.filterMap Step.mode?).getLast?.getD .simple) ∧
    (∀ (before after : List Step) (name rules : String),
      (build (before ++ .rule name rules :: after)).data = (build (before ++ after)).data) ∧
    (∀ first second : List (Option String × Json), first.Perm second →
      ofJson? (.object first) = ofJson? (.object second)) ∧
    (∀ (before after : List (Option String × Json)) (key : String) (value : Json),
      key ∉ ["data", "rules", "labels", "messages", "errors", "extendedErrors"] →
      ofJson? (.object (before ++ (some key, value) :: after)) =
        ofJson? (.object (before ++ after))) ∧
    (∀ (before after : List (Option String × Json)) (flag : Json),
      ofJson? (.object (before ++ (some "errors", flag) :: after)) =
        ofJson? (.object (before ++ (some "extendedErrors", flag) :: after))) ∧
    ∀ keys ∈ partKeys, ∀ entries, 2 ≤ (under keys entries).length →
      ofJson? (.object entries) = none := by
  refine ⟨fun steps data flag text noChecks written readable selects listed => ?_,
    fun steps => ?_, fun before after name rules => ?_, fun _ _ => ofJson?_object_of_perm,
    fun before after key value unknown => ofJson?_object_unknown before after unknown value,
    ofJson?_object_renamed, fun keys known entries => ofJson?_object_repeated known⟩
  · rw [read?, listed, Option.bind_some]
    exact ofJson?_listing noChecks written readable selects
  · rw [build_eq]
    exact ⟨Table.keys_ofList _, Table.get?_ofList _, Dictionary.get?_ofEntries _,
      Dictionary.get?_ofEntries _, Dictionary.get?_ofEntries _, rfl⟩
  · rw [build_eq, build_eq]
    refine congrArg Dictionary.ofEntries ?_
    rw [List.filterMap_append, List.filterMap_append, List.filterMap_cons_none rfl]

/-- A field that comes twice, with a number and with nothing, and objects with an unknown key, in
another order and with both names of the flag. -/
theorem build_agrees_with_read_repeated :
    let literal : Decimal.Literal := ⟨true, ['1'], ['5'], 1⟩
    ∃ amount, Json.binary64? literal = some amount ∧
      let steps : List Step := [.field "age" (.number amount) "str", .rule "name" "required",
        .label "age" "Years", .field "age" .null "natural", .label "age" "Age", .mode .extended]
      let data := [("age", .number literal), ("age", .null)]
      read? (listing steps data (some (.ofText "extended"))).compact = some (build steps) ∧
      (build steps).rules.keys = ["age", "name"] ∧
      (build steps).rules.get? "age" = some "natural" ∧
      ofJson? (.object [(some "errors", .null), (some "rules", .object [])]) =
        ofJson? (.object [(some "rules", .object []), (some "errors", .null)]) ∧
      ofJson? (.object [(some "rules", .object []), (some "callbacks", .null)]) =
        ofJson? (.object [(some "rules", .object [])]) ∧
      ofJson? (.object [(some "errors", .null), (some "rules", .object []),
        (some "extendedErrors", .null)]) = none := by
  intro literal
  obtain ⟨amount, denotes⟩ : ∃ amount, Json.binary64? literal = some amount :=
    Option.isSome_iff_exists.1 (by decide +kernel)
  refine ⟨amount, denotes, ?_⟩
  intro steps data
  have numeral : Json.Numeral literal :=
    ⟨by decide, List.all_eq_true.1 (by decide), by decide, List.all_eq_true.1 (by decide)⟩
  have regular : Json.Regular (listing steps data (some (.ofText "extended"))) := by
    refine regular_listing ?_ ?_
    · simp only [data, List.mem_cons, List.not_mem_nil, or_false]
      rintro entry (rfl | rfl)
      · exact .number numeral
      · exact .null
    · rintro _ ⟨⟩
      exact .string _
  have written : List.Forall₂ IsWrittenEntry (steps.filterMap Step.datum?) data :=
    .cons ⟨rfl, .number denotes⟩ (.cons ⟨rfl, .null⟩ .nil)
  obtain ⟨reads, finds, _, perm, unknown, _, repeated⟩ := build_agrees_with_read
  obtain ⟨keys, rules, _⟩ := finds steps
  refine ⟨reads steps data _ _ ?_ written ?_ ?_ (Json.read?_compact regular), keys.trans ?_,
    (rules "age").trans ?_, perm _ _ (List.Perm.swap _ _ _),
    unknown [_] [] "callbacks" .null (by decide),
    repeated ["errors", "extendedErrors"] (by decide) _ (by decide)⟩
  · simp [steps, Step.registered?]
  · rintro _ ⟨⟩
    decide
  · exact iff_of_true rfl rfl
  · rfl
  · rfl

end Request

end FormRules
