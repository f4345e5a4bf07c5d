/-
**The language of rule strings.**

A rule string spells calls: its segments stand between bars, and each spells one call, with blanks
wherever they do not count. Reading finds exactly the calls that are spelled; what spells no calls
has a blank segment.

* `Segment.Spells` says how a segment spells a call, and `Segment.spells_iff` compares it with the
  call that is read off the segment;
* `Call.Spelled` says which calls a rule string spells;
* `Call.parse_spelled` is the result.
-/

import FormRules.Proofs.RuleString
import Mathlib.Data.List.Forall2

namespace FormRules

namespace Segment

/-! ### How segments spell calls -/

/-- A name as a segment can hold it. -/
structure IsName (name : String) : Prop where
  trimmed : Text.Trimmed name.toList
  noMark : ':' ∉ name.toList
  noBar : '|' ∉ name.toList

/-- A parameter as a segment can hold it. It may contain colons. -/
structure IsParameter (parameter : String) : Prop where
  something : parameter ≠ ""
  trimmed : Text.Trimmed parameter.toList
  noBar : '|' ∉ parameter.toList

/-- **How a segment spells a call**: the name alone, the name and a parameter behind a colon, or
the name and a colon with nothing behind it. Only behind a colon may the name be empty. -/
inductive Spells : Call → List Char → Prop
  | bare {before behind : List Char} {name : String} (blankBefore : Blank before)
      (isName : IsName name) (named : name ≠ "") (blankBehind : Blank behind) :
      Spells ⟨name, none⟩ (before ++ name.toList ++ behind)
  | dangling {before behind rest : List Char} {name : String} (blankBefore : Blank before)
      (isName : IsName name) (blankBehind : Blank behind) (blankRest : Blank rest) :
      Spells ⟨name, none⟩ (before ++ name.toList ++ behind ++ ':' :: rest)
  | marked {before behind inner rest : List Char} {name parameter : String}
      (blankBefore : Blank before) (isName : IsName name) (blankBehind : Blank behind)
      (blankInner : Blank inner) (isParameter : IsParameter parameter) (blankRest : Blank rest) :
      Spells ⟨name, some parameter⟩
        (before ++ name.toList ++ behind ++ ':' :: (inner ++ parameter.toList ++ rest))

theorem Blank.not_mem_bar {text : List Char} (blank : Blank text) : '|' ∉ text := fun member =>
  absurd (blank _ member) (by decide)

theorem Blank.not_mem_colon {text : List Char} (blank : Blank text) : ':' ∉ text := fun member =>
  blank.ne_colon member rfl

/-- Blanks around a trimmed text are what trimming takes away. -/
theorem trim_padded {before text behind : List Char} (blankBefore : Blank before)
    (trimmed : Text.Trimmed text) (blankBehind : Blank behind) :
    Text.trim (before ++ text ++ behind) = text := by
  rw [Text.trim_append_of_blank_right blankBehind, Text.trim_append_of_blank_left blankBefore,
    Text.trimmed_iff.1 trimmed]

/-- The call of a segment with a colon is read off both sides of its first colon. -/
theorem callOf_append_colon {front : List Char} (unmarked : ':' ∉ front) (rest : List Char) :
    callOf (front ++ ':' :: rest) = ⟨String.ofList (Text.trim front),
      if Text.trim rest = [] then none else some (String.ofList (Text.trim rest))⟩ := by
  have solid : ∀ letter ∈ front, decide (letter ≠ ':') = true := by
    intro letter member
    refine decide_eq_true ?_
    rintro rfl
    exact unmarked member
  have name : (front ++ ':' :: rest).takeWhile (· ≠ ':') = front := by
    rw [List.takeWhile_append_of_pos solid]
    simp
  have behind : (front ++ ':' :: rest).dropWhile (· ≠ ':') = ':' :: rest := by
    rw [List.dropWhile_append_of_pos solid]
    simp
  rw [callOf, nameOf, parameterOf, name, behind, List.tail_cons]

theorem not_blank_append_colon (front rest : List Char) : ¬ Blank (front ++ ':' :: rest) :=
  fun blank => blank.not_mem_colon (List.mem_append_right front List.mem_cons_self)

theorem isName_trim {text : List Char} (noMark : ':' ∉ text) (noBar : '|' ∉ text) :
    IsName (String.ofList (Text.trim text)) where
  trimmed := by
    rw [String.toList_ofList]
    exact Text.trimmed_trim text
  noMark member := by
    rw [String.toList_ofList] at member
    exact noMark (Text.mem_of_mem_trim member)
  noBar member := by
    rw [String.toList_ofList] at member
    exact noBar (Text.mem_of_mem_trim member)

theorem isParameter_trim {text : List Char} (something : Text.trim text ≠ [])
    (noBar : '|' ∉ text) : IsParameter (String.ofList (Text.trim text)) where
  something nothing := something (String.ofList_eq_empty_iff.1 nothing)
  trimmed := by
    rw [String.toList_ofList]
    exact Text.trimmed_trim text
  noBar member := by
    rw [String.toList_ofList] at member
    exact noBar (Text.mem_of_mem_trim member)

/-- **A segment spells the call that is read off it**, if it is one: it holds no bar and is not
blank. -/
theorem spells_iff {call : Call} {text : List Char} :
    Spells call text ↔ '|' ∉ text ∧ ¬ Blank text ∧ callOf text = call := by
  constructor
  · intro spelled
    cases spelled with
    | @bare before behind name blankBefore isName named blankBehind =>
      refine ⟨?_, fun blank => named ?_, ?_⟩
      · simp [blankBefore.not_mem_bar, isName.noBar, blankBehind.not_mem_bar]
      · have nothing := Text.trim_eq_nil_iff.2 blank
        rw [trim_padded blankBefore isName.trimmed blankBehind] at nothing
        exact String.toList_eq_nil_iff.1 nothing
      · rw [callOf_append_of_blank_right blankBehind, callOf_append_of_blank_left blankBefore,
          callOf_of_not_mem isName.noMark (Text.trimmed_iff.1 isName.trimmed), String.ofList_toList]
    | @dangling before behind rest name blankBefore isName blankBehind blankRest =>
      refine ⟨?_, not_blank_append_colon _ rest, ?_⟩
      · simp [blankBefore.not_mem_bar, isName.noBar, blankBehind.not_mem_bar,
          blankRest.not_mem_bar]
      · have unmarked : ':' ∉ before ++ name.toList ++ behind := by
          simp [blankBefore.not_mem_colon, isName.noMark, blankBehind.not_mem_colon]
        rw [callOf_append_colon unmarked, trim_padded blankBefore isName.trimmed blankBehind,
          Text.trim_eq_nil_iff.2 blankRest, if_pos rfl, String.ofList_toList]
    | @marked before behind inner rest name parameter blankBefore isName blankBehind blankInner
        isParameter blankRest =>
      refine ⟨?_, not_blank_append_colon _ _, ?_⟩
      · simp [blankBefore.not_mem_bar, isName.noBar, blankBehind.not_mem_bar,
          blankInner.not_mem_bar, isParameter.noBar, blankRest.not_mem_bar]
      · have unmarked : ':' ∉ before ++ name.toList ++ behind := by
          simp [blankBefore.not_mem_colon, isName.noMark, blankBehind.not_mem_colon]
        have something : parameter.toList ≠ [] := fun nothing =>
          isParameter.something (String.toList_eq_nil_iff.1 nothing)
        rw [callOf_append_colon unmarked, trim_padded blankBefore isName.trimmed blankBehind,
          trim_padded blankInner isParameter.trimmed blankRest, if_neg something,
          String.ofList_toList, String.ofList_toList]
  · rintro ⟨noBar, solid, rfl⟩
    by_cases marked : ':' ∈ text
    · obtain ⟨front, rest, rfl, unmarked⟩ := List.eq_append_cons_of_mem marked
      obtain ⟨noBarFront, noBarRest⟩ : '|' ∉ front ∧ '|' ∉ rest := by simpa using noBar
      obtain ⟨before, behind, blankBefore, blankBehind, shape⟩ :=
        Text.exists_blank_around_trim front
      have isName := isName_trim unmarked noBarFront
      rw [callOf_append_colon unmarked]
      by_cases nothing : Text.trim rest = []
      · have spelled := Spells.dangling blankBefore isName blankBehind
          (Text.trim_eq_nil_iff.1 nothing)
        rw [String.toList_ofList, List.append_assoc before, ← shape] at spelled
        rw [if_pos nothing]
        exact spelled
      · obtain ⟨inner, trail, blankInner, blankTrail, shapeRest⟩ :=
          Text.exists_blank_around_trim rest
        have spelled := Spells.marked blankBefore isName blankBehind blankInner
          (isParameter_trim nothing noBarRest) blankTrail
        rw [String.toList_ofList, String.toList_ofList, List.append_assoc before, ← shape,
          List.append_assoc inner, ← shapeRest] at spelled
        rw [if_neg nothing]
        exact spelled
    · obtain ⟨before, behind, blankBefore, blankBehind, shape⟩ :=
        Text.exists_blank_around_trim text
      have something : String.ofList (Text.trim text) ≠ "" := fun nothing =>
        solid (Text.trim_eq_nil_iff.1 (String.ofList_eq_empty_iff.1 nothing))
      have spelled := Spells.bare blankBefore (isName_trim marked noBar) something blankBehind
      rw [String.toList_ofList, List.append_assoc before, ← shape] at spelled
      rw [← callOf_trim, callOf_of_not_mem (fun member => marked (Text.mem_of_mem_trim member))
        (Text.trim_trim text)]
      exact spelled

/-- Texts spell calls one by one exactly if the calls are read off them. -/
theorem forall₂_spells_iff {calls : List Call} {texts : List (List Char)} :
    List.Forall₂ Spells calls texts ↔
      texts.map callOf = calls ∧ ∀ text ∈ texts, '|' ∉ text ∧ ¬ Blank text := by
  induction texts generalizing calls with
  | nil => simp [eq_comm]
  | cons text rest ih =>
    cases calls with
    | nil => simp
    | cons call others =>
      rw [List.forall₂_cons, ih, spells_iff, List.map_cons, List.cons.injEq, List.forall_mem_cons]
      tauto

end Segment

namespace Call

/-! ### Rule strings -/

/-- A rule string that spells calls: their segments in order, with bars between them. -/
def Spelled (calls : List Call) (rules : String) : Prop :=
  ∃ segments, List.Forall₂ Segment.Spells calls segments ∧
    rules.toList = ['|'].intercalate segments

variable {calls : List Call} {rules : String}

/-- A rule string spells exactly the calls of its segments, none of which is blank. -/
theorem spelled_iff (nonempty : calls ≠ []) :
    Spelled calls rules ↔ (Segment.texts rules).map Segment.callOf = calls ∧
      ∀ text ∈ Segment.texts rules, ¬ Segment.Blank text := by
  constructor
  · rintro ⟨segments, spelled, joined⟩
    obtain ⟨rfl, sound⟩ := Segment.forall₂_spells_iff.1 spelled
    have sameTexts : Segment.texts rules = segments := by
      rw [Segment.texts, joined]
      exact Text.pieces_intercalate (fun empty => nonempty (by rw [empty, List.map_nil]))
        fun text member => (sound text member).1
    rw [sameTexts]
    exact ⟨rfl, fun text member => (sound text member).2⟩
  · rintro ⟨read, solid⟩
    refine ⟨Segment.texts rules, Segment.forall₂_spells_iff.2 ⟨read, fun text member => ?_⟩,
      (Text.intercalate_pieces '|' rules.toList).symm⟩
    exact ⟨Text.not_mem_of_mem_pieces member, solid text member⟩

/-- Reading finds exactly the calls that a rule string spells. -/
theorem parse_eq_ok_iff (nonempty : calls ≠ []) (field : String) :
    parse field rules = .ok calls ↔ Spelled calls rules := by
  rw [spelled_iff nonempty, parse_eq]
  by_cases blank : ∃ text ∈ Segment.texts rules, Segment.Blank text
  · rw [if_pos blank]
    obtain ⟨text, member, blank⟩ := blank
    simp only [reduceCtorEq, false_iff]
    exact fun ⟨_, solid⟩ => solid text member blank
  · rw [if_neg blank, Except.ok.injEq]
    push Not at blank
    exact (and_iff_left blank).symm

/-- A rule string that spells no calls has a blank segment. -/
theorem exists_blank_of_not_spelled
    (spellsNone : ¬ ∃ calls, calls ≠ [] ∧ Spelled calls rules) :
    ∃ text ∈ Segment.texts rules, Segment.Blank text := by
  by_contra solid
  push Not at solid
  have nonempty : (Segment.texts rules).map Segment.callOf ≠ [] := fun empty =>
    Text.pieces_ne_nil '|' rules.toList (List.map_eq_nil_iff.1 empty)
  exact spellsNone ⟨_, nonempty, (spelled_iff nonempty).2 ⟨rfl, solid⟩⟩

/-! ### Printed calls -/

/-- A call that some segment spells. -/
structure Spellable (call : Call) : Prop where
  isName : Segment.IsName call.name
  isParameter : ∀ parameter, call.parameter = some parameter → Segment.IsParameter parameter

theorem spellable_of_spells {call : Call} {text : List Char}
    (spelled : Segment.Spells call text) : Spellable call := by
  cases spelled with
  | bare _ isName _ _ => exact ⟨isName, fun _ impossible => nomatch impossible⟩
  | dangling _ isName _ _ => exact ⟨isName, fun _ impossible => nomatch impossible⟩
  | marked _ isName _ _ isParameter _ =>
    refine ⟨isName, fun parameter same => ?_⟩
    obtain rfl := Option.some.inj same
    exact isParameter

section Text

variable {name parameter : String}

theorem toList_text_none : (Call.mk name none).text.toList = name.toList := rfl

theorem toList_text_some :
    (Call.mk name (some parameter)).text.toList = name.toList ++ ':' :: parameter.toList := by
  simp [text]

end Text

namespace Spellable

variable {call : Call}

theorem noBar (spellable : Spellable call) : '|' ∉ call.text.toList := by
  obtain ⟨name, parameter⟩ := call
  obtain ⟨isName, isParameter⟩ := spellable
  cases parameter with
  | none => exact isName.noBar
  | some parameter =>
    rw [toList_text_some]
    simp [isName.noBar, (isParameter parameter rfl).noBar]

theorem callOf_text (spellable : Spellable call) : Segment.callOf call.text.toList = call := by
  obtain ⟨name, parameter⟩ := call
  obtain ⟨isName, isParameter⟩ := spellable
  cases parameter with
  | none =>
    rw [toList_text_none, Segment.callOf_of_not_mem isName.noMark
      (Text.trimmed_iff.1 isName.trimmed), String.ofList_toList]
  | some parameter =>
    have isParameter := isParameter parameter rfl
    have something : parameter.toList ≠ [] := fun nothing =>
      isParameter.something (String.toList_eq_nil_iff.1 nothing)
    rw [toList_text_some, Segment.callOf_append_colon isName.noMark,
      Text.trimmed_iff.1 isName.trimmed, Text.trimmed_iff.1 isParameter.trimmed,
      if_neg something, String.ofList_toList, String.ofList_toList]

theorem blank_text_iff (spellable : Spellable call) :
    Segment.Blank call.text.toList ↔ call.name = "" ∧ call.parameter = none := by
  obtain ⟨name, parameter⟩ := call
  cases parameter with
  | none =>
    have trimmed := Text.trimmed_iff.1 spellable.isName.trimmed
    rw [toList_text_none, Segment.Blank, ← Text.trim_eq_nil_iff, trimmed, String.toList_eq_nil_iff]
    exact (and_iff_left rfl).symm
  | some parameter =>
    rw [toList_text_some]
    simp [Segment.not_blank_append_colon]

end Spellable

theorem texts_join (nonempty : calls ≠ []) (spellable : ∀ call ∈ calls, Spellable call) :
    Segment.texts (join calls) = calls.map fun call => call.text.toList := by
  have joined : (join calls).toList =
      ['|'].intercalate (calls.map fun call => call.text.toList) := by
    rw [join, String.toList_intercalate, List.map_map]
    rfl
  rw [Segment.texts, joined]
  refine Text.pieces_intercalate (mt List.map_eq_nil_iff.1 nonempty) fun text member => ?_
  obtain ⟨call, known, rfl⟩ := List.mem_map.1 member
  exact (spellable call known).noBar

/-- Printed calls spell themselves unless one of them has nothing to print. -/
theorem spelled_join_iff (nonempty : calls ≠ []) (spellable : ∀ call ∈ calls, Spellable call) :
    Spelled calls (join calls) ↔ ∀ call ∈ calls, ¬ (call.name = "" ∧ call.parameter = none) := by
  have readBack : (calls.map fun call => call.text.toList).map Segment.callOf = calls := by
    rw [List.map_map]
    exact (List.map_congr_left fun call member => (spellable call member).callOf_text).trans
      (List.map_id calls)
  rw [spelled_iff nonempty, texts_join nonempty spellable, List.forall_mem_map,
    and_iff_right readBack]
  exact forall₂_congr fun call member => not_congr (spellable call member).blank_text_iff

theorem Spelled.spellable (spelled : Spelled calls rules) : ∀ call ∈ calls, Spellable call := by
  obtain ⟨segments, spelled, _⟩ := spelled
  obtain ⟨rfl, sound⟩ := Segment.forall₂_spells_iff.1 spelled
  intro call member
  obtain ⟨text, known, rfl⟩ := List.mem_map.1 member
  obtain ⟨noBar, solid⟩ := sound text known
  exact spellable_of_spells (Segment.spells_iff.2 ⟨noBar, solid, rfl⟩)

/-- **The language of rule strings.** Reading finds exactly the calls that a rule string spells, and
a rule string that spells none is an error for its blank segment. Calls that some rule string spells
are read back from their printed form, unless one of them prints nothing. -/
theorem parse_spelled (field : String) :
    (∀ rules calls, calls ≠ [] → (parse field rules = .ok calls ↔ Spelled calls rules)) ∧
    (∀ rules, (¬ ∃ calls, calls ≠ [] ∧ Spelled calls rules) →
      (∃ text ∈ Segment.texts rules, Segment.Blank text) ∧
      parse field rules = .error (.emptyRule field rules)) ∧
    ∀ rules calls, calls ≠ [] → Spelled calls rules →
      (parse field (join calls) = .ok calls ↔
        ∀ call ∈ calls, ¬ (call.name = "" ∧ call.parameter = none)) := by
  refine ⟨fun rules calls nonempty => parse_eq_ok_iff nonempty field,
    fun rules spellsNone => ?_, fun rules calls nonempty spelled => ?_⟩
  · have blank := exists_blank_of_not_spelled spellsNone
    exact ⟨blank, by rw [parse_eq, if_pos blank]⟩
  · rw [parse_eq_ok_iff nonempty, spelled_join_iff nonempty spelled.spellable]

/-- Padded segments with a colon in a parameter and without a name, and a segment of blanks. -/
theorem parse_spelled_padded :
    let calls : List Call := [⟨"a", some "b:c"⟩, ⟨"", some "x"⟩, ⟨"d", none⟩]
    calls ≠ [] ∧ Spelled calls "a : b:c\t| :x| d: " ∧
      (∀ call ∈ calls, ¬ (call.name = "" ∧ call.parameter = none)) ∧
      parse "f" (join calls) = .ok calls ∧
      (¬ ∃ others, others ≠ [] ∧ Spelled others "a| ") ∧
      (∃ text ∈ Segment.texts "a| ", Segment.Blank text) ∧
      parse "f" "a| " = .error (.emptyRule "f" "a| ") := by
  intro calls
  have nonempty : calls ≠ [] := List.cons_ne_nil _ _
  obtain ⟨accepts, rejects, prints⟩ := parse_spelled "f"
  have spelled : Spelled calls "a : b:c\t| :x| d: " := (accepts _ calls nonempty).1 rfl
  have printable : ∀ call ∈ calls, ¬ (call.name = "" ∧ call.parameter = none) := by decide
  have spellsNone : ¬ ∃ others, others ≠ [] ∧ Spelled others "a| " := by
    rintro ⟨others, something, spelled⟩
    have read : parse "f" "a| " = .ok others := (accepts _ others something).2 spelled
    cases read
  exact ⟨nonempty, spelled, printable, (prints _ calls nonempty spelled).2 printable, spellsNone,
    rejects _ spellsNone⟩

end Call

end FormRules
