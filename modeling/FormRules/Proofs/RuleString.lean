/-
**What a rule string calls.**

The segments of a rule string are the texts between its bars. A segment calls the rule that its
text names: the name stands before the first colon, the parameter behind it, and blanks around
either do not count.

* `Segment.nameOf` and `Segment.parameterOf` are the parts of the call, read off the text of the
  segment as it is written;
* `Segment.call?_ofText`: a segment makes that call, and exactly the blank ones make none;
* `Call.parse_eq`: a rule string is read segment by segment unless one of them is blank.
-/

import FormRules.Call
import Mathlib.Data.List.TakeWhile

namespace FormRules

namespace Segment

/-- The texts between the bars of a rule string. -/
def texts (rules : String) : List (List Char) :=
  Text.pieces '|' rules.toList

/-- Nothing but blanks. -/
def Blank (text : List Char) : Prop :=
  ∀ letter ∈ text, Text.isBlank letter = true

instance : DecidablePred Blank := fun text =>
  decidable_of_iff (text.all Text.isBlank = true) List.all_eq_true

/-- The name that a segment calls: the text before the first colon, trimmed. -/
def nameOf (text : List Char) : String :=
  String.ofList (Text.trim (text.takeWhile (· ≠ ':')))

/-- The parameter of the call: the text behind the first colon, trimmed. A segment without a colon
has none, and blanks count as none. -/
def parameterOf (text : List Char) : Option String :=
  let parameter := Text.trim (text.dropWhile (· ≠ ':')).tail
  if parameter = [] then none else some (String.ofList parameter)

/-- The call that a text makes. -/
def callOf (text : List Char) : Call :=
  ⟨nameOf text, parameterOf text⟩

/-! ### Blanks around a segment -/

/-- A run of blanks holds no colon. -/
theorem Blank.ne_colon {text : List Char} (blank : Blank text) {letter : Char}
    (member : letter ∈ text) : letter ≠ ':' := by
  rintro rfl
  exact absurd (blank _ member) (by decide)

theorem Blank.takeWhile {text : List Char} (blank : Blank text) (p : Char → Bool) :
    Blank (text.takeWhile p) := fun letter member =>
  blank letter ((List.takeWhile_sublist p).mem member)

/-- Blanks in front of a segment do not change its call. -/
theorem callOf_append_of_blank_left {lead : List Char} (blank : Blank lead) (text : List Char) :
    callOf (lead ++ text) = callOf text := by
  have solid : ∀ letter ∈ lead, decide (letter ≠ ':') = true := fun letter member =>
    decide_eq_true (blank.ne_colon member)
  have sameName : nameOf (lead ++ text) = nameOf text := by
    rw [nameOf, List.takeWhile_append_of_pos solid, Text.trim_append_of_blank_left blank, nameOf]
  have sameParameter : parameterOf (lead ++ text) = parameterOf text := by
    rw [parameterOf, List.dropWhile_append_of_pos solid, parameterOf]
  rw [callOf, sameName, sameParameter, callOf]

/-- Blanks behind a segment do not change its call. -/
theorem callOf_append_of_blank_right {trail : List Char} (blank : Blank trail) (text : List Char) :
    callOf (text ++ trail) = callOf text := by
  have sameName : nameOf (text ++ trail) = nameOf text := by
    rw [nameOf, List.takeWhile_append, nameOf]
    split
    · next whole =>
      have all : text.takeWhile (· ≠ ':') = text :=
        (List.takeWhile_sublist _).eq_of_length whole
      rw [all, Text.trim_append_of_blank_right (blank.takeWhile _)]
    · rfl
  have sameParameter : parameterOf (text ++ trail) = parameterOf text := by
    have nothing : trail.dropWhile (· ≠ ':') = [] :=
      List.dropWhile_eq_nil_iff.2 fun letter member => decide_eq_true (blank.ne_colon member)
    have trimmed : Text.trim ((text ++ trail).dropWhile (· ≠ ':')).tail =
        Text.trim (text.dropWhile (· ≠ ':')).tail := by
      rw [List.dropWhile_append, nothing]
      cases text.dropWhile (· ≠ ':') with
      | nil => rfl
      | cons mark rest => exact Text.trim_append_of_blank_right blank rest
    rw [parameterOf, trimmed, parameterOf]
  rw [callOf, sameName, sameParameter, callOf]

/-- Trimming a segment does not change its call. -/
theorem callOf_trim (text : List Char) : callOf (Text.trim text) = callOf text := by
  obtain ⟨lead, trail, blankLead, blankTrail, shape⟩ := Text.exists_blank_around_trim text
  calc callOf (Text.trim text) = callOf (Text.trim text ++ trail) :=
        (callOf_append_of_blank_right blankTrail _).symm
    _ = callOf (lead ++ (Text.trim text ++ trail)) :=
        (callOf_append_of_blank_left blankLead _).symm
    _ = callOf text := by rw [← shape]

/-! ### Reading -/

/-- A trimmed text with a colon calls what stands before and behind it. -/
theorem split_eq_callOf {text : List Char} (marked : parameterMark ∈ text) :
    split text = callOf text := by
  rw [split, Text.splitFirst_of_mem marked]
  rfl

/-- A trimmed text without a colon is the name that it calls. -/
theorem callOf_of_not_mem {text : List Char} (unmarked : parameterMark ∉ text)
    (trimmed : Text.trim text = text) : callOf text = ⟨String.ofList text, none⟩ := by
  have solid : ∀ letter ∈ text, decide (letter ≠ ':') = true := by
    intro letter member
    refine decide_eq_true ?_
    rintro rfl
    exact unmarked member
  have name : text.takeWhile (· ≠ ':') = text := List.takeWhile_eq_self_iff.2 solid
  have behind : text.dropWhile (· ≠ ':') = [] := List.dropWhile_eq_nil_iff.2 solid
  rw [callOf, nameOf, parameterOf, name, trimmed, behind]
  rfl

/-- A segment makes the call of its text, and exactly the blank ones make none. -/
theorem call?_ofText (text : List Char) :
    (ofText text).call? = if Blank text then none else some (callOf text) := by
  by_cases blank : Blank text
  · simp [ofText, call?, Kind.ofText, Text.trim_eq_nil_iff.2 blank, blank]
  · have something : Text.trim text ≠ [] := fun nothing => blank (Text.trim_eq_nil_iff.1 nothing)
    rw [if_neg blank, ← callOf_trim]
    by_cases marked : parameterMark ∈ Text.trim text
    · simp [ofText, call?, Kind.ofText, something, marked, split_eq_callOf marked]
    · simp [ofText, call?, Kind.ofText, something, marked,
        callOf_of_not_mem marked (Text.trim_trim text)]

/-- Segments are read one by one unless one of them is blank. -/
theorem mapM_call?_ofText (parts : List (List Char)) :
    (parts.map ofText).mapM call? =
      if ∃ text ∈ parts, Blank text then none else some (parts.map callOf) := by
  induction parts with
  | nil => simp
  | cons text rest ih =>
    rw [List.map_cons, List.mapM_cons, ih, call?_ofText]
    by_cases blank : Blank text
    · simp [blank]
    · by_cases later : ∃ other ∈ rest, Blank other <;> simp [blank, later]

end Segment

/-- A rule string is read segment by segment. If one of them is blank, the error names the whole
rule string. -/
theorem Call.parse_eq (field rules : String) :
    Call.parse field rules =
      if ∃ text ∈ Segment.texts rules, Segment.Blank text then .error (.emptyRule field rules)
      else .ok ((Segment.texts rules).map Segment.callOf) := by
  have read := Segment.mapM_call?_ofText (Segment.texts rules)
  unfold Call.parse
  rw [show Segment.ofRules rules = (Segment.texts rules).map Segment.ofText from rfl, read]
  by_cases blank : ∃ text ∈ Segment.texts rules, Segment.Blank text
  · rw [if_pos blank, if_pos blank]
  · rw [if_neg blank, if_neg blank]

end FormRules
