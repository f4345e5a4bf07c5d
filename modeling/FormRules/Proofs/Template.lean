/-
**Cutting templates at their placeholders.**

A template has one cut: each of its placeholders is the first one in what the placeholder before it
leaves over, and no placeholder is left behind the last. A message is the cut with the values filled
in, so what a label or a parameter contains never moves a cut.

* `Template.IsCut` is the cut, in terms of the positions where placeholders stand;
* `Template.exists_isCut`, `Template.IsCut.unique`: every template has exactly one;
* `Template.IsCut.renderChars_eq`: rendering fills the cut;
* `Template.render_fills_cut` is the result.
-/

import FormRules.Template
import Mathlib.Data.List.Basic

namespace FormRules

namespace Placeholder

variable {placeholder other : Placeholder} {text : List Char}

/-- A placeholder is written at a position of a text. -/
def StandsAt (placeholder : Placeholder) (text : List Char) (position : Nat) : Prop :=
  placeholder.token.toList <+: text.drop position

instance (position : Nat) : Decidable (placeholder.StandsAt text position) :=
  inferInstanceAs (Decidable (_ <+: _))

theorem mem_all (placeholder : Placeholder) : placeholder ∈ all := by
  cases placeholder <;> decide

/-- Two placeholders never stand at one position: neither token is the beginning of the other. -/
theorem eq_of_prefix (first : placeholder.token.toList <+: text)
    (second : other.token.toList <+: text) : placeholder = other := by
  have oneFirst := List.prefix_or_prefix_of_prefix first second
  revert oneFirst
  cases placeholder <;> cases other <;> decide

theorem prefix_of_at? (found : at? text = some placeholder) :
    placeholder.token.toList <+: text := by
  simpa using List.find?_some found

theorem at?_eq_some_iff : at? text = some placeholder ↔ placeholder.token.toList <+: text := by
  refine ⟨prefix_of_at?, fun stands => ?_⟩
  have found : (at? text).isSome = true :=
    List.find?_isSome.2 ⟨placeholder, mem_all placeholder, List.isPrefixOf_iff_prefix.2 stands⟩
  obtain ⟨known, isKnown⟩ := Option.isSome_iff_exists.1 found
  rw [isKnown, eq_of_prefix (prefix_of_at? isKnown) stands]

theorem at?_eq_none_iff : at? text = none ↔ ∀ placeholder : Placeholder,
    ¬ placeholder.StandsAt text 0 := by
  simp only [StandsAt, List.drop_zero, ← at?_eq_some_iff]
  exact Option.eq_none_iff_forall_ne_some

theorem StandsAt.lt_length {position : Nat} (stands : placeholder.StandsAt text position) :
    position < text.length := by
  have fits := stands.length_le
  rw [List.length_drop] at fits
  have := placeholder.token_length_pos
  omega

theorem standsAt_append_length (placeholder : Placeholder) (front behind : List Char) :
    placeholder.StandsAt (front ++ (placeholder.token.toList ++ behind)) front.length := by
  rw [StandsAt, List.drop_left]
  exact List.prefix_append _ _

end Placeholder

namespace Template

/-! ### Cuts -/

/-- A text cut at placeholders. -/
structure Cut where
  /-- The placeholders in order, each with the text in front of it. -/
  parts : List (List Char × Placeholder)
  /-- The text behind the last placeholder. -/
  last : List Char
deriving DecidableEq

/-- The text that a cut makes when its placeholders are replaced by values. -/
def Cut.fill (cut : Cut) (value : Placeholder → String) : List Char :=
  cut.parts.flatMap (fun part => part.1 ++ (value part.2).toList) ++ cut.last

/-- **The cut of a text.** Each placeholder is the first that stands anywhere in the text behind the
placeholder before it, and none stands in the text behind the last. -/
def IsCut (text : List Char) (parts : List (List Char × Placeholder)) (last : List Char) : Prop :=
  match parts with
  | [] => text = last ∧ ∀ (placeholder : Placeholder) position,
      ¬ placeholder.StandsAt text position
  | (front, placeholder) :: later =>
    ∃ behind, text = front ++ (placeholder.token.toList ++ behind) ∧
      (∀ (other : Placeholder) position, other.StandsAt text position → front.length ≤ position) ∧
      IsCut behind later last

/-- The cut of a template. -/
def Cut.Of (template : String) (cut : Cut) : Prop :=
  IsCut template.toList cut.parts cut.last

variable {text last : List Char} {parts : List (List Char × Placeholder)}

/-- A letter that starts no placeholder belongs to the text in front of the next one. -/
theorem IsCut.cons {letter : Char} (free : Placeholder.at? (letter :: text) = none)
    (cut : IsCut text parts last) : ∃ parts last, IsCut (letter :: text) parts last := by
  have later {other : Placeholder} {position : Nat}
      (stands : other.StandsAt (letter :: text) position) :
      ∃ before, position = before + 1 ∧ other.StandsAt text before := by
    cases position with
    | zero => exact absurd stands (Placeholder.at?_eq_none_iff.1 free other)
    | succ before => exact ⟨before, rfl, stands⟩
  match parts, cut with
  | [], ⟨_, absent⟩ =>
    refine ⟨[], letter :: text, rfl, fun other position stands => ?_⟩
    obtain ⟨before, _, standsBefore⟩ := later stands
    exact absent other before standsBefore
  | (front, placeholder) :: others, ⟨behind, shape, first, rest⟩ =>
    refine ⟨(letter :: front, placeholder) :: others, last, behind, by rw [shape]; rfl,
      fun other position stands => ?_, rest⟩
    obtain ⟨before, rfl, standsBefore⟩ := later stands
    exact Nat.succ_le_succ (first other before standsBefore)

/-- Every text has a cut. -/
theorem exists_isCut (text : List Char) : ∃ parts last, IsCut text parts last := by
  induction text using renderChars.induct with
  | case1 =>
    refine ⟨[], [], rfl, fun placeholder position stands => ?_⟩
    exact absurd stands.lt_length (Nat.not_lt_zero position)
  | case2 letter rest placeholder found ih =>
    obtain ⟨parts, last, cut⟩ := ih
    obtain ⟨behind, shape⟩ := Placeholder.at?_eq_some_iff.1 found
    rw [← shape, List.drop_left] at cut
    exact ⟨([], placeholder) :: parts, last, behind, shape.symm, fun _ _ _ => Nat.zero_le _, cut⟩
  | case3 letter rest free ih =>
    obtain ⟨parts, last, cut⟩ := ih
    exact cut.cons free

/-- A text has no other cut. -/
theorem IsCut.unique {otherParts : List (List Char × Placeholder)} {otherLast : List Char}
    (cut : IsCut text parts last) (other : IsCut text otherParts otherLast) :
    parts = otherParts ∧ last = otherLast := by
  induction parts generalizing text otherParts with
  | nil =>
    obtain ⟨rfl, absent⟩ := cut
    match otherParts, other with
    | [], ⟨same, _⟩ => exact ⟨rfl, same⟩
    | (front, placeholder) :: _, ⟨behind, shape, _, _⟩ =>
      have stands := placeholder.standsAt_append_length front behind
      rw [← shape] at stands
      exact absurd stands (absent placeholder front.length)
  | cons part later ih =>
    obtain ⟨front, placeholder⟩ := part
    obtain ⟨behind, shape, first, rest⟩ := cut
    have stands : placeholder.StandsAt text front.length := by
      rw [shape]
      exact placeholder.standsAt_append_length front behind
    match otherParts, other with
    | [], ⟨_, absent⟩ => exact absurd stands (absent placeholder front.length)
    | (otherFront, otherPlaceholder) :: _, ⟨otherBehind, otherShape, otherFirst, otherRest⟩ =>
      have otherStands : otherPlaceholder.StandsAt text otherFront.length := by
        rw [otherShape]
        exact otherPlaceholder.standsAt_append_length otherFront otherBehind
      have level : front.length = otherFront.length :=
        Nat.le_antisymm (first _ _ otherStands) (otherFirst _ _ stands)
      obtain ⟨rfl, marked⟩ := List.append_inj (shape.symm.trans otherShape) level
      obtain rfl : placeholder = otherPlaceholder :=
        Placeholder.eq_of_prefix (List.prefix_append _ behind)
          (marked ▸ List.prefix_append _ otherBehind)
      obtain rfl := List.append_cancel_left marked
      obtain ⟨rfl, sameLast⟩ := ih rest otherRest
      exact ⟨rfl, sameLast⟩

theorem existsUnique_cut (template : String) : ∃! cut : Cut, cut.Of template := by
  obtain ⟨parts, last, cut⟩ := exists_isCut template.toList
  refine ⟨⟨parts, last⟩, cut, fun other isOther => ?_⟩
  obtain ⟨sameParts, sameLast⟩ := isOther.unique cut
  cases other
  exact congrArg₂ Cut.mk sameParts sameLast

/-- A cut with every placeholder left as it is written is the text. -/
theorem IsCut.fill_token (cut : IsCut text parts last) :
    Cut.fill ⟨parts, last⟩ Placeholder.token = text := by
  induction parts generalizing text with
  | nil => exact cut.1.symm
  | cons part later ih =>
    obtain ⟨behind, shape, _, rest⟩ := cut
    rw [shape, ← ih rest]
    simp [Cut.fill]

/-! ### Rendering -/

section Render

variable (label : String) (size : Option String)

/-- Text in which no placeholder starts is copied. -/
theorem renderChars_append {front rest : List Char}
    (free : ∀ (other : Placeholder) position, other.StandsAt (front ++ rest) position →
      front.length ≤ position) :
    renderChars label size (front ++ rest) = front ++ renderChars label size rest := by
  induction front with
  | nil => rfl
  | cons letter others ih =>
    have none : Placeholder.at? (letter :: (others ++ rest)) = none := by
      refine Placeholder.at?_eq_none_iff.2 fun other stands => ?_
      exact absurd (free other 0 stands) (Nat.not_succ_le_zero _)
    have freeLater : ∀ (other : Placeholder) position,
        other.StandsAt (others ++ rest) position → others.length ≤ position :=
      fun other position stands => Nat.le_of_succ_le_succ (free other (position + 1) stands)
    rw [List.cons_append, renderChars, none, ih freeLater, List.cons_append]

/-- A placeholder is replaced, and what stands behind it is a template again. -/
theorem renderChars_token_append (placeholder : Placeholder) (behind : List Char) :
    renderChars label size (placeholder.token.toList ++ behind) =
      (placeholder.value label size).toList ++ renderChars label size behind := by
  have found : Placeholder.at? (placeholder.token.toList ++ behind) = some placeholder :=
    Placeholder.at?_eq_some_iff.2 (List.prefix_append _ _)
  obtain ⟨letter, rest, shape⟩ : ∃ letter rest,
      placeholder.token.toList ++ behind = letter :: rest := by
    cases placeholder <;> exact ⟨_, _, rfl⟩
  rw [shape] at found
  rw [shape, renderChars, found]
  simp only
  rw [← shape, List.drop_left]

/-- Rendering fills the cut of the template. -/
theorem IsCut.renderChars_eq (cut : IsCut text parts last) :
    renderChars label size text = Cut.fill ⟨parts, last⟩ (Placeholder.value label size) := by
  induction parts generalizing text with
  | nil =>
    obtain ⟨rfl, absent⟩ := cut
    have copied : renderChars label size (text ++ []) = text ++ renderChars label size [] := by
      refine renderChars_append label size fun other position stands => ?_
      rw [List.append_nil] at stands
      exact absurd stands (absent other position)
    rw [List.append_nil, renderChars, List.append_nil] at copied
    exact copied
  | cons part later ih =>
    obtain ⟨front, placeholder⟩ := part
    obtain ⟨behind, rfl, first, rest⟩ := cut
    rw [renderChars_append label size first, renderChars_token_append, ih rest]
    simp [Cut.fill]

/-- **Rendering is substitution at the placeholders of the template, from left to right and in one
pass.** The cut is the same for all labels and parameters. Placeholders that are filled with
themselves give the template back, and a missing parameter is one that is written as its
placeholder. -/
theorem render_fills_cut (template : String) :
    (∃! cut : Cut, cut.Of template) ∧
    (∀ cut : Cut, cut.Of template → ∀ (label : String) (size : Option String),
      render template label size = String.ofList (cut.fill fun
        | .fieldLabel => label
        | .fieldSize => size.getD "#fieldSize#")) ∧
    render template "#fieldLabel#" (some "#fieldSize#") = template ∧
    ∀ label : String,
      render template label none = render template label (some "#fieldSize#") := by
  have fills {cut : Cut} (isCut : cut.Of template) (label : String) (size : Option String) :
      render template label size = String.ofList (cut.fill (Placeholder.value label size)) :=
    congrArg String.ofList (isCut.renderChars_eq label size)
  have values (label : String) (size : Option String) :
      Placeholder.value label size = fun
        | .fieldLabel => label
        | .fieldSize => size.getD "#fieldSize#" := by
    funext placeholder
    cases placeholder <;> rfl
  obtain ⟨cut, isCut, only⟩ := existsUnique_cut template
  refine ⟨⟨cut, isCut, only⟩, fun other isOther label size => ?_, ?_, fun label => ?_⟩
  · rw [fills isOther, values]
  · have tokens : Placeholder.value "#fieldLabel#" (some "#fieldSize#") = Placeholder.token := by
      funext placeholder
      cases placeholder <;> rfl
    rw [fills isCut, tokens, isCut.fill_token, String.ofList_toList]
  · rw [fills isCut, fills isCut, values, values]
    rfl

end Render

/-- A lone mark, two placeholders that share a mark, and a label that reads like a placeholder. -/
theorem render_fills_cut_overlapping :
    let cut : Cut := ⟨[("#".toList, .fieldLabel)], "fieldSize# #field".toList⟩
    cut.Of "##fieldLabel#fieldSize# #field" ∧
      render "##fieldLabel#fieldSize# #field" "#fieldSize#" (some "3") =
        "##fieldSize#fieldSize# #field" := by
  intro cut
  have noneBehind : ∀ position < 17, ∀ placeholder ∈ Placeholder.all,
      ¬ placeholder.StandsAt "fieldSize# #field".toList position := by
    decide
  have isCut : cut.Of "##fieldLabel#fieldSize# #field" := by
    refine ⟨"fieldSize# #field".toList, rfl, fun placeholder position stands => ?_, rfl,
      fun placeholder position stands => ?_⟩
    · refine Nat.one_le_iff_ne_zero.2 ?_
      rintro rfl
      revert stands
      cases placeholder <;> decide
    · exact noneBehind position stands.lt_length placeholder placeholder.mem_all stands
  obtain ⟨_, fills, _⟩ := render_fills_cut "##fieldLabel#fieldSize# #field"
  exact ⟨isCut, (fills cut isCut "#fieldSize#" (some "3")).trans (by decide)⟩

end Template

end FormRules
