/-
**The language of a pattern.**

A pattern describes a language, given by union, concatenation and repetition of languages. What
follows a character in a text of the language is again such a language, so matching one character
at a time decides it.

* `Pattern.language` is the language of a pattern;
* `Pattern.mem_language_after`: what may follow a character;
* `Pattern.accepts_iff`: matching decides the language;
* `Pattern.mem_row_iff` and `Pattern.mem_closedRow_iff` are the languages of items with separators
  between them or behind them, in terms of the pieces of a text.
-/

import FormRules.Pattern
import FormRules.Text.Split
import Mathlib.Computability.Language

namespace FormRules

namespace CharSet

variable {letter : Char}

theorem contains_inside (ranges : List (Nat × Nat)) :
    (⟨ranges, false⟩ : CharSet).contains letter = Text.inRanges ranges letter.toNat := by
  simp [contains]

theorem contains_outside (ranges : List (Nat × Nat)) :
    (⟨ranges, true⟩ : CharSet).contains letter = !Text.inRanges ranges letter.toNat := by
  simp [contains]

theorem inRanges_rangesOf_iff {letters : List Char} :
    Text.inRanges (rangesOf letters) letter.toNat = true ↔ letter ∈ letters := by
  simp [Text.inRanges, rangesOf, ← Nat.le_antisymm_iff, Char.toNat_inj]

theorem inRanges_append (first second : List (Nat × Nat)) (point : Nat) :
    Text.inRanges (first ++ second) point =
      (Text.inRanges first point || Text.inRanges second point) :=
  List.any_append

theorem contains_only_iff {character : Char} :
    (only character).contains letter = true ↔ letter = character := by
  rw [only, contains_inside, inRanges_rangesOf_iff, List.mem_singleton]

end CharSet

namespace Pattern

open scoped Computability

/-- The texts that a pattern describes. -/
def language : Pattern → Language Char
  | nothing => 0
  | done => 1
  | one set => {text | ∃ letter, set.contains letter = true ∧ text = [letter]}
  | seq first second => first.language * second.language
  | either first second => first.language + second.language
  | many repeated => repeated.language∗

variable {pattern first second : Pattern} {text : List Char} {letter : Char}

theorem mem_one_iff {set : CharSet} :
    text ∈ (one set).language ↔ ∃ letter, set.contains letter = true ∧ text = [letter] :=
  Iff.rfl

theorem mem_seq_iff :
    text ∈ (seq first second).language ↔
      ∃ front ∈ first.language, ∃ rest ∈ second.language, front ++ rest = text :=
  Language.mem_mul

theorem mem_seq_done_iff : text ∈ (seq pattern done).language ↔ text ∈ pattern.language := by
  rw [language, show done.language = 1 from rfl, mul_one]

theorem mem_seq_one_iff {set : CharSet} :
    text ∈ (seq (one set) pattern).language ↔
      ∃ letter, set.contains letter = true ∧ ∃ rest ∈ pattern.language, letter :: rest = text := by
  rw [mem_seq_iff]
  constructor
  · rintro ⟨_, ⟨letter, inside, rfl⟩, rest, inRest, shape⟩
    exact ⟨letter, inside, rest, inRest, shape⟩
  · rintro ⟨letter, inside, rest, inRest, shape⟩
    exact ⟨[letter], ⟨letter, inside, rfl⟩, rest, inRest, shape⟩

theorem mem_optional_iff :
    text ∈ (optional pattern).language ↔ text ∈ pattern.language ∨ text = [] :=
  Iff.rfl

theorem mem_either_iff :
    text ∈ (either first second).language ↔ text ∈ first.language ∨ text ∈ second.language :=
  Iff.rfl

/-! ### Matching -/

theorem language_seqOf : (seqOf first second).language = (seq first second).language := by
  unfold seqOf
  split
  · next trivial =>
    rcases trivial with rfl | rfl
    · exact (zero_mul _).symm
    · exact (mul_zero _).symm
  · split
    · next same =>
      rw [same]
      exact (one_mul _).symm
    · split
      · next same =>
        rw [same]
        exact (mul_one _).symm
      · rfl

theorem language_eitherOf :
    (eitherOf first second).language = (either first second).language := by
  unfold eitherOf
  split
  · next trivial =>
    rcases trivial with rfl | rfl
    · exact (zero_add _).symm
    · exact (Language.add_self _).symm
  · split
    · next same =>
      rw [same]
      exact (add_zero _).symm
    · rfl

theorem acceptsEmpty_iff : pattern.acceptsEmpty = true ↔ [] ∈ pattern.language := by
  induction pattern with
  | nothing => simp [acceptsEmpty, language]
  | done => simp [acceptsEmpty, language]
  | one set => simp [acceptsEmpty, mem_one_iff]
  | seq first second ihFirst ihSecond =>
    simp [acceptsEmpty, mem_seq_iff, ihFirst, ihSecond]
  | either first second ihFirst ihSecond =>
    simp [acceptsEmpty, mem_either_iff, ihFirst, ihSecond]
  | many repeated _ => simp [acceptsEmpty, language, Language.nil_mem_kstar]

/-- In a sequence the first text takes the first letter, unless it is empty. -/
theorem cons_mem_mul_iff {first second : Language Char} :
    letter :: text ∈ first * second ↔
      (∃ front, letter :: front ∈ first ∧ ∃ rest ∈ second, front ++ rest = text) ∨
        [] ∈ first ∧ letter :: text ∈ second := by
  rw [Language.mem_mul]
  constructor
  · rintro ⟨front, inFirst, rest, inSecond, shape⟩
    cases front with
    | nil =>
      obtain rfl : rest = letter :: text := shape
      exact Or.inr ⟨inFirst, inSecond⟩
    | cons head front =>
      obtain ⟨rfl, rfl⟩ := List.cons.inj shape
      exact Or.inl ⟨front, inFirst, rest, inSecond, rfl⟩
  · rintro (⟨front, inFirst, rest, inSecond, rfl⟩ | ⟨inFirst, inSecond⟩)
    · exact ⟨letter :: front, inFirst, rest, inSecond, rfl⟩
    · exact ⟨[], inFirst, _, inSecond, rfl⟩

/-- In a repetition the first text that is not empty takes the first letter. -/
theorem cons_mem_kstar_iff {repeated : Language Char} :
    letter :: text ∈ repeated∗ ↔
      ∃ front, letter :: front ∈ repeated ∧ ∃ rest ∈ repeated∗, front ++ rest = text := by
  constructor
  · rw [Language.mem_kstar_iff_exists_nonempty]
    rintro ⟨parts, shape, sound⟩
    cases parts with
    | nil => cases shape
    | cons part others =>
      obtain ⟨⟨inside, something⟩, soundOthers⟩ := List.forall_mem_cons.1 sound
      obtain ⟨head, front, rfl⟩ := List.exists_cons_of_ne_nil something
      obtain ⟨rfl, rfl⟩ := List.cons.inj shape
      exact ⟨front, inside, others.flatten,
        Language.join_mem_kstar fun part member => (soundOthers part member).1, rfl⟩
  · rintro ⟨front, inside, rest, ⟨parts, rfl, sound⟩, rfl⟩
    exact ⟨(letter :: front) :: parts, rfl, List.forall_mem_cons.2 ⟨inside, sound⟩⟩

/-- **What may follow a character.** -/
theorem mem_language_after :
    text ∈ (pattern.after letter).language ↔ letter :: text ∈ pattern.language := by
  induction pattern generalizing text with
  | nothing => exact iff_of_false (Language.notMem_zero text) (Language.notMem_zero _)
  | done => exact iff_of_false (Language.notMem_zero text) (List.cons_ne_nil letter text)
  | one set =>
    rw [after, mem_one_iff]
    split
    · next inside =>
      constructor
      · rintro rfl
        exact ⟨letter, inside, rfl⟩
      · rintro ⟨_, _, same⟩
        exact (List.cons.inj same).2
    · next outside =>
      refine iff_of_false (Language.notMem_zero text) ?_
      rintro ⟨_, inside, same⟩
      rw [← (List.cons.inj same).1] at inside
      exact outside inside
  | seq first second ihFirst ihSecond =>
    rw [language, cons_mem_mul_iff, ← acceptsEmpty_iff, after]
    split
    · next empty =>
      rw [language_eitherOf, mem_either_iff, language_seqOf, mem_seq_iff, ihSecond]
      simp only [ihFirst, empty, true_and]
    · next something =>
      rw [language_seqOf, mem_seq_iff]
      simp only [ihFirst]
      exact (or_iff_left fun both => something both.1).symm
  | either first second ihFirst ihSecond =>
    rw [after, language_eitherOf, mem_either_iff, ihFirst, ihSecond, mem_either_iff]
  | many repeated ih =>
    rw [after, language_seqOf, mem_seq_iff, language, cons_mem_kstar_iff]
    simp only [ih]

/-- **Matching decides the language.** -/
theorem accepts_iff : pattern.accepts text = true ↔ text ∈ pattern.language := by
  induction text generalizing pattern with
  | nil => exact acceptsEmpty_iff
  | cons letter rest ih => exact ih.trans mem_language_after

/-! ### Single characters and runs of them -/

theorem mem_letter_iff {character : Char} :
    text ∈ (Pattern.letter character).language ↔ text = [character] := by
  rw [Pattern.letter, mem_one_iff]
  constructor
  · rintro ⟨found, inside, rfl⟩
    rw [CharSet.contains_only_iff.1 inside]
  · intro same
    exact ⟨character, CharSet.contains_only_iff.2 rfl, same⟩

theorem mem_seq_letter_iff {character : Char} :
    text ∈ (seq (Pattern.letter character) pattern).language ↔
      ∃ rest ∈ pattern.language, character :: rest = text := by
  rw [mem_seq_iff]
  simp only [mem_letter_iff, exists_eq_left, List.singleton_append]

theorem mem_many_one_iff {set : CharSet} :
    text ∈ (many (one set)).language ↔ ∀ letter ∈ text, set.contains letter = true := by
  induction text with
  | nil => exact iff_of_true (Language.nil_mem_kstar _) (List.forall_mem_nil _)
  | cons letter rest ih =>
    rw [List.forall_mem_cons, ← ih, language, cons_mem_kstar_iff]
    constructor
    · rintro ⟨_, ⟨_, inside, same⟩, others, inOthers, rfl⟩
      obtain ⟨rfl, rfl⟩ := List.cons.inj same
      exact ⟨inside, inOthers⟩
    · rintro ⟨inside, inOthers⟩
      exact ⟨[], ⟨letter, inside, rfl⟩, rest, inOthers, rfl⟩

theorem mem_run_iff {set : CharSet} :
    text ∈ (oneOrMore (one set)).language ↔
      text ≠ [] ∧ ∀ letter ∈ text, set.contains letter = true := by
  rw [oneOrMore, mem_seq_one_iff]
  constructor
  · rintro ⟨letter, inside, rest, inRest, rfl⟩
    exact ⟨List.cons_ne_nil letter rest,
      List.forall_mem_cons.2 ⟨inside, mem_many_one_iff.1 inRest⟩⟩
  · rintro ⟨something, inside⟩
    obtain ⟨letter, rest, rfl⟩ := List.exists_cons_of_ne_nil something
    obtain ⟨insideFirst, insideRest⟩ := List.forall_mem_cons.1 inside
    exact ⟨letter, insideFirst, rest, mem_many_one_iff.2 insideRest, rfl⟩

/-! ### Rows of items -/

/-- Repetitions of the texts that a function makes of the texts of a language. -/
theorem mem_kstar_iff_flatMap {item repeated : Language Char} {make : List Char → List Char}
    (made : ∀ part, part ∈ repeated ↔ ∃ inner ∈ item, make inner = part) :
    text ∈ repeated∗ ↔
      ∃ parts : List (List Char), (∀ part ∈ parts, part ∈ item) ∧ parts.flatMap make = text := by
  constructor
  · rintro ⟨texts, rfl, sound⟩
    induction texts with
    | nil => exact ⟨[], List.forall_mem_nil _, rfl⟩
    | cons first others ih =>
      obtain ⟨inFirst, inOthers⟩ := List.forall_mem_cons.1 sound
      obtain ⟨inner, inItem, rfl⟩ := (made first).1 inFirst
      obtain ⟨parts, inItems, shape⟩ := ih inOthers
      exact ⟨inner :: parts, List.forall_mem_cons.2 ⟨inItem, inItems⟩, by
        rw [List.flatMap_cons, shape, List.flatten_cons]⟩
  · rintro ⟨parts, inItems, rfl⟩
    refine ⟨parts.map make, List.flatMap_def, fun part member => ?_⟩
    obtain ⟨inner, known, rfl⟩ := List.mem_map.1 member
    exact (made _).2 ⟨inner, inItems inner known, rfl⟩

section Rows

variable {item : Pattern} {separator : Char}

/-- A text whose pieces are items. -/
def IsRow (item : Pattern) (separator : Char) (text : List Char) : Prop :=
  ∀ piece ∈ Text.pieces separator text, piece ∈ item.language

theorem isRow_intercalate_iff (free : ∀ part ∈ item.language, separator ∉ part) :
    IsRow item separator text ↔ ∃ part parts, (∀ inner ∈ part :: parts, inner ∈ item.language) ∧
      [separator].intercalate (part :: parts) = text := by
  constructor
  · intro row
    obtain ⟨part, parts, shape⟩ :=
      List.exists_cons_of_ne_nil (Text.pieces_ne_nil separator text)
    rw [IsRow, shape] at row
    exact ⟨part, parts, row, by rw [← shape, Text.intercalate_pieces]⟩
  · rintro ⟨part, parts, inItems, rfl⟩
    rw [IsRow, Text.pieces_intercalate (List.cons_ne_nil part parts) fun inner member =>
      free inner (inItems inner member)]
    exact inItems

/-- **Items with separators between them.** -/
theorem mem_row_iff (free : ∀ part ∈ item.language, separator ∉ part) :
    text ∈ (seq item (many (seq (Pattern.letter separator) item))).language ↔
      IsRow item separator text := by
  have repeated (text : List Char) :
      text ∈ (many (seq (Pattern.letter separator) item)).language ↔
        ∃ parts : List (List Char), (∀ part ∈ parts, part ∈ item.language) ∧
          parts.flatMap (separator :: ·) = text :=
    mem_kstar_iff_flatMap fun _ => mem_seq_letter_iff
  rw [isRow_intercalate_iff free, mem_seq_iff]
  constructor
  · rintro ⟨part, inItem, rest, inRest, rfl⟩
    obtain ⟨parts, inItems, rfl⟩ := (repeated rest).1 inRest
    exact ⟨part, parts, List.forall_mem_cons.2 ⟨inItem, inItems⟩,
      Text.intercalate_cons separator part parts⟩
  · rintro ⟨part, parts, inItems, rfl⟩
    obtain ⟨inItem, inItems⟩ := List.forall_mem_cons.1 inItems
    exact ⟨part, inItem, _, (repeated _).2 ⟨parts, inItems, rfl⟩,
      (Text.intercalate_cons separator part parts).symm⟩

/-- **Items with a separator behind each.** -/
theorem mem_closedRow_iff (free : ∀ part ∈ item.language, separator ∉ part) :
    text ∈ (oneOrMore (seq item (Pattern.letter separator))).language ↔
      ∃ row, IsRow item separator row ∧ row ++ [separator] = text := by
  have closed (part : List Char) : part ∈ (seq item (Pattern.letter separator)).language ↔
      ∃ inner ∈ item.language, inner ++ [separator] = part := by
    rw [mem_seq_iff]
    simp only [mem_letter_iff, exists_eq_left]
  simp only [isRow_intercalate_iff free]
  rw [oneOrMore, mem_seq_iff]
  constructor
  · rintro ⟨first, inFirst, rest, inRest, rfl⟩
    obtain ⟨part, inItem, rfl⟩ := (closed first).1 inFirst
    obtain ⟨parts, inItems, rfl⟩ := (mem_kstar_iff_flatMap closed).1 inRest
    exact ⟨_, ⟨part, parts, List.forall_mem_cons.2 ⟨inItem, inItems⟩, rfl⟩,
      (Text.flatMap_append_separator separator part parts).symm⟩
  · rintro ⟨_, ⟨part, parts, inItems, rfl⟩, rfl⟩
    obtain ⟨inItem, inItems⟩ := List.forall_mem_cons.1 inItems
    exact ⟨part ++ [separator], (closed _).2 ⟨part, inItem, rfl⟩, _,
      (mem_kstar_iff_flatMap closed).2 ⟨parts, inItems, rfl⟩,
      Text.flatMap_append_separator separator part parts⟩

end Rows

end Pattern

end FormRules
