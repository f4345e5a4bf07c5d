/-
**Blank characters and trimming.**

A character is blank when it has the Unicode property White_Space. The 25 such characters are
listed as ranges, and trimming removes them at an end of a text:

* `trim_eq_nil_iff`: exactly the texts of blanks trim to nothing;
* `exists_blank_around_trim`: a text is its trimmed text between blanks, and
  `exists_trimStart_eq`: without its leading blanks it is its trimmed text in front of blanks;
* `trimmed_iff`: exactly the texts without a blank at either end stay as they are;
* `trim_append_of_blank_left`, `trim_append_of_blank_right`: blanks at the ends do not count.
-/

namespace FormRules.Text

/-- The code points with the Unicode property White_Space, as closed ranges. -/
def blankRanges : List (Nat × Nat) :=
  [(0x0009, 0x000D), (0x0020, 0x0020), (0x0085, 0x0085), (0x00A0, 0x00A0), (0x1680, 0x1680),
   (0x2000, 0x200A), (0x2028, 0x2029), (0x202F, 0x202F), (0x205F, 0x205F), (0x3000, 0x3000)]

/-- Whether a code point lies in one of the closed ranges. -/
def inRanges (ranges : List (Nat × Nat)) (point : Nat) : Bool :=
  ranges.any fun range => range.1 ≤ point && point ≤ range.2

/-- Whether a character is white space in the sense of Unicode. -/
def isBlank (letter : Char) : Bool :=
  inRanges blankRanges letter.toNat

/-- A text without its leading blanks. -/
def trimStart (text : List Char) : List Char :=
  text.dropWhile isBlank

/-- A text without its trailing blanks. -/
def trimEnd (text : List Char) : List Char :=
  (trimStart text.reverse).reverse

/-- A text without the blanks at its ends. -/
def trim (text : List Char) : List Char :=
  trimEnd (trimStart text)

/-! ### Trimming -/

@[simp]
theorem trimStart_nil : trimStart [] = [] := rfl

theorem trimStart_eq_nil_iff {text : List Char} :
    trimStart text = [] ↔ ∀ letter ∈ text, isBlank letter = true := by
  unfold trimStart
  induction text with
  | nil => simp
  | cons letter rest ih => cases blank : isBlank letter <;> simp [blank, ih]

theorem trimEnd_eq_nil_iff {text : List Char} :
    trimEnd text = [] ↔ ∀ letter ∈ text, isBlank letter = true := by
  simp [trimEnd, trimStart_eq_nil_iff]

/-- A character that is not blank stops the trimming at the start. -/
theorem trimStart_cons_of_not_blank {letter : Char} {rest : List Char}
    (solid : isBlank letter = false) : trimStart (letter :: rest) = letter :: rest := by
  simp [trimStart, solid]

/-- Exactly the texts of blanks trim to nothing. -/
theorem trim_eq_nil_iff {text : List Char} :
    trim text = [] ↔ ∀ letter ∈ text, isBlank letter = true := by
  unfold trim
  induction text with
  | nil => simp [trimEnd_eq_nil_iff]
  | cons letter rest ih =>
    cases blank : isBlank letter with
    | true => simpa [trimStart, List.dropWhile_cons, blank] using ih
    | false => simp [trimStart_cons_of_not_blank blank, trimEnd_eq_nil_iff]

/-! ### Blanks at the ends -/

/-- Blanks in front of a text do not count when its start is trimmed. -/
theorem trimStart_append_of_blank {lead : List Char}
    (blank : ∀ letter ∈ lead, isBlank letter = true) (text : List Char) :
    trimStart (lead ++ text) = trimStart text :=
  List.dropWhile_append_of_pos blank

/-- Blanks behind a text do not count when its end is trimmed. -/
theorem trimEnd_append_of_blank {trail : List Char}
    (blank : ∀ letter ∈ trail, isBlank letter = true) (text : List Char) :
    trimEnd (text ++ trail) = trimEnd text := by
  have reversed : ∀ letter ∈ trail.reverse, isBlank letter = true := fun letter member =>
    blank letter (List.mem_reverse.1 member)
  rw [trimEnd, List.reverse_append, trimStart_append_of_blank reversed, trimEnd]

/-- Blanks in front of a text do not count. -/
theorem trim_append_of_blank_left {lead : List Char}
    (blank : ∀ letter ∈ lead, isBlank letter = true) (text : List Char) :
    trim (lead ++ text) = trim text := by
  rw [trim, trimStart_append_of_blank blank, trim]

/-- Blanks behind a text do not count. -/
theorem trim_append_of_blank_right {trail : List Char}
    (blank : ∀ letter ∈ trail, isBlank letter = true) (text : List Char) :
    trim (text ++ trail) = trim text := by
  by_cases blankText : ∀ letter ∈ text, isBlank letter = true
  · rw [trim_append_of_blank_left blankText, trim_eq_nil_iff.2 blank, trim_eq_nil_iff.2 blankText]
  · have stops : (trimStart text).isEmpty = false := by
      rw [List.isEmpty_eq_false_iff]
      exact fun nothing => blankText (trimStart_eq_nil_iff.1 nothing)
    have start : trimStart (text ++ trail) = trimStart text ++ trail := by
      rw [trimStart, List.dropWhile_append, ← trimStart, stops]
      rfl
    rw [trim, start, trimEnd_append_of_blank blank, trim]

theorem takeWhile_append_trimStart (text : List Char) :
    text.takeWhile isBlank ++ trimStart text = text :=
  List.takeWhile_append_dropWhile

/-- A text without its leading blanks is its trimmed text in front of blanks. -/
theorem exists_trimStart_eq (text : List Char) :
    ∃ trail : List Char, (∀ letter ∈ trail, isBlank letter = true) ∧
      trimStart text = trim text ++ trail := by
  refine ⟨((trimStart text).reverse.takeWhile isBlank).reverse, fun letter member => ?_, ?_⟩
  · exact List.all_eq_true.1 List.all_takeWhile letter (List.mem_reverse.1 member)
  · rw [trim, trimEnd, ← List.reverse_append, takeWhile_append_trimStart, List.reverse_reverse]

/-- A text is its trimmed text between blanks. -/
theorem exists_blank_around_trim (text : List Char) :
    ∃ lead trail : List Char, (∀ letter ∈ lead, isBlank letter = true) ∧
      (∀ letter ∈ trail, isBlank letter = true) ∧ text = lead ++ (trim text ++ trail) := by
  obtain ⟨trail, blankTrail, start⟩ := exists_trimStart_eq text
  refine ⟨text.takeWhile isBlank, trail, List.all_eq_true.1 List.all_takeWhile, blankTrail, ?_⟩
  rw [← start, takeWhile_append_trimStart]

/-- A trimmed text has no blanks left to trim. -/
theorem trim_trim (text : List Char) : trim (trim text) = trim text := by
  obtain ⟨lead, trail, blankLead, blankTrail, shape⟩ := exists_blank_around_trim text
  calc trim (trim text) = trim (trim text ++ trail) :=
        (trim_append_of_blank_right blankTrail _).symm
    _ = trim (lead ++ (trim text ++ trail)) := (trim_append_of_blank_left blankLead _).symm
    _ = trim text := by rw [← shape]

/-! ### Trimmed texts -/

/-- A text without a blank at either end. -/
structure Trimmed (text : List Char) : Prop where
  start : ∀ letter, text.head? = some letter → isBlank letter = false
  stop : ∀ letter, text.getLast? = some letter → isBlank letter = false

theorem trimStart_eq_self {text : List Char}
    (start : ∀ letter, text.head? = some letter → isBlank letter = false) :
    trimStart text = text := by
  cases text with
  | nil => rfl
  | cons letter rest => exact trimStart_cons_of_not_blank (start letter rfl)

theorem trimEnd_eq_self {text : List Char}
    (stop : ∀ letter, text.getLast? = some letter → isBlank letter = false) :
    trimEnd text = text := by
  rw [trimEnd, trimStart_eq_self, List.reverse_reverse]
  intro letter first
  rw [List.head?_reverse] at first
  exact stop letter first

theorem length_trim_le (text : List Char) : (trim text).length ≤ text.length := by
  obtain ⟨lead, trail, _, _, shape⟩ := exists_blank_around_trim text
  have lengths := congrArg List.length shape
  simp only [List.length_append] at lengths
  omega

theorem mem_of_mem_trim {text : List Char} {letter : Char} (member : letter ∈ trim text) :
    letter ∈ text := by
  obtain ⟨lead, trail, _, _, shape⟩ := exists_blank_around_trim text
  rw [shape]
  exact List.mem_append_right lead (List.mem_append_left trail member)

/-- Exactly the texts without a blank at either end stay as they are: with one, trimming would leave
fewer letters. -/
theorem trimmed_iff {text : List Char} : Trimmed text ↔ trim text = text := by
  constructor
  · rintro ⟨start, stop⟩
    rw [trim, trimStart_eq_self start, trimEnd_eq_self stop]
  · intro same
    have notShorter {part : List Char} (trimsAlike : trim text = trim part) :
        text.length ≤ part.length := by
      rw [← same, trimsAlike]
      exact length_trim_le part
    constructor
    · intro letter first
      obtain ⟨rest, rfl⟩ := List.head?_eq_some_iff.1 first
      refine Bool.eq_false_iff.2 fun blank => ?_
      have dropped := @trim_append_of_blank_left [letter] (by simpa) rest
      exact absurd (notShorter dropped) (by simp)
    · intro letter last
      obtain ⟨rest, rfl⟩ := List.getLast?_eq_some_iff.1 last
      refine Bool.eq_false_iff.2 fun blank => ?_
      have dropped := @trim_append_of_blank_right [letter] (by simpa) rest
      exact absurd (notShorter dropped) (by simp)

theorem trimmed_trim (text : List Char) : Trimmed (trim text) :=
  trimmed_iff.2 (trim_trim text)

end FormRules.Text
