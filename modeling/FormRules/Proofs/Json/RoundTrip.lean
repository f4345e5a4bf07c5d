/-
**Written JSON reads back.**

The reader skips blanks in front of every token, so it gives a document back whatever the layout in
which it was written. The induction is over the document; it speaks of a text that goes on behind
the value, because a number ends only where something else starts.

* `Regular` are the documents that can be written: all their numbers are literals of JSON;
* `Layout.readValue?_text`: a written value reads back in front of anything that ends a number;
* `Layout.read?_text_append`: a written document reads back with blanks behind it, and
  `read?_compact` and `read?_pretty` are the two layouts in use, with nothing behind.
-/

import FormRules.Proofs.Json.Layout
import FormRules.Proofs.Json.Token
import Mathlib.Data.List.DropRight

namespace FormRules.Json

/-- A document that can be written: its numbers are literals of JSON. -/
inductive Regular : Json → Prop
  | null : Regular .null
  | bool (value : Bool) : Regular (.bool value)
  | number {literal : Decimal.Literal} (numeral : Numeral literal) : Regular (.number literal)
  | string (text : Option String) : Regular (.string text)
  | array {elements : List Json} (all : ∀ element ∈ elements, Regular element) :
    Regular (.array elements)
  | object {entries : List (Option String × Json)} (all : ∀ entry ∈ entries, Regular entry.2) :
    Regular (.object entries)

/-! ### Blanks -/

section Gaps

variable {gap : List Char} (blank : ∀ letter ∈ gap, isGap letter = true)

include blank in
theorem skipGaps_append (rest : List Char) : skipGaps (gap ++ rest) = skipGaps rest :=
  List.dropWhile_append_of_pos blank

theorem skipGaps_cons {letter : Char} (solid : isGap letter = false) (rest : List Char) :
    skipGaps (letter :: rest) = letter :: rest :=
  List.dropWhile_cons_of_neg (Bool.not_eq_true _ ▸ solid)

theorem skipGaps_skipGaps (text : List Char) : skipGaps (skipGaps text) = skipGaps text :=
  List.dropWhile_idempotent ..

theorem readValue?_skipGaps (fuel : Nat) (text : List Char) :
    readValue? fuel (skipGaps text) = readValue? fuel text := by
  cases fuel with
  | zero => rw [readValue?, readValue?]
  | succ fuel => rw [readValue?, readValue?, skipGaps_skipGaps]

theorem readElements?_skipGaps (fuel : Nat) (text : List Char) :
    readElements? fuel (skipGaps text) = readElements? fuel text := by
  cases fuel with
  | zero => rw [readElements?, readElements?]
  | succ fuel => rw [readElements?, readElements?, readValue?_skipGaps]

theorem readEntries?_skipGaps (fuel : Nat) (text : List Char) :
    readEntries? fuel (skipGaps text) = readEntries? fuel text := by
  cases fuel with
  | zero => rw [readEntries?, readEntries?]
  | succ fuel => rw [readEntries?, readEntries?, skipGaps_skipGaps]

include blank in
/-- Blanks in front of a value are skipped. -/
theorem readValue?_gap_append (fuel : Nat) (text : List Char) :
    readValue? fuel (gap ++ text) = readValue? fuel text := by
  rw [← readValue?_skipGaps, skipGaps_append blank, readValue?_skipGaps]

theorem endsNumber_of_isGap {letter : Char} (isBlank : isGap letter = true) (rest : List Char) :
    EndsNumber (letter :: rest) := by
  rintro _ ⟨⟩
  simp only [isGap, Bool.or_eq_true, decide_eq_true_eq] at isBlank
  obtain ((rfl | rfl) | rfl) | rfl := isBlank <;> decide

theorem endsNumber_mark {mark : Char} (known : mark ∈ [',', ']', '\x7d']) (rest : List Char) :
    EndsNumber (mark :: rest) := by
  rintro _ ⟨⟩
  simp only [List.mem_cons, List.not_mem_nil, or_false] at known
  obtain rfl | rfl | rfl := known <;> decide

include blank in
theorem endsNumber_gap_append {rest : List Char} (ends : EndsNumber rest) :
    EndsNumber (gap ++ rest) := by
  cases gap with
  | nil => exact ends
  | cons letter others => exact endsNumber_of_isGap (blank letter List.mem_cons_self) _

end Gaps

/-! ### The first letter of a value -/

/-- A digit or a minus sign, with which numbers start and no other token does. -/
def StartsNumber (letter : Char) : Prop :=
  Decimal.isDigit letter = true ∨ letter = '-'

theorem StartsNumber.ne {letter mark : Char} (starts : StartsNumber letter)
    (noDigit : Decimal.isDigit mark = false) (noMinus : mark ≠ '-') : letter ≠ mark := by
  rintro rfl
  obtain digit | minus := starts
  · simp [noDigit] at digit
  · exact noMinus minus

theorem StartsNumber.isGap_eq_false {letter : Char} (starts : StartsNumber letter) :
    isGap letter = false := by
  have noBlank : letter ≠ ' ' ∧ letter ≠ '\t' ∧ letter ≠ '\n' ∧ letter ≠ '\r' :=
    ⟨starts.ne (by decide) (by decide), starts.ne (by decide) (by decide),
      starts.ne (by decide) (by decide), starts.ne (by decide) (by decide)⟩
  simp [isGap, noBlank]

theorem exists_numberText_eq_cons {literal : Decimal.Literal} (numeral : Numeral literal) :
    ∃ letter rest, numberText literal = letter :: rest ∧ StartsNumber letter := by
  obtain ⟨digit, others, whole⟩ := List.exists_cons_of_ne_nil numeral.whole_ne_nil
  have first : Decimal.isDigit digit = true :=
    numeral.isDigit_whole digit (whole ▸ List.mem_cons_self)
  rw [numberText, whole]
  cases literal.negative with
  | true => exact ⟨'-', _, rfl, Or.inr rfl⟩
  | false => exact ⟨digit, _, rfl, Or.inl first⟩

/-- A written value starts with a letter that is neither a blank nor a closing bracket. -/
theorem Layout.exists_text_eq_cons (layout : Layout) (level : Nat) {document : Json}
    (regular : Regular document) :
    ∃ letter rest, layout.text level document = letter :: rest ∧ isGap letter = false ∧
      letter ≠ ']' := by
  cases regular with
  | null => exact ⟨'n', _, by rw [text]; rfl, by decide, by decide⟩
  | bool value =>
    cases value with
    | true => exact ⟨'t', _, by rw [text]; rfl, by decide, by decide⟩
    | false => exact ⟨'f', _, by rw [text]; rfl, by decide, by decide⟩
  | number numeral =>
    obtain ⟨letter, rest, written, starts⟩ := exists_numberText_eq_cons numeral
    exact ⟨letter, rest, by rw [text, written], starts.isGap_eq_false,
      starts.ne (by decide) (by decide)⟩
  | string content =>
    obtain ⟨body, written, _⟩ := exists_readString?_stringText content
    exact ⟨'"', body, by rw [text, written], by decide, by decide⟩
  | @array elements all =>
    cases elements with
    | nil => exact ⟨'[', _, by rw [text]; rfl, by decide, by decide⟩
    | cons element others => exact ⟨'[', _, by rw [text]; rfl; simp, by decide, by decide⟩
  | @object entries all =>
    cases entries with
    | nil => exact ⟨'\x7b', _, by rw [text]; rfl, by decide, by decide⟩
    | cons entry others => exact ⟨'\x7b', _, by rw [text]; rfl; simp, by decide, by decide⟩

/-- What comes behind the first element does not matter for how a row of elements starts. -/
theorem Layout.exists_skipGaps_elementsText (layout : Layout) (level : Nat) {element : Json}
    (regular : Regular element) (others : List Json) (behind : List Char) :
    ∃ letter tail, skipGaps (layout.elementsText level (element :: others) ++ behind) =
      letter :: tail ∧ letter ≠ ']' := by
  obtain ⟨letter, rest, written, solid, more⟩ := layout.exists_text_eq_cons level regular
  have start : ∃ after, layout.elementsText level (element :: others) =
      layout.lead level ++ (layout.text level element ++ after) := by
    cases others with
    | nil => exact ⟨[], by rw [elementsText, List.append_nil]⟩
    | cons second others =>
      exact ⟨_, by rw [layout.elementsText_cons level element (by simp), List.append_assoc]⟩
  obtain ⟨after, start⟩ := start
  refine ⟨letter, rest ++ (after ++ behind), ?_, more⟩
  rw [start, List.append_assoc, skipGaps_append (layout.isGap_lead level), written]
  simp only [List.append_assoc, List.cons_append]
  exact skipGaps_cons solid _

/-- The key of an entry is read up to its colon. -/
theorem Layout.exists_skipGaps_key (layout : Layout) (level : Nat) (key : Option String)
    (behind : List Char) :
    ∃ body, skipGaps (layout.lead level ++ (stringText key ++ ':' :: behind)) = '"' :: body ∧
      readString? body = some (key, ':' :: behind) := by
  obtain ⟨body, written, read⟩ := exists_readString?_stringText key
  refine ⟨body ++ ':' :: behind, ?_, read _⟩
  rw [skipGaps_append (layout.isGap_lead level), written, List.cons_append,
    skipGaps_cons (by decide)]

theorem Layout.exists_skipGaps_entriesText (layout : Layout) (level : Nat)
    (entry : Option String × Json) (others : List (Option String × Json)) (behind : List Char) :
    ∃ tail, skipGaps (layout.entriesText level (entry :: others) ++ behind) = '"' :: tail := by
  obtain ⟨key, value⟩ := entry
  have start : ∃ after, layout.entriesText level ((key, value) :: others) =
      layout.lead level ++ (stringText key ++ ':' :: after) := by
    cases others with
    | nil =>
      rw [entriesText]
      exact ⟨_, by simp only [List.append_assoc, List.cons_append]; rfl⟩
    | cons second others =>
      rw [layout.entriesText_cons level key value (List.cons_ne_nil second others)]
      exact ⟨_, by simp only [List.append_assoc, List.cons_append]; rfl⟩
  obtain ⟨after, start⟩ := start
  obtain ⟨body, opening, _⟩ := layout.exists_skipGaps_key level key (after ++ behind)
  rw [start, List.append_assoc, List.append_assoc, List.cons_append]
  exact ⟨body, opening⟩

/-! ### The reader by the first letter -/

section FirstLetter

variable (fuel : Nat)

theorem readValue?_of_startsNumber {letter : Char} (starts : StartsNumber letter)
    (rest : List Char) :
    readValue? (fuel + 1) (letter :: rest) =
      (readNumber? (letter :: rest)).map fun (literal, left) => (.number literal, left) := by
  have noOther {mark : Char} {tail : List Char} (same : letter :: rest = mark :: tail)
      (noDigit : Decimal.isDigit mark = false) (noMinus : mark ≠ '-') : False :=
    starts.ne noDigit noMinus (List.cons.inj same).1
  rw [readValue?, skipGaps_cons starts.isGap_eq_false]
  split
  · contradiction
  · exact (noOther ‹_› (by decide) (by decide)).elim
  · exact (noOther ‹_› (by decide) (by decide)).elim
  · exact (noOther ‹_› (by decide) (by decide)).elim
  · exact (noOther ‹_› (by decide) (by decide)).elim
  · exact (noOther ‹_› (by decide) (by decide)).elim
  · exact (noOther ‹_› (by decide) (by decide)).elim
  · rfl

theorem readValue?_quote (rest : List Char) :
    readValue? (fuel + 1) ('"' :: rest) =
      (readString? rest).map fun (content, left) => (.string content, left) := by
  rw [readValue?, skipGaps_cons (by decide)]
  rfl

/-- Behind an opening bracket there are elements unless the closing bracket comes first. -/
theorem readValue?_bracket {rest tail : List Char} {letter : Char}
    (first : skipGaps rest = letter :: tail) (more : letter ≠ ']') :
    readValue? (fuel + 1) ('[' :: rest) =
      (readElements? fuel rest).map fun (elements, left) => (.array elements, left) := by
  simp only [readValue?, skipGaps_cons (show isGap '[' = false by decide)]
  rw [← readElements?_skipGaps, first]
  split
  · next same => exact absurd (List.cons.inj same).1 more
  · rfl

/-- Behind an opening brace there are entries unless the closing brace comes first. -/
theorem readValue?_brace {rest tail : List Char} {letter : Char}
    (first : skipGaps rest = letter :: tail) (more : letter ≠ '\x7d') :
    readValue? (fuel + 1) ('\x7b' :: rest) =
      (readEntries? fuel rest).map fun (entries, left) => (.object entries, left) := by
  simp only [readValue?, skipGaps_cons (show isGap '\x7b' = false by decide)]
  rw [← readEntries?_skipGaps, first]
  split
  · next same => exact absurd (List.cons.inj same).1 more
  · rfl

variable {fuel}

theorem readElements?_of_comma {text afterElement rest : List Char} {element : Json}
    (read : readValue? fuel text = some (element, afterElement))
    (behind : skipGaps afterElement = ',' :: rest) :
    readElements? (fuel + 1) text =
      (readElements? fuel rest).map fun (elements, left) => (element :: elements, left) := by
  simp only [readElements?, read, Option.bind_eq_bind, Option.bind_some, behind]
  cases readElements? fuel rest <;> rfl

theorem readElements?_of_bracket {text afterElement rest : List Char} {element : Json}
    (read : readValue? fuel text = some (element, afterElement))
    (behind : skipGaps afterElement = ']' :: rest) :
    readElements? (fuel + 1) text = some ([element], rest) := by
  simp only [readElements?, read, Option.bind_eq_bind, Option.bind_some, behind]
  rfl

section Entry

variable {text body afterColon afterValue rest : List Char} {key : Option String} {value : Json}
  (start : skipGaps text = '"' :: body)
  (readKey : readString? body = some (key, ':' :: afterColon))
  (read : readValue? fuel afterColon = some (value, afterValue))

include start readKey read

theorem readEntries?_of_comma (behind : skipGaps afterValue = ',' :: rest) :
    readEntries? (fuel + 1) text =
      (readEntries? fuel rest).map fun (entries, left) => ((key, value) :: entries, left) := by
  simp only [readEntries?, start, readKey, Option.bind_eq_bind, Option.bind_some,
    skipGaps_cons (show isGap ':' = false by decide), read, behind]
  cases readEntries? fuel rest <;> rfl

theorem readEntries?_of_brace (behind : skipGaps afterValue = '\x7d' :: rest) :
    readEntries? (fuel + 1) text = some ([(key, value)], rest) := by
  simp only [readEntries?, start, readKey, Option.bind_eq_bind, Option.bind_some,
    skipGaps_cons (show isGap ':' = false by decide), read, behind]
  rfl

end Entry

end FirstLetter

/-! ### The induction -/

namespace Layout

mutual

/-- A value takes a unit of fuel for itself, and so does each element or entry. Every one of them is
written with at least one letter, so twice the length of the text is always enough. -/
theorem readValue?_text (layout : Layout) (level : Nat) : ∀ (document : Json) (fuel : Nat)
    (rest : List Char), Regular document → 2 * (layout.text level document).length ≤ fuel →
    EndsNumber rest →
    readValue? fuel (layout.text level document ++ rest) = some (document, rest)
  | document, 0, rest, regular, enough, _ => by
    obtain ⟨letter, tail, written, _⟩ := layout.exists_text_eq_cons level regular
    simp [written] at enough
  | .null, fuel + 1, rest, _, _, _ => by
    rw [text]
    rfl
  | .bool true, fuel + 1, rest, _, _, _ => by
    rw [text]
    rfl
  | .bool false, fuel + 1, rest, _, _, _ => by
    rw [text]
    rfl
  | .number literal, fuel + 1, rest, .number numeral, _, ends => by
    obtain ⟨letter, tail, written, starts⟩ := exists_numberText_eq_cons numeral
    have read := readNumber?_numberText numeral ends
    rw [text]
    rw [written, List.cons_append] at read ⊢
    rw [readValue?_of_startsNumber fuel starts, read]
    rfl
  | .string content, fuel + 1, rest, _, _, _ => by
    obtain ⟨body, written, read⟩ := exists_readString?_stringText content
    rw [text, written, List.cons_append, readValue?_quote, read]
    rfl
  | .array [], fuel + 1, rest, _, _, _ => by
    rw [text]
    rfl
  | .array (element :: others), fuel + 1, rest, .array all, enough, _ => by
    rw [layout.text_array level (List.cons_ne_nil element others)] at enough ⊢
    simp only [List.length_append, List.length_cons, List.length_nil] at enough
    obtain ⟨letter, tail, first, more⟩ :=
      layout.exists_skipGaps_elementsText (level + 1) (all element List.mem_cons_self) others
        (layout.lead level ++ ']' :: rest)
    have read := layout.readElements?_elementsText (level + 1) (element :: others) fuel
      (layout.lead level) rest (List.cons_ne_nil element others) all (layout.isGap_lead level)
      (by omega)
    simp only [List.cons_append, List.append_assoc, List.nil_append]
    rw [readValue?_bracket fuel first more, read]
    rfl
  | .object [], fuel + 1, rest, _, _, _ => by
    rw [text]
    rfl
  | .object (entry :: others), fuel + 1, rest, .object all, enough, _ => by
    rw [layout.text_object level (List.cons_ne_nil entry others)] at enough ⊢
    simp only [List.length_append, List.length_cons, List.length_nil] at enough
    obtain ⟨tail, first⟩ := layout.exists_skipGaps_entriesText (level + 1) entry others
      (layout.lead level ++ '\x7d' :: rest)
    have read := layout.readEntries?_entriesText (level + 1) (entry :: others) fuel
      (layout.lead level) rest (List.cons_ne_nil entry others) all (layout.isGap_lead level)
      (by omega)
    simp only [List.cons_append, List.append_assoc, List.nil_append]
    rw [readValue?_brace fuel first (by decide), read]
    rfl

theorem readElements?_elementsText (layout : Layout) (level : Nat) : ∀ (elements : List Json)
    (fuel : Nat) (gap rest : List Char), elements ≠ [] → (∀ element ∈ elements, Regular element) →
    (∀ letter ∈ gap, isGap letter = true) →
    2 * (layout.elementsText level elements).length + 1 ≤ fuel →
    readElements? fuel (layout.elementsText level elements ++ (gap ++ ']' :: rest)) =
      some (elements, rest)
  | [], _, _, _, something, _, _, _ => absurd rfl something
  | [element], fuel + 1, gap, rest, _, all, blank, enough => by
    rw [elementsText] at enough ⊢
    rw [List.length_append] at enough
    have ends : EndsNumber (gap ++ ']' :: rest) :=
      endsNumber_gap_append blank (endsNumber_mark (by decide) rest)
    have read := layout.readValue?_text level element fuel _ (all element List.mem_cons_self)
      (by omega) ends
    rw [← readValue?_gap_append (layout.isGap_lead level), ← List.append_assoc] at read
    exact readElements?_of_bracket read (skipGaps_append blank _)
  | element :: second :: others, fuel + 1, gap, rest, _, all, blank, enough => by
    rw [layout.elementsText_cons level element (List.cons_ne_nil second others)] at enough ⊢
    simp only [List.length_append, List.length_cons] at enough
    have ends : EndsNumber (',' :: (layout.elementsText level (second :: others) ++
        (gap ++ ']' :: rest))) := endsNumber_mark (by decide) _
    have read := layout.readValue?_text level element fuel _ (all element List.mem_cons_self)
      (by omega) ends
    have readOthers := layout.readElements?_elementsText level (second :: others) fuel gap rest
      (List.cons_ne_nil second others)
      (fun other member => all other (List.mem_cons_of_mem _ member)) blank (by omega)
    rw [← readValue?_gap_append (layout.isGap_lead level), ← List.append_assoc] at read
    rw [List.append_assoc, List.cons_append,
      readElements?_of_comma read (skipGaps_cons (by decide) _), readOthers]
    rfl

theorem readEntries?_entriesText (layout : Layout) (level : Nat) :
    ∀ (entries : List (Option String × Json)) (fuel : Nat) (gap rest : List Char), entries ≠ [] →
    (∀ entry ∈ entries, Regular entry.2) → (∀ letter ∈ gap, isGap letter = true) →
    2 * (layout.entriesText level entries).length + 1 ≤ fuel →
    readEntries? fuel (layout.entriesText level entries ++ (gap ++ '\x7d' :: rest)) =
      some (entries, rest)
  | [], _, _, _, something, _, _, _ => absurd rfl something
  | [(key, value)], fuel + 1, gap, rest, _, all, blank, enough => by
    rw [entriesText] at enough ⊢
    simp only [List.length_append, List.length_cons] at enough
    have ends : EndsNumber (gap ++ '\x7d' :: rest) :=
      endsNumber_gap_append blank (endsNumber_mark (by decide) rest)
    have read := layout.readValue?_text level value fuel _ (all (key, value) List.mem_cons_self)
      (by omega) ends
    rw [← readValue?_gap_append layout.isGap_afterColon] at read
    obtain ⟨body, start, readKey⟩ := layout.exists_skipGaps_key level key
      (layout.afterColon ++ (layout.text level value ++ (gap ++ '\x7d' :: rest)))
    simp only [List.append_assoc, List.cons_append]
    exact readEntries?_of_brace start readKey read (skipGaps_append blank _)
  | (key, value) :: second :: others, fuel + 1, gap, rest, _, all, blank, enough => by
    rw [layout.entriesText_cons level key value (List.cons_ne_nil second others)] at enough ⊢
    simp only [List.length_append, List.length_cons] at enough
    have ends : EndsNumber (',' :: (layout.entriesText level (second :: others) ++
        (gap ++ '\x7d' :: rest))) := endsNumber_mark (by decide) _
    have read := layout.readValue?_text level value fuel _ (all (key, value) List.mem_cons_self)
      (by omega) ends
    have readOthers := layout.readEntries?_entriesText level (second :: others) fuel gap rest
      (List.cons_ne_nil second others)
      (fun other member => all other (List.mem_cons_of_mem _ member)) blank (by omega)
    rw [← readValue?_gap_append layout.isGap_afterColon] at read
    obtain ⟨body, start, readKey⟩ := layout.exists_skipGaps_key level key
      (layout.afterColon ++ (layout.text level value ++ ',' ::
        (layout.entriesText level (second :: others) ++ (gap ++ '\x7d' :: rest))))
    simp only [List.append_assoc, List.cons_append]
    rw [readEntries?_of_comma start readKey read (skipGaps_cons (by decide) _), readOthers]
    rfl

end

/-- **A written document reads back**, also with blanks behind it. -/
theorem read?_text_append (layout : Layout) {document : Json} (regular : Regular document)
    {gap : List Char} (blank : ∀ letter ∈ gap, isGap letter = true) :
    read? (String.ofList (layout.text 0 document ++ gap)) = some document := by
  have ends : EndsNumber gap := by
    rw [← List.append_nil gap]
    exact endsNumber_gap_append blank (by rintro _ ⟨⟩)
  have read := layout.readValue?_text 0 document
    (2 * (layout.text 0 document ++ gap).length + 1) gap regular
    (by rw [List.length_append]; omega) ends
  have nothing : skipGaps gap = [] := List.dropWhile_eq_nil_iff.2 blank
  rw [read?, String.toList_ofList]
  simp only [read, Option.bind_eq_bind, Option.bind_some, nothing]
  rfl

end Layout

theorem read?_compact_append {document : Json} (regular : Regular document) {gap : List Char}
    (blank : ∀ letter ∈ gap, isGap letter = true) :
    read? (document.compact ++ String.ofList gap) = some document := by
  rw [compact, ← String.ofList_append, Layout.compactText_eq 0]
  exact Layout.dense.read?_text_append regular blank

theorem read?_pretty_append {document : Json} (regular : Regular document) {gap : List Char}
    (blank : ∀ letter ∈ gap, isGap letter = true) :
    read? (document.pretty ++ String.ofList gap) = some document := by
  rw [pretty, ← String.ofList_append, Layout.prettyText_eq 0]
  exact Layout.indented.read?_text_append regular blank

section Whole

variable {document : Json} (regular : Regular document)

include regular

/-- A document in one line reads back. -/
theorem read?_compact : read? document.compact = some document := by
  have read := @read?_compact_append document regular [] (by simp)
  rwa [String.ofList_nil, String.append_empty] at read

/-- A document in indented lines reads back. -/
theorem read?_pretty : read? document.pretty = some document := by
  have read := @read?_pretty_append document regular [] (by simp)
  rwa [String.ofList_nil, String.append_empty] at read

end Whole

end FormRules.Json
