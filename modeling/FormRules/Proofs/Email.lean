/-
**The grammar of e-mail addresses.**

An address is cut at its last at sign. In front of it stands a row of atoms or a quoted text, behind
it four numbers in brackets or a row of labels that ends in letters.

* `Email.IsAddress` is the grammar, in terms of cuts of the text;
* `Email.mem_address_iff`: the pattern of addresses describes it;
* `isEmail_grammar` is the result for texts and for the check of e-mail addresses.
-/

import FormRules.Check
import FormRules.Proofs.Pattern

namespace FormRules

namespace Email

open Pattern

/-! ### The grammar -/

/-- An atom: no blank and none of the characters that end atoms. -/
def IsAtom (text : List Char) : Prop :=
  text ≠ [] ∧ ∀ letter ∈ text,
    letter ∉ ['<', '>', '(', ')', '[', ']', '\\', '.', ',', ';', ':', '@', '"'] ∧
      Text.isBlank letter = false

/-- Atoms with single points between them. -/
def IsPlainLocal (text : List Char) : Prop :=
  ∀ atom ∈ Text.pieces '.' text, IsAtom atom

/-- Something without a line feed between quotes. -/
def IsQuotedLocal (text : List Char) : Prop :=
  ∃ inner, inner ≠ [] ∧ '\n' ∉ inner ∧ text = '"' :: (inner ++ ['"'])

/-- One to three digits. -/
def IsOctet (text : List Char) : Prop :=
  1 ≤ text.length ∧ text.length ≤ 3 ∧ ∀ letter ∈ text, letter.isDigit = true

/-- Four numbers with points between them, in brackets. -/
def IsNumericDomain (text : List Char) : Prop :=
  ∃ octets : List (List Char), octets.length = 4 ∧ (∀ octet ∈ octets, IsOctet octet) ∧
    text = '[' :: (['.'].intercalate octets ++ [']'])

/-- A label of letters, digits and hyphens. -/
def IsLabel (text : List Char) : Prop :=
  text ≠ [] ∧ ∀ letter ∈ text, letter.isAlphanum = true ∨ letter = '-'

/-- Labels with single points between them, then a point and at least two letters. -/
def IsNamedDomain (text : List Char) : Prop :=
  ∃ labels ending, Text.splitLast '.' text = some (labels, ending) ∧
    (∀ label ∈ Text.pieces '.' labels, IsLabel label) ∧
    2 ≤ ending.length ∧ ∀ letter ∈ ending, letter.isAlpha = true

/-- **An e-mail address**, cut at its last at sign. -/
def IsAddress (text : List Char) : Prop :=
  ∃ front domain, Text.splitLast '@' text = some (front, domain) ∧
    (IsPlainLocal front ∨ IsQuotedLocal front) ∧ (IsNumericDomain domain ∨ IsNamedDomain domain)

/-! ### Sets of characters -/

section Letters

variable {letter : Char}

theorem contains_atomLetter_iff :
    atomLetter.contains letter = true ↔ letter ∉ specials ∧ Text.isBlank letter = false := by
  rw [atomLetter, CharSet.contains_outside, CharSet.inRanges_append, Bool.not_or,
    Bool.and_eq_true, Bool.not_eq_true', Bool.not_eq_true', ← Bool.not_eq_true,
    CharSet.inRanges_rangesOf_iff, Text.isBlank]

theorem contains_lineLetter_iff : lineLetter.contains letter = true ↔ letter ≠ '\n' := by
  rw [lineLetter, CharSet.contains_outside, Bool.not_eq_true', ← Bool.not_eq_true,
    CharSet.inRanges_rangesOf_iff, List.mem_singleton]

theorem contains_digit : digit.contains letter = letter.isDigit := by
  rw [Bool.eq_iff_iff, digit, CharSet.range, CharSet.contains_inside]
  simp [Text.inRanges, Char.isDigit, UInt32.le_iff_toNat_le]

theorem contains_asciiLetter : asciiLetter.contains letter = letter.isAlpha := by
  have isAlpha : letter.isAlpha = (decide ('A'.val ≤ letter.val ∧ letter.val ≤ 'Z'.val) ||
      (decide ('a'.val ≤ letter.val) && decide (letter.val ≤ 'z'.val))) := rfl
  rw [Bool.eq_iff_iff, asciiLetter, CharSet.contains_inside, isAlpha]
  simp [Text.inRanges, UInt32.le_iff_toNat_le, or_comm]

theorem contains_labelLetter_iff :
    labelLetter.contains letter = true ↔ letter.isAlphanum = true ∨ letter = '-' := by
  have letters : Text.inRanges asciiLetter.ranges letter.toNat = letter.isAlpha := by
    rw [← contains_asciiLetter, asciiLetter, CharSet.contains_inside]
  have digits : Text.inRanges [('0'.toNat, '9'.toNat)] letter.toNat = letter.isDigit := by
    rw [← contains_digit, digit, CharSet.range, CharSet.contains_inside]
  have hyphen : Text.inRanges (CharSet.rangesOf ['-']) letter.toNat = true ↔ letter = '-' := by
    rw [CharSet.inRanges_rangesOf_iff, List.mem_singleton]
  have shape : labelLetter.ranges =
      asciiLetter.ranges ++ (CharSet.rangesOf ['-'] ++ [('0'.toNat, '9'.toNat)]) := rfl
  rw [show labelLetter = ⟨labelLetter.ranges, false⟩ from rfl, CharSet.contains_inside, shape,
    CharSet.inRanges_append, CharSet.inRanges_append, letters, digits, Char.isAlphanum]
  simp only [Bool.or_eq_true, hyphen]
  tauto

end Letters

variable {text : List Char}

/-! ### The local part -/

theorem mem_atom_iff : text ∈ (oneOrMore (one atomLetter)).language ↔ IsAtom text := by
  rw [mem_run_iff]
  simp only [contains_atomLetter_iff]
  rfl

theorem mem_plainLocal_iff : text ∈ plainLocal.language ↔ IsPlainLocal text := by
  have free : ∀ part ∈ (oneOrMore (one atomLetter)).language, '.' ∉ part := by
    intro part inside point
    exact ((mem_atom_iff.1 inside).2 '.' point).1 (by decide)
  rw [plainLocal, mem_row_iff free]
  exact forall₂_congr fun piece _ => mem_atom_iff

theorem mem_quotedLocal_iff : text ∈ quotedLocal.language ↔ IsQuotedLocal text := by
  have lineRun (inner : List Char) : inner ∈ (oneOrMore (one lineLetter)).language ↔
      inner ≠ [] ∧ '\n' ∉ inner := by
    rw [mem_run_iff]
    simp only [contains_lineLetter_iff, ne_eq, List.forall_mem_ne']
  rw [quotedLocal, Pattern.sequence, List.foldr_cons, mem_seq_letter_iff]
  constructor
  · rintro ⟨_, ⟨inner, inRun, rest, inRest, rfl⟩, rfl⟩
    obtain ⟨something, oneLine⟩ := (lineRun inner).1 inRun
    rw [mem_letter_iff.1 (mem_seq_done_iff.1 inRest)]
    exact ⟨inner, something, oneLine, rfl⟩
  · rintro ⟨inner, something, oneLine, rfl⟩
    exact ⟨_, ⟨inner, (lineRun inner).2 ⟨something, oneLine⟩, ['"'],
      mem_seq_done_iff.2 (mem_letter_iff.2 rfl), rfl⟩, rfl⟩

/-! ### The domain -/

theorem mem_octet_iff : text ∈ octet.language ↔ IsOctet text := by
  simp only [octet, mem_seq_one_iff, mem_optional_iff, mem_one_iff, contains_digit]
  constructor
  · rintro ⟨a, isDigit, _, ⟨b, isDigit', _, ⟨c, isDigit'', rfl⟩ | rfl, rfl⟩ | rfl, rfl⟩ <;>
      simp_all [IsOctet]
  · rintro ⟨nonempty, short, digits⟩
    match text, nonempty, short, digits with
    | [a], _, _, digits => exact ⟨a, digits a (by simp), [], Or.inr rfl, rfl⟩
    | [a, b], _, _, digits =>
      exact ⟨a, digits a (by simp), [b], Or.inl ⟨b, digits b (by simp), [], Or.inr rfl, rfl⟩, rfl⟩
    | [a, b, c], _, _, digits =>
      exact ⟨a, digits a (by simp), [b, c], Or.inl ⟨b, digits b (by simp), [c],
        Or.inl ⟨c, digits c (by simp), rfl⟩, rfl⟩, rfl⟩

/-- One octet more than the number, with points between them, and the closing bracket. -/
def octetsToBracket : Nat → Pattern
  | 0 => Pattern.sequence [octet, letter ']']
  | count + 1 => seq octet (seq (letter '.') (octetsToBracket count))

/-- Every octet but the last one is followed by a point and a shorter row. -/
theorem mem_octetsToBracket_iff {count : Nat} :
    text ∈ (octetsToBracket count).language ↔
      ∃ octets : List (List Char), octets.length = count + 1 ∧
        (∀ octet ∈ octets, IsOctet octet) ∧ ['.'].intercalate octets ++ [']'] = text := by
  induction count generalizing text with
  | zero =>
    rw [octetsToBracket, Pattern.sequence, List.foldr_cons, mem_seq_iff]
    constructor
    · rintro ⟨run, isOctet, rest, inRest, rfl⟩
      rw [mem_letter_iff.1 (mem_seq_done_iff.1 inRest)]
      exact ⟨[run], rfl, List.forall_mem_singleton.2 (mem_octet_iff.1 isOctet), by simp⟩
    · rintro ⟨octets, single, isOctet, rfl⟩
      obtain ⟨run, rfl⟩ := List.length_eq_one_iff.1 single
      exact ⟨run, mem_octet_iff.2 (List.forall_mem_singleton.1 isOctet), [']'],
        mem_seq_done_iff.2 (mem_letter_iff.2 rfl), by simp⟩
  | succ count ih =>
    rw [octetsToBracket, mem_seq_iff]
    simp only [mem_seq_letter_iff, ih]
    constructor
    · rintro ⟨run, isOctet, _, ⟨_, ⟨octets, size, areOctets, rfl⟩, rfl⟩, rfl⟩
      obtain ⟨next, others, rfl⟩ := List.exists_cons_of_length_eq_add_one size
      exact ⟨run :: next :: others, by rw [List.length_cons, size],
        List.forall_mem_cons.2 ⟨mem_octet_iff.1 isOctet, areOctets⟩,
        by simp [List.intercalate_cons_cons]⟩
    · rintro ⟨octets, size, areOctets, rfl⟩
      obtain ⟨run, rest, rfl⟩ := List.exists_cons_of_length_eq_add_one size
      obtain ⟨isOctet, areOctets⟩ := List.forall_mem_cons.1 areOctets
      have size : rest.length = count + 1 := Nat.succ.inj size
      obtain ⟨next, others, rfl⟩ := List.exists_cons_of_length_eq_add_one size
      exact ⟨run, mem_octet_iff.2 isOctet, _, ⟨_, ⟨next :: others, size, areOctets, rfl⟩, rfl⟩,
        by simp [List.intercalate_cons_cons]⟩

theorem mem_numericDomain_iff : text ∈ numericDomain.language ↔ IsNumericDomain text := by
  rw [show numericDomain = seq (letter '[') (octetsToBracket 3) from rfl, mem_seq_letter_iff]
  simp only [mem_octetsToBracket_iff]
  constructor
  · rintro ⟨_, ⟨octets, four, areOctets, rfl⟩, rfl⟩
    exact ⟨octets, four, areOctets, rfl⟩
  · rintro ⟨octets, four, areOctets, rfl⟩
    exact ⟨_, ⟨octets, four, areOctets, rfl⟩, rfl⟩

theorem mem_label_iff : text ∈ (oneOrMore (one labelLetter)).language ↔ IsLabel text := by
  rw [mem_run_iff]
  simp only [contains_labelLetter_iff]
  rfl

theorem mem_ending_iff :
    text ∈ (Pattern.sequence [one asciiLetter, oneOrMore (one asciiLetter)]).language ↔
      2 ≤ text.length ∧ ∀ letter ∈ text, letter.isAlpha = true := by
  rw [Pattern.sequence, List.foldr_cons, mem_seq_one_iff]
  simp only [List.foldr_cons, List.foldr_nil, mem_seq_done_iff, mem_run_iff, contains_asciiLetter]
  constructor
  · rintro ⟨letter, isLetter, rest, ⟨something, areLetters⟩, rfl⟩
    exact ⟨Nat.succ_le_succ (List.length_pos_iff.2 something),
      List.forall_mem_cons.2 ⟨isLetter, areLetters⟩⟩
  · rintro ⟨long, areLetters⟩
    match text, long, areLetters with
    | letter :: next :: others, _, areLetters =>
      obtain ⟨isLetter, areLetters⟩ := List.forall_mem_cons.1 areLetters
      exact ⟨letter, isLetter, next :: others, ⟨List.cons_ne_nil next others, areLetters⟩, rfl⟩

theorem mem_namedDomain_iff : text ∈ namedDomain.language ↔ IsNamedDomain text := by
  have free : ∀ part ∈ (oneOrMore (one labelLetter)).language, '.' ∉ part := by
    intro part inside point
    exact absurd ((mem_label_iff.1 inside).2 '.' point) (by decide)
  have labels (row : List Char) : IsRow (oneOrMore (one labelLetter)) '.' row ↔
      ∀ label ∈ Text.pieces '.' row, IsLabel label :=
    forall₂_congr fun _ _ => mem_label_iff
  rw [show namedDomain = seq (oneOrMore (seq (oneOrMore (one labelLetter)) (letter '.')))
    (Pattern.sequence [one asciiLetter, oneOrMore (one asciiLetter)]) from rfl, mem_seq_iff]
  simp only [mem_closedRow_iff free, labels, mem_ending_iff]
  constructor
  · rintro ⟨_, ⟨row, isRow, rfl⟩, ending, ⟨long, areLetters⟩, rfl⟩
    have noPoint : '.' ∉ ending := fun point => absurd (areLetters '.' point) (by decide)
    exact ⟨row, ending, Text.splitLast_eq_some_iff.2 ⟨by simp, noPoint⟩, isRow, long, areLetters⟩
  · rintro ⟨row, ending, cut, isRow, long, areLetters⟩
    obtain ⟨rfl, _⟩ := Text.splitLast_eq_some_iff.1 cut
    exact ⟨_, ⟨row, isRow, rfl⟩, ending, ⟨long, areLetters⟩, by simp⟩

/-! ### Addresses -/

theorem IsNumericDomain.not_mem_at (isDomain : IsNumericDomain text) : '@' ∉ text := by
  obtain ⟨octets, _, areOctets, rfl⟩ := isDomain
  have noAt : '@' ∉ ['.'].intercalate octets := by
    intro member
    rcases Text.eq_or_exists_mem_of_mem_intercalate member with same | ⟨octet, known, inOctet⟩
    · exact absurd same (by decide)
    · exact absurd ((areOctets octet known).2.2 '@' inOctet) (by decide)
  simp [noAt]

theorem IsNamedDomain.not_mem_at (isDomain : IsNamedDomain text) : '@' ∉ text := by
  obtain ⟨labels, ending, cut, areLabels, _, areLetters⟩ := isDomain
  obtain ⟨rfl, _⟩ := Text.splitLast_eq_some_iff.1 cut
  have noAt : '@' ∉ labels := by
    intro member
    rw [← Text.intercalate_pieces '.' labels] at member
    rcases Text.eq_or_exists_mem_of_mem_intercalate member with same | ⟨label, known, inLabel⟩
    · exact absurd same (by decide)
    · exact absurd ((areLabels label known).2 '@' inLabel) (by decide)
  have noAtBehind : '@' ∉ ending := fun member => absurd (areLetters '@' member) (by decide)
  simp [noAt, noAtBehind]

/-- The last character of an address is a bracket or a letter. -/
theorem IsAddress.getLast?_ne (isAddress : IsAddress text) : text.getLast? ≠ some '\n' := by
  obtain ⟨front, domain, cut, _, isDomain⟩ := isAddress
  obtain ⟨rfl, _⟩ := Text.splitLast_eq_some_iff.1 cut
  rcases isDomain with ⟨octets, _, _, rfl⟩ | ⟨labels, ending, cut, _, long, areLetters⟩
  · simp [List.getLast?_append, List.getLast?_cons]
  · obtain ⟨rfl, _⟩ := Text.splitLast_eq_some_iff.1 cut
    rcases List.eq_nil_or_concat ending with rfl | ⟨rest, last, rfl⟩
    · exact absurd long (by decide)
    · have isLetter : last.isAlpha = true := areLetters last (by simp)
      intro feed
      have isFeed : last = '\n' := by simpa [List.getLast?_append, List.getLast?_cons] using feed
      exact absurd (isFeed ▸ isLetter) (by decide)

/-- **The pattern of addresses describes the grammar.** -/
theorem mem_address_iff : text ∈ address.language ↔ IsAddress text := by
  rw [address, Pattern.sequence, List.foldr_cons, mem_seq_iff]
  simp only [List.foldr_cons, List.foldr_nil, mem_seq_letter_iff, mem_seq_done_iff,
    mem_either_iff, mem_plainLocal_iff, mem_quotedLocal_iff, mem_numericDomain_iff,
    mem_namedDomain_iff]
  constructor
  · rintro ⟨front, isLocal, _, ⟨domain, isDomain, rfl⟩, rfl⟩
    have noAt : '@' ∉ domain :=
      isDomain.elim IsNumericDomain.not_mem_at IsNamedDomain.not_mem_at
    exact ⟨front, domain, Text.splitLast_append_cons noAt front, isLocal, isDomain⟩
  · rintro ⟨front, domain, cut, isLocal, isDomain⟩
    obtain ⟨rfl, _⟩ := Text.splitLast_eq_some_iff.1 cut
    exact ⟨front, isLocal, _, ⟨domain, isDomain, rfl⟩, rfl⟩

theorem isEmail_iff (text : String) : isEmail text = true ↔ IsAddress text.toList :=
  accepts_iff.trans mem_address_iff

end Email

/-! ### The check -/

theorem Decimal.not_mem_at_digitsOf (number : Nat) : '@' ∉ digitsOf number := by
  intro member
  have digit : ('@').isDigit = true := Nat.isDigit_of_mem_toDigits (by decide) (by decide) member
  exact absurd digit (by decide)

theorem Decimal.Scaled.not_mem_at_positional (number : Scaled) : '@' ∉ number.positional := by
  rw [positional]
  split
  · exact not_mem_at_digitsOf _
  · simp [not_mem_at_digitsOf, List.leftpad, List.mem_replicate]

theorem Binary64.not_mem_at_text (number : Binary64) : '@' ∉ number.text.toList := by
  have noAt (negative : Bool) : '@' ∉ (text.sign negative).toList := by
    cases negative <;> decide
  cases number with
  | nan => decide
  | infinite negative => simp [text, noAt]
  | finite negative magnitude =>
    simp [text, noAt, Decimal.Scaled.not_mem_at_positional]

/-- Only a text is shown as an address. -/
theorem Value.exists_text_of_isEmail {value : Value} (accepted : isEmail value.display = true) :
    ∃ content, value = .text content := by
  have hasAt : '@' ∈ value.display.toList := by
    obtain ⟨front, domain, cut, _⟩ := (Email.isEmail_iff _).1 accepted
    obtain ⟨shape, _⟩ := Text.splitLast_eq_some_iff.1 cut
    rw [shape]
    exact List.mem_append_right front List.mem_cons_self
  cases value with
  | bool truth => cases truth <;> exact absurd hasAt (by decide)
  | number amount => exact absurd hasAt amount.not_mem_at_text
  | text content => exact ⟨content, rfl⟩
  | null => exact absurd hasAt (by decide)

theorem isEmail_display_iff (value : Value) :
    isEmail value.display = true ↔
      ∃ content, value = .text content ∧ Email.IsAddress content.toList := by
  constructor
  · intro accepted
    obtain ⟨content, rfl⟩ := Value.exists_text_of_isEmail accepted
    exact ⟨content, rfl, (Email.isEmail_iff content).1 accepted⟩
  · rintro ⟨content, rfl, isAddress⟩
    exact (Email.isEmail_iff content).2 isAddress

/-- The check fails exactly for the present values that are not a text with an address. -/
theorem validEmail_check (input : CheckInput) : ∃ failed : Bool,
    Rule.validEmail.check input = .ok (input.failIf failed) ∧
      (failed = true ↔ input.value.isPresent = true ∧
        ¬ ∃ content, input.value = .text content ∧ Email.IsAddress content.toList) := by
  refine ⟨_, rfl, ?_⟩
  rw [Bool.and_eq_true, Bool.not_eq_true', ← Bool.not_eq_true, isEmail_display_iff]

theorem validEmail_check_of_no_text {input : CheckInput} (present : input.value.isPresent = true)
    (noText : ∀ content, input.value ≠ .text content) :
    Rule.validEmail.check input = .ok (some input.fail) := by
  obtain ⟨failed, checked, fails⟩ := validEmail_check input
  have failed : failed = true :=
    fails.2 ⟨present, fun ⟨content, isText, _⟩ => noText content isText⟩
  rw [checked, failed]
  rfl

/-- **E-mail addresses are exactly what their grammar describes**, as a whole and without a line
feed at the end. The check fails for the present values that are not a text of this kind, so for
numbers and for `true`. -/
theorem isEmail_grammar :
    (∀ text : String, isEmail text = true ↔ Email.IsAddress text.toList) ∧
    (∀ text : String, isEmail (text ++ "\n") = false) ∧
    (∀ input : CheckInput, ∃ failed : Bool,
      Rule.validEmail.check input = .ok (input.failIf failed) ∧
        (failed = true ↔ input.value.isPresent = true ∧
          ¬ ∃ content, input.value = .text content ∧ Email.IsAddress content.toList)) ∧
    (∀ (input : CheckInput) (amount : Binary64), input.value = .number amount →
      input.value.isPresent = true → Rule.validEmail.check input = .ok (some input.fail)) ∧
    ∀ input : CheckInput, input.value = .bool true →
      Rule.validEmail.check input = .ok (some input.fail) := by
  refine ⟨Email.isEmail_iff, fun text => ?_, validEmail_check, fun input amount isNumber present =>
    validEmail_check_of_no_text present fun content isText => ?_, fun input isTrue =>
    validEmail_check_of_no_text (by rw [isTrue]; rfl) fun content isText => ?_⟩
  · rw [Bool.eq_false_iff, ne_eq, Email.isEmail_iff, String.toList_append]
    intro isAddress
    exact isAddress.getLast?_ne List.getLast?_concat
  · cases isNumber.symm.trans isText
  · cases isTrue.symm.trans isText

/-- At signs and blanks may stand between quotes; forty-two is not an address. -/
theorem isEmail_grammar_number :
    let input : CheckInput :=
      ⟨"validEmail", "mail", .number (.ofNat 42), none, "Mail", "#fieldLabel#?"⟩
    let truth : CheckInput := { input with value := .bool true }
    Email.IsAddress "\"a@b c\"@d.ef".toList ∧
    input.value = .number (.ofNat 42) ∧ input.value.isPresent = true ∧
    Rule.validEmail.check input = .ok (some input.fail) ∧
    truth.value = .bool true ∧ Rule.validEmail.check truth = .ok (some truth.fail) := by
  intro input truth
  obtain ⟨grammar, _, _, numbers, truths⟩ := isEmail_grammar
  have present : input.value.isPresent = true := by decide +kernel
  exact ⟨(grammar "\"a@b c\"@d.ef").1 (by decide), rfl, present,
    numbers input (.ofNat 42) rfl present, rfl, truths truth rfl⟩

end FormRules
