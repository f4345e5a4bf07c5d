/-
**Strings and numbers of JSON read back.**

* `escape_cases`: the three ways in which a character is written inside a string;
* `exists_readString?_stringText`: a written string reads back, whatever follows its closing quote;
* `Numeral` are the literals that JSON can write, and `readNumber?_numberText`: such a literal reads
  back if what follows does not continue it (`EndsNumber`).
-/

import FormRules.Json.Reader
import FormRules.Json.Writer
import FormRules.Proofs.Decimal.Grammar

namespace FormRules

namespace Json

/-! ### Strings -/

theorem ofHex?_control {letter : Char} (control : letter.toNat < 0x20) :
    Letter.ofHex? '0' '0' (Text.hexDigit (letter.toNat / 16)) (Text.hexDigit (letter.toNat % 16)) =
      some (.char letter) := by
  have high := Text.hexValue?_hexDigit ⟨letter.toNat / 16, by omega⟩
  have low := Text.hexValue?_hexDigit ⟨letter.toNat % 16, by omega⟩
  have zero : Text.hexValue? '0' = some 0 := by decide
  have whole : letter.toNat / 16 * 16 + letter.toNat % 16 = letter.toNat := by omega
  have noSurrogate : ¬ (0xD800 ≤ letter.toNat ∧ letter.toNat ≤ 0xDFFF) := by omega
  simp only at high low
  simp [Letter.ofHex?, zero, high, low, whole, noSurrogate]

/-- A character is escaped by a letter, by its number, or not at all. Seven characters have a
letter, though most of them are control characters too. -/
theorem escape_cases (letter : Char) :
    (∃ escaped, shortEscape? escaped = some letter ∧ escape letter = ['\\', escaped]) ∨
    (letter.toNat < 0x20 ∧ escape letter = ['\\', 'u', '0', '0',
      Text.hexDigit (letter.toNat / 16), Text.hexDigit (letter.toNat % 16)]) ∨
    (letter ≠ '"' ∧ letter ≠ '\\' ∧ 0x20 ≤ letter.toNat ∧ escape letter = [letter]) := by
  by_cases named : letter ∈ ['"', '\\', '\x08', '\t', '\n', '\x0c', '\r']
  · refine Or.inl ?_
    simp only [List.mem_cons, List.not_mem_nil, or_false] at named
    obtain rfl | rfl | rfl | rfl | rfl | rfl | rfl := named
    · exact ⟨'"', rfl, rfl⟩
    · exact ⟨'\\', rfl, rfl⟩
    · exact ⟨'b', rfl, rfl⟩
    · exact ⟨'t', rfl, rfl⟩
    · exact ⟨'n', rfl, rfl⟩
    · exact ⟨'f', rfl, rfl⟩
    · exact ⟨'r', rfl, rfl⟩
  · simp only [List.mem_cons, List.not_mem_nil, or_false, not_or] at named
    obtain ⟨noQuote, noBackslash, _⟩ := named
    by_cases control : letter.toNat < 0x20
    · exact Or.inr (Or.inl ⟨control, by simp_all [escape]⟩)
    · exact Or.inr (Or.inr ⟨noQuote, noBackslash, by omega, by simp_all [escape]⟩)

theorem readLetters?_of_shortEscape? {escaped letter : Char}
    (known : shortEscape? escaped = some letter) (rest : List Char) :
    readLetters? ('\\' :: escaped :: rest) =
      (readLetters? rest).map fun (letters, left) => (.char letter :: letters, left) := by
  have noNumber : escaped ≠ 'u' := by
    rintro rfl
    cases known
  rw [readLetters?, known]
  · cases readLetters? rest <;> rfl
  · intro first second third fourth others same _
    exact noNumber same

theorem readLetters?_of_control {letter : Char} (control : letter.toNat < 0x20)
    (rest : List Char) :
    readLetters? ('\\' :: 'u' :: '0' :: '0' :: Text.hexDigit (letter.toNat / 16) ::
        Text.hexDigit (letter.toNat % 16) :: rest) =
      (readLetters? rest).map fun (letters, left) => (.char letter :: letters, left) := by
  rw [readLetters?, ofHex?_control control]
  cases readLetters? rest <;> rfl

theorem readLetters?_of_plain {letter : Char} (noQuote : letter ≠ '"')
    (noBackslash : letter ≠ '\\') (visible : 0x20 ≤ letter.toNat) (rest : List Char) :
    readLetters? (letter :: rest) =
      (readLetters? rest).map fun (letters, left) => (.char letter :: letters, left) := by
  have allowed : ¬ (letter.toNat < 0x20 ∨ letter = '\\') := by
    rintro (control | backslash)
    · omega
    · exact noBackslash backslash
  rw [readLetters?, if_neg allowed]
  · cases readLetters? rest <;> rfl
  · exact noQuote
  · intro first second third fourth others same _
    exact noBackslash same
  · intro escaped others same _
    exact noBackslash same

/-- However a character is written, it is read as one letter. -/
theorem readLetters?_escape_append (letter : Char) (rest : List Char) :
    readLetters? (escape letter ++ rest) =
      (readLetters? rest).map fun (letters, left) => (.char letter :: letters, left) := by
  obtain ⟨escaped, known, written⟩ | ⟨control, written⟩ |
    ⟨noQuote, noBackslash, visible, written⟩ := escape_cases letter
  · rw [written]
    exact readLetters?_of_shortEscape? known rest
  · rw [written]
    exact readLetters?_of_control control rest
  · rw [written]
    exact readLetters?_of_plain noQuote noBackslash visible rest

/-- The characters of a string are read up to its closing quote. -/
theorem readLetters?_flatMap_escape (text rest : List Char) :
    readLetters? (text.flatMap escape ++ '"' :: rest) = some (text.map .char, rest) := by
  induction text with
  | nil => rfl
  | cons letter others ih =>
    rw [List.flatMap_cons, List.append_assoc, readLetters?_escape_append, ih]
    rfl

theorem charsOf?_map_char (text : List Char) : charsOf? (text.map .char) = some text := by
  induction text with
  | nil => rfl
  | cons letter others ih =>
    rw [List.map_cons, charsOf?, ih]
    rfl

/-- **A written string reads back**, whatever follows it. What is no text is written as half of a
surrogate pair, which no text can hold. -/
theorem exists_readString?_stringText (content : Option String) :
    ∃ body, stringText content = '"' :: body ∧
      ∀ rest, readString? (body ++ rest) = some (content, rest) := by
  cases content with
  | none =>
    refine ⟨['\\', 'u', 'd', '8', '0', '0', '"'], by decide, fun rest => ?_⟩
    have half : Letter.ofHex? 'd' '8' '0' '0' = some (.surrogate 0xD800) := by decide
    simp only [List.cons_append, List.nil_append, readString?, readLetters?, half]
    rfl
  | some text =>
    refine ⟨text.toList.flatMap escape ++ ['"'], rfl, fun rest => ?_⟩
    rw [List.append_assoc, List.singleton_append, readString?, readLetters?_flatMap_escape]
    show some ((charsOf? (text.toList.map .char)).map String.ofList, rest) = _
    rw [charsOf?_map_char, Option.map_some, String.ofList_toList]

/-! ### Numbers -/

open Decimal (Literal isDigit)

/-- A literal that JSON can write: it has digits before its point, without a leading zero. -/
structure Numeral (literal : Literal) : Prop where
  whole_ne_nil : literal.whole ≠ []
  isDigit_whole : ∀ letter ∈ literal.whole, isDigit letter = true
  noLeadingZero : literal.whole.head? = some '0' → literal.whole.length = 1
  isDigit_fraction : ∀ letter ∈ literal.fraction, isDigit letter = true

/-- What may follow a number without continuing it. -/
def EndsNumber (rest : List Char) : Prop :=
  ∀ letter ∈ rest.head?, isDigit letter = false ∧ letter ≠ '.' ∧ letter ≠ 'e' ∧ letter ≠ 'E'

def fractionText (literal : Literal) : List Char :=
  if literal.fraction = [] then [] else '.' :: literal.fraction

def exponentText (literal : Literal) : List Char :=
  if literal.exponent = 0 then []
  else 'e' :: (if literal.exponent < 0 then ['-'] else []) ++
    Decimal.digitsOf literal.exponent.natAbs

section Number

variable (literal : Literal) {rest : List Char}

/-- A part of a number ends where the next part starts. -/
theorem head?_exponentText_append (ends : EndsNumber rest) :
    ∀ letter ∈ (exponentText literal ++ rest).head?, isDigit letter = false ∧ letter ≠ '.' := by
  intro letter first
  rw [exponentText] at first
  split at first
  · exact ⟨(ends letter first).1, (ends letter first).2.1⟩
  · obtain rfl : 'e' = letter := Option.some.inj first
    exact ⟨by decide, by decide⟩

theorem head?_fractionText_append (ends : ∀ letter ∈ rest.head?, isDigit letter = false) :
    ∀ letter ∈ (fractionText literal ++ rest).head?, isDigit letter = false := by
  intro letter first
  rw [fractionText] at first
  split at first
  · exact ends letter first
  · obtain rfl : '.' = letter := Option.some.inj first
    decide

theorem readExponent?_exponentText (ends : EndsNumber rest) :
    readExponent? (exponentText literal ++ rest) = some (literal.exponent, rest) := by
  rw [exponentText]
  by_cases zero : literal.exponent = 0
  · rw [if_pos zero, zero]
    cases rest with
    | nil => rfl
    | cons letter others =>
      have noMark : ¬ (letter = 'e' ∨ letter = 'E') := not_or.2 (ends letter rfl).2.2
      rw [List.nil_append, readExponent?, if_neg noMark]
  · have digits : ∀ letter ∈ Decimal.digitsOf literal.exponent.natAbs, isDigit letter = true :=
      fun _ member => Decimal.isDigit_of_mem_digitsOf member
    have something : Decimal.digitsOf literal.exponent.natAbs ≠ [] := Nat.toDigits_ne_nil
    have run := Literal.readDigits_append digits fun letter first => (ends letter first).1
    rw [if_neg zero]
    generalize sized : literal.exponent.natAbs = size at digits something run
    by_cases negative : literal.exponent < 0
    · have value : -(size : Int) = literal.exponent := by omega
      rw [if_pos negative]
      simp [readExponent?, Literal.readSign, run, Decimal.numberOf_digitsOf, something, value]
    · have value : (size : Int) = literal.exponent := by omega
      have sign := Literal.readSign_of_digits something digits rest
      rw [if_neg negative]
      simp [readExponent?, sign, run, Decimal.numberOf_digitsOf, something, value]

theorem readFraction?_fractionText {literal : Literal}
    (digits : ∀ letter ∈ literal.fraction, isDigit letter = true)
    (ends : ∀ letter ∈ rest.head?, isDigit letter = false ∧ letter ≠ '.') :
    readFraction? (fractionText literal ++ rest) = some (literal.fraction, rest) := by
  rw [fractionText]
  by_cases nothing : literal.fraction = []
  · rw [if_pos nothing, nothing]
    cases rest with
    | nil => rfl
    | cons letter others =>
      rw [List.nil_append, readFraction?]
      rintro _ ⟨⟩
      exact (ends '.' rfl).2 rfl
  · rw [if_neg nothing, List.cons_append, readFraction?,
      Literal.readDigits_append digits fun letter first => (ends letter first).1]
    exact if_neg nothing

theorem readMinus_append (negative : Bool) {digits : List Char} (something : digits ≠ [])
    (all : ∀ letter ∈ digits, isDigit letter = true) (rest : List Char) :
    readMinus ((if negative then ['-'] else []) ++ (digits ++ rest)) =
      (negative, digits ++ rest) := by
  cases negative with
  | true => rfl
  | false =>
    obtain ⟨digit, others, rfl⟩ := List.exists_cons_of_ne_nil something
    have first : isDigit digit = true := all digit List.mem_cons_self
    rw [if_neg Bool.false_ne_true, List.nil_append, List.cons_append, readMinus]
    rintro _ ⟨⟩
    cases first

/-- **A written number reads back** if what follows does not continue it. -/
theorem readNumber?_numberText {literal : Literal} (numeral : Numeral literal)
    (ends : EndsNumber rest) :
    readNumber? (numberText literal ++ rest) = some (literal, rest) := by
  have power := readExponent?_exponentText literal ends
  have endsFraction := head?_exponentText_append literal ends
  have fraction := readFraction?_fractionText numeral.isDigit_fraction endsFraction
  have endsWhole := head?_fractionText_append literal fun letter first =>
    (endsFraction letter first).1
  have whole := Literal.readDigits_append numeral.isDigit_whole endsWhole
  have sign := readMinus_append literal.negative numeral.whole_ne_nil numeral.isDigit_whole
    (fractionText literal ++ (exponentText literal ++ rest))
  have allowed : ¬ (literal.whole = [] ∨
      (literal.whole.head? = some '0' ∧ literal.whole.length ≠ 1)) := by
    rintro (nothing | ⟨zero, longer⟩)
    · exact numeral.whole_ne_nil nothing
    · exact longer (numeral.noLeadingZero zero)
  have parts : numberText literal ++ rest = (if literal.negative then ['-'] else []) ++
      (literal.whole ++ (fractionText literal ++ (exponentText literal ++ rest))) := by
    simp only [numberText, fractionText, exponentText, List.append_assoc]
  rw [parts, readNumber?, sign]
  simp only [whole, if_neg allowed, fraction, Option.bind_eq_bind, Option.bind_some, power]
  rfl

end Number

end Json

end FormRules
