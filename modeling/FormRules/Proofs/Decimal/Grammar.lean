/-
**The grammar of decimal literals.**

A literal is a sign that may be missing, digits with a point that may be missing, and a power of ten
that may be missing: `[+-]? (D+ | D+ . D* | D* . D+) ([eE] [+-]? D+)?`.

* `numberOf_append`, `numberOf_lt`: the number of a run of digits by its parts and by its length;
* `Literal.Spells` is the grammar, with a constructor for each form of each part;
* `Literal.read?_eq_some_iff`: reading finds exactly the literals that a text spells;
* `Literal.Spells.isLetter`: no other characters than digits, signs, points and marks of powers.
-/

import FormRules.Decimal.Literal
import FormRules.Text.Blank
import Mathlib.Data.List.Induction
import Mathlib.Data.List.TakeWhile
import Mathlib.Tactic.Ring

namespace FormRules.Decimal

/-! ### Runs of digits -/

/-- A text of digits only. -/
def IsRun (text : List Char) : Prop :=
  ∀ letter ∈ text, isDigit letter = true

theorem isDigit_of_mem_digitsOf {number : Nat} {letter : Char}
    (member : letter ∈ digitsOf number) : isDigit letter = true := by
  have digit : letter.isDigit = true := Nat.isDigit_of_mem_toDigits (by decide) (by decide) member
  simpa [isDigit, Char.isDigit, Char.le_def] using digit

theorem numberOf_digitsOf (number : Nat) : numberOf (digitsOf number) = number := by
  have folded : numberOf (digitsOf number) = Nat.ofDigitChars 10 (digitsOf number) 0 := by
    rw [Nat.ofDigitChars_eq_foldl]
    rfl
  rw [folded, digitsOf, Nat.ofDigitChars_ten_toDigits]

theorem digitValue_lt_ten {digit : Char} (isDigit : isDigit digit = true) :
    digitValue digit < 10 := by
  rw [Decimal.isDigit, Bool.and_eq_true, decide_eq_true_eq, decide_eq_true_eq] at isDigit
  have atMostNine : digit.toNat ≤ '9'.toNat := UInt32.le_iff_toNat_le.1 isDigit.2
  have zero : '0'.toNat = 48 := rfl
  have nine : '9'.toNat = 57 := rfl
  rw [digitValue]
  omega

theorem isBlank_of_isDigit {letter : Char} (digit : isDigit letter = true) :
    Text.isBlank letter = false := by
  rw [isDigit, Bool.and_eq_true, decide_eq_true_eq, decide_eq_true_eq] at digit
  have atLeast : 48 ≤ letter.toNat := UInt32.le_iff_toNat_le.1 digit.1
  have atMost : letter.toNat ≤ 57 := UInt32.le_iff_toNat_le.1 digit.2
  have apart : ∀ range ∈ Text.blankRanges, range.2 < 48 ∨ 57 < range.1 := by decide
  refine Bool.eq_false_iff.2 fun blank => ?_
  obtain ⟨range, known, inside⟩ := List.any_eq_true.1 blank
  rw [Bool.and_eq_true, decide_eq_true_eq, decide_eq_true_eq] at inside
  have := apart range known
  omega

/-- Digits that are put behind others move these by as many places. -/
theorem numberOf_append (front behind : List Char) :
    numberOf (front ++ behind) = numberOf front * 10 ^ behind.length + numberOf behind := by
  induction behind using List.reverseRecOn with
  | nil => simp
  | append_singleton others digit ih =>
    rw [← List.append_assoc, numberOf_append_digit, ih, numberOf_append_digit, List.length_append,
      List.length_singleton, pow_succ]
    ring

/-- A run denotes a number with at most as many digits. -/
theorem numberOf_lt {digits : List Char} (isRun : IsRun digits) :
    numberOf digits < 10 ^ digits.length := by
  induction digits using List.reverseRecOn with
  | nil => simp
  | append_singleton others digit ih =>
    have last := digitValue_lt_ten (isRun digit (by simp))
    have before := ih fun letter member => isRun letter (by simp [member])
    rw [numberOf_append_digit, List.length_append, List.length_singleton, pow_succ]
    omega

namespace Literal

variable {digits : List Char}

/-- A run of digits is read up to its end. -/
theorem readDigits_append {rest : List Char} (all : ∀ letter ∈ digits, isDigit letter = true)
    (ends : ∀ letter ∈ rest.head?, isDigit letter = false) :
    readDigits (digits ++ rest) = (digits, rest) := by
  have run : rest.takeWhile isDigit = [] ∧ rest.dropWhile isDigit = rest := by
    cases rest with
    | nil => exact ⟨rfl, rfl⟩
    | cons letter others =>
      have stops : isDigit letter = false := ends letter rfl
      simp [stops]
  rw [readDigits, List.takeWhile_append_of_pos all, List.dropWhile_append_of_pos all, run.1, run.2,
    List.append_nil]

theorem takeWhile_isDigit_append {rest : List Char} (isRun : IsRun digits)
    (ends : ∀ letter ∈ rest.head?, isDigit letter = false) :
    (digits ++ rest).takeWhile isDigit = digits :=
  congrArg Prod.fst (readDigits_append isRun ends)

/-- Without a sign at its start a text counts as positive. -/
theorem readSign_of_unsigned {text : List Char} (noMinus : text.head? ≠ some '-')
    (noPlus : text.head? ≠ some '+') : readSign text = (false, text) := by
  rw [readSign]
  · rintro rest rfl
    exact noMinus rfl
  · rintro rest rfl
    exact noPlus rfl

theorem readSign_of_digits (something : digits ≠ [])
    (all : ∀ letter ∈ digits, isDigit letter = true) (rest : List Char) :
    readSign (digits ++ rest) = (false, digits ++ rest) := by
  obtain ⟨digit, others, rfl⟩ := List.exists_cons_of_ne_nil something
  have first : isDigit digit = true := all digit List.mem_cons_self
  refine readSign_of_unsigned ?_ ?_ <;> rintro ⟨⟩ <;> cases first

/-! ### The grammar -/

/-- How a sign is written. -/
inductive IsSign : Bool → List Char → Prop
  | absent : IsSign false []
  | plus : IsSign false ['+']
  | minus : IsSign true ['-']

/-- How the digits before and after the point are written. -/
inductive IsMantissa : List Char → List Char → List Char → Prop
  | whole {whole : List Char} (something : whole ≠ []) (isRun : IsRun whole) :
      IsMantissa whole [] whole
  | wholePoint {whole fraction : List Char} (something : whole ≠ []) (isRun : IsRun whole)
      (isRunBehind : IsRun fraction) : IsMantissa whole fraction (whole ++ '.' :: fraction)
  | pointFraction {whole fraction : List Char} (isRun : IsRun whole) (something : fraction ≠ [])
      (isRunBehind : IsRun fraction) : IsMantissa whole fraction (whole ++ '.' :: fraction)

/-- How an integer is written: a run of digits behind a sign that may be missing. -/
inductive IsInteger : Int → List Char → Prop
  | intro {negative : Bool} {sign digits : List Char} (isSign : IsSign negative sign)
      (something : digits ≠ []) (isRun : IsRun digits) :
      IsInteger (if negative then -(numberOf digits : Int) else numberOf digits) (sign ++ digits)

/-- How the power of ten is written. -/
inductive IsExponent : Int → List Char → Prop
  | absent : IsExponent 0 []
  | marked {mark : Char} {exponent : Int} {text : List Char} (isMark : mark = 'e' ∨ mark = 'E')
      (isInteger : IsInteger exponent text) : IsExponent exponent (mark :: text)

/-- **How a literal is written.** -/
inductive Spells : Literal → List Char → Prop
  | intro {negative : Bool} {whole fraction sign mantissa tail : List Char} {exponent : Int}
      (isSign : IsSign negative sign) (isMantissa : IsMantissa whole fraction mantissa)
      (isExponent : IsExponent exponent tail) :
      Spells ⟨negative, whole, fraction, exponent⟩ (sign ++ (mantissa ++ tail))

variable {negative : Bool} {whole fraction sign mantissa tail text : List Char} {exponent : Int}
  {literal : Literal}

/-! ### Signs -/

theorem IsSign.readSign_append {rest : List Char} (isSign : IsSign negative sign)
    (unsigned : readSign rest = (false, rest)) : readSign (sign ++ rest) = (negative, rest) := by
  cases isSign with
  | absent => exact unsigned
  | plus => rfl
  | minus => rfl

theorem exists_isSign (text : List Char) :
    ∃ sign, IsSign (readSign text).1 sign ∧ text = sign ++ (readSign text).2 := by
  unfold readSign
  split
  · exact ⟨['-'], .minus, rfl⟩
  · exact ⟨['+'], .plus, rfl⟩
  · exact ⟨[], .absent, rfl⟩

/-! ### Powers of ten -/

theorem readInteger?_eq_some_iff : readInteger? text = some exponent ↔ IsInteger exponent text := by
  constructor
  · intro read
    obtain ⟨sign, isSign, shape⟩ := exists_isSign text
    simp only [readInteger?, Option.ite_none_right_eq_some, Option.some.injEq] at read
    obtain ⟨⟨something, all⟩, rfl⟩ := read
    have isInteger := IsInteger.intro isSign something (List.all_eq_true.1 all)
    rwa [← shape] at isInteger
  · rintro ⟨isSign, something, isRun⟩
    have unsigned := readSign_of_digits something isRun []
    rw [List.append_nil] at unsigned
    rw [readInteger?, isSign.readSign_append unsigned]
    exact if_pos ⟨something, List.all_eq_true.2 isRun⟩

theorem readExponent?_eq_some_iff :
    readExponent? text = some exponent ↔ IsExponent exponent text := by
  constructor
  · intro read
    cases text with
    | nil =>
      cases read
      exact .absent
    | cons mark rest =>
      rw [readExponent?, Option.ite_none_right_eq_some, readInteger?_eq_some_iff] at read
      exact .marked read.1 read.2
  · intro isExponent
    cases isExponent with
    | absent => rfl
    | marked isMark isInteger =>
      rw [readExponent?, if_pos isMark, readInteger?_eq_some_iff]
      exact isInteger

/-- A power of ten continues neither the digits nor the point in front of it. -/
theorem IsExponent.head? {letter : Char} (isExponent : IsExponent exponent tail)
    (first : letter ∈ tail.head?) : isDigit letter = false ∧ letter ≠ '.' := by
  cases isExponent with
  | absent => cases first
  | marked isMark _ =>
    obtain rfl := Option.some.inj first
    rcases isMark with rfl | rfl <;> decide

/-! ### Digits and the point -/

theorem IsMantissa.ne_nil (isMantissa : IsMantissa whole fraction mantissa) :
    ¬ (whole = [] ∧ fraction = []) := by
  rintro ⟨rfl, rfl⟩
  cases isMantissa <;> contradiction

theorem IsMantissa.isRun (isMantissa : IsMantissa whole fraction mantissa) :
    IsRun (whole ++ fraction) := by
  rw [IsRun, List.forall_mem_append]
  cases isMantissa with
  | whole _ isRun => exact ⟨isRun, List.forall_mem_nil _⟩
  | wholePoint _ isRun isRunBehind => exact ⟨isRun, isRunBehind⟩
  | pointFraction isRun _ isRunBehind => exact ⟨isRun, isRunBehind⟩

theorem IsMantissa.readSign_append (isMantissa : IsMantissa whole fraction mantissa)
    (rest : List Char) : readSign (mantissa ++ rest) = (false, mantissa ++ rest) := by
  have behindPoint {front behind : List Char} (isRun : IsRun front) :
      readSign (front ++ '.' :: behind ++ rest) = (false, front ++ '.' :: behind ++ rest) := by
    cases front with
    | nil => rfl
    | cons digit others =>
      rw [List.append_assoc]
      exact readSign_of_digits (List.cons_ne_nil _ _) isRun _
  cases isMantissa with
  | whole something isRun => exact readSign_of_digits something isRun rest
  | wholePoint _ isRun _ => exact behindPoint isRun
  | pointFraction isRun _ _ => exact behindPoint isRun

/-- Digits with a point are read up to the power of ten. -/
theorem IsMantissa.read_append (isMantissa : IsMantissa whole fraction mantissa)
    (isExponent : IsExponent exponent tail) :
    (readDigits (mantissa ++ tail)).1 = whole ∧
      readFraction (readDigits (mantissa ++ tail)).2 = (fraction, tail) := by
  have ends : ∀ letter ∈ tail.head?, isDigit letter = false := fun _ first =>
    (isExponent.head? first).1
  have behindPoint {front behind : List Char} (isRun : IsRun front) (isRunBehind : IsRun behind) :
      (readDigits (front ++ '.' :: behind ++ tail)).1 = front ∧
        readFraction (readDigits (front ++ '.' :: behind ++ tail)).2 = (behind, tail) := by
    have point : ∀ letter ∈ ('.' :: (behind ++ tail)).head?, isDigit letter = false := by
      rintro letter ⟨⟩
      decide
    rw [List.append_assoc, List.cons_append, readDigits_append isRun point]
    exact ⟨rfl, readDigits_append isRunBehind ends⟩
  cases isMantissa with
  | whole _ isRun =>
    rw [readDigits_append isRun ends]
    refine ⟨rfl, ?_⟩
    cases isExponent with
    | absent => rfl
    | marked isMark _ => rcases isMark with rfl | rfl <;> rfl
  | wholePoint _ isRun isRunBehind => exact behindPoint isRun isRunBehind
  | pointFraction isRun _ isRunBehind => exact behindPoint isRun isRunBehind

/-- What is read as digits with a point is written so. -/
theorem exists_isMantissa {unsigned : List Char}
    (something : ¬ ((readDigits unsigned).1 = [] ∧
      (readFraction (readDigits unsigned).2).1 = [])) :
    ∃ mantissa,
      IsMantissa (readDigits unsigned).1 (readFraction (readDigits unsigned).2).1 mantissa ∧
      unsigned = mantissa ++ (readFraction (readDigits unsigned).2).2 := by
  obtain ⟨nothingLost, isRun⟩ := readDigits_spec unsigned
  generalize (readDigits unsigned).1 = whole, (readDigits unsigned).2 = afterWhole at *
  generalize read : readFraction afterWhole = parts at *
  obtain ⟨fraction, rest⟩ := parts
  unfold readFraction at read
  split at read
  · next behind =>
    obtain ⟨behindWhole, isRunBehind⟩ := readDigits_spec behind
    rw [read] at behindWhole isRunBehind
    refine ⟨whole ++ '.' :: fraction, ?_, by simp [← nothingLost, ← behindWhole]⟩
    by_cases empty : whole = []
    · exact .pointFraction isRun (fun alsoEmpty => something ⟨empty, alsoEmpty⟩) isRunBehind
    · exact .wholePoint empty isRun isRunBehind
  · obtain ⟨rfl, rfl⟩ := Prod.mk.inj read
    exact ⟨whole, .whole (fun empty => something ⟨empty, rfl⟩) isRun, nothingLost.symm⟩

/-! ### Literals -/

/-- **Reading finds exactly the literals that a text spells.** -/
theorem read?_eq_some_iff : read? text = some literal ↔ Spells literal text := by
  constructor
  · intro read
    simp only [read?, Option.ite_none_left_eq_some, Option.map_eq_some_iff] at read
    obtain ⟨something, exponent, isExponent, rfl⟩ := read
    obtain ⟨sign, isSign, signed⟩ := exists_isSign text
    obtain ⟨mantissa, isMantissa, unsigned⟩ := exists_isMantissa something
    have spelled := Spells.intro isSign isMantissa (readExponent?_eq_some_iff.1 isExponent)
    rwa [← unsigned, ← signed] at spelled
  · rintro ⟨isSign, isMantissa, isExponent⟩
    obtain ⟨wholeRead, fractionRead⟩ := isMantissa.read_append isExponent
    rw [read?, isSign.readSign_append (isMantissa.readSign_append _)]
    simp only [wholeRead, fractionRead, if_neg isMantissa.ne_nil,
      readExponent?_eq_some_iff.2 isExponent, Option.map_some]

/-- A text spells at most one literal. -/
theorem Spells.unique {other : Literal} (spelled : Spells literal text)
    (otherSpelled : Spells other text) : literal = other :=
  Option.some.inj ((read?_eq_some_iff.2 spelled).symm.trans (read?_eq_some_iff.2 otherSpelled))

theorem Spells.isRun (spelled : Spells literal text) :
    IsRun (literal.whole ++ literal.fraction) := by
  obtain ⟨_, isMantissa, _⟩ := spelled
  exact isMantissa.isRun

/-- The characters that literals are written with. -/
theorem Spells.isLetter (spelled : Spells literal text) : ∀ letter ∈ text,
    isDigit letter = true ∨ letter ∈ ['.', '-', '+', 'e', 'E'] := by
  have signLetter {negative : Bool} {sign : List Char} (isSign : IsSign negative sign) :
      ∀ letter ∈ sign, letter ∈ ['.', '-', '+', 'e', 'E'] := by
    intro letter member
    cases isSign with
    | absent => cases member
    | plus | minus =>
      rw [List.mem_singleton.1 member]
      decide
  have mantissaLetter {whole fraction mantissa : List Char}
      (isMantissa : IsMantissa whole fraction mantissa) : ∀ letter ∈ mantissa,
      isDigit letter = true ∨ letter ∈ ['.', '-', '+', 'e', 'E'] := by
    have isRun := isMantissa.isRun
    intro letter member
    cases isMantissa with
    | whole => exact Or.inl (isRun letter (List.mem_append_left _ member))
    | wholePoint | pointFraction =>
      rcases List.mem_append.1 member with inWhole | behind
      · exact Or.inl (isRun letter (List.mem_append_left _ inWhole))
      · rcases List.mem_cons.1 behind with rfl | inFraction
        · exact Or.inr (by decide)
        · exact Or.inl (isRun letter (List.mem_append_right _ inFraction))
  have tailLetter {exponent : Int} {tail : List Char} (isExponent : IsExponent exponent tail) :
      ∀ letter ∈ tail, isDigit letter = true ∨ letter ∈ ['.', '-', '+', 'e', 'E'] := by
    intro letter member
    cases isExponent with
    | absent => cases member
    | marked isMark isInteger =>
      obtain ⟨isSign, _, isRun⟩ := isInteger
      rcases List.mem_cons.1 member with rfl | member
      · exact Or.inr (by rcases isMark with rfl | rfl <;> decide)
      · exact (List.mem_append.1 member).symm.imp (isRun letter) (signLetter isSign letter)
  obtain ⟨isSign, isMantissa, isExponent⟩ := spelled
  intro letter member
  rcases List.mem_append.1 member with inSign | member
  · exact Or.inr (signLetter isSign letter inSign)
  · exact (List.mem_append.1 member).elim (mantissaLetter isMantissa letter)
      (tailLetter isExponent letter)

end Literal

end FormRules.Decimal
