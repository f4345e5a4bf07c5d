/-
**Natural numbers in texts.**

The checks for natural and for positive integers read a value twice: the integer that it starts with
must exist, and the number that it is as a whole must not be below the bound. On a text that is an
integer the two readings agree, since rounding carries no integer across a small bound. An integer
beyond the finite numbers is no number as a whole, so it is not below either.

* `Binary64.Rounds.lt_iff_of_integers`: integers of any size compare with small ones as they are;
* `Decimal.Literal.IsInteger.exists_spells`: an integer as a literal;
* `isSome_parseIntegerPrefix`: a text that is an integer starts with one;
* `Rule.natural_of_isInteger` is the result, and `Rule.natural_beyond_finite` shows where it ends.
-/

import FormRules.Proofs.Bounds
import FormRules.Proofs.IntegerPrefix

namespace FormRules

namespace Binary64

/-- **An integer of any size compares with a small one as it is**, although it is rounded. Neither
the small one nor the integer before it is changed by rounding. -/
theorem Rounds.lt_iff_of_integers {number bound : Binary64} {integer limit : Int}
    (rounds : Rounds integer number) (limitRounds : Rounds limit bound)
    (small : limit.natAbs < 2 ^ 53) : number.lt bound = true ↔ integer < limit := by
  constructor
  · intro less
    by_contra notLess
    have keeps : (limit : ℚ) ≤ integer := Int.cast_le.2 (not_lt.1 notLess)
    exact Bool.eq_false_iff.1 (limitRounds.lt_eq_false rounds keeps) less
  · intro less
    have beforeSmall : (limit - 1).natAbs ≤ 2 ^ 53 := by omega
    obtain ⟨before, beforeRounds⟩ := exists_rounds_iff.2 (abs_cast_lt_end beforeSmall)
    obtain ⟨value, finite⟩ := rounds.exists_value?
    have atMost : (integer : ℚ) ≤ (limit - 1 : Int) := Int.cast_le.2 (Int.le_sub_one_of_lt less)
    have valueAtMost := rounds.exact_le beforeRounds atMost finite
      (beforeRounds.value?_of_natAbs_le beforeSmall)
    rw [lt_eq_true_iff finite (limitRounds.value?_of_natAbs_le small.le)]
    exact valueAtMost.trans_lt (Int.cast_lt.2 (sub_one_lt limit))

end Binary64

namespace Decimal.Literal

variable {number : Int} {text : List Char}

/-- An integer is a literal without a point and without a power of ten. -/
theorem IsInteger.exists_spells (isInteger : IsInteger number text) :
    ∃ literal : Literal, literal.Spells text ∧ literal.exact = number ∧ literal.whole ≠ [] := by
  cases isInteger with
  | @intro negative sign digits isSign something isRun =>
    refine ⟨⟨negative, digits, [], 0⟩, ?_, ?_, something⟩
    · have spells := Spells.intro isSign (.whole something isRun) .absent
      rwa [List.append_nil] at spells
    · cases negative <;> simp [exact, size]

/-- A text that is an integer is not empty. -/
theorem IsInteger.ne_nil (isInteger : IsInteger number text) : text ≠ [] := by
  obtain ⟨_, something, _⟩ := isInteger
  exact List.append_ne_nil_of_right_ne_nil _ something

end Decimal.Literal

section Reading

variable {text : List Char} {number : Int}
  (isInteger : Decimal.Literal.IsInteger number (Text.trim text))

include isInteger

/-- A text that is an integer starts with one. -/
theorem isSome_parseIntegerPrefix : (parseIntegerPrefix text).isSome = true := by
  obtain ⟨_, spells, _, something⟩ := isInteger.exists_spells
  exact (isSome_parseIntegerPrefix_iff spells).2 something

/-- A text that is an integer is a number as a whole exactly if the integer is in the range of the
finite numbers. -/
theorem isSome_parseNumber_iff_of_isInteger :
    (parseNumber text).isSome = true ↔ |(number : ℚ)| < 2 ^ 1024 - 2 ^ 970 := by
  obtain ⟨literal, spells, exactly, _⟩ := isInteger.exists_spells
  rw [isSome_parseNumber_iff, ← exactly]
  constructor
  · rintro ⟨other, otherSpells, inRange⟩
    rwa [otherSpells.unique spells] at inRange
  · intro inRange
    exact ⟨literal, spells, inRange⟩

/-- The number of a text that is an integer is below a small bound exactly if there is such a
number and the integer is below the bound. -/
theorem any_parseNumber_lt_iff {least : Nat} (small : least < 2 ^ 53) :
    (parseNumber text).any (·.lt (.ofNat least)) = true ↔
      |(number : ℚ)| < 2 ^ 1024 - 2 ^ 970 ∧ number < least := by
  rw [← isSome_parseNumber_iff_of_isInteger isInteger]
  by_cases isNumber : (parseNumber text).isSome = true
  · obtain ⟨literal, spells, exactly, _⟩ := isInteger.exists_spells
    obtain ⟨amount, found, rounds⟩ :=
      Decimal.Denotes.exists_rounds ⟨isNumber, literal, spells, exactly⟩
    have limitRounds : Binary64.Rounds (least : Int) (.ofNat least) := by
      rw [Int.cast_natCast]
      exact Binary64.rounds_ofNat small.le
    rw [found, Option.any_some, rounds.lt_iff_of_integers limitRounds small]
    simp
  · rw [Option.not_isSome_iff_eq_none.1 isNumber]
    simp

end Reading

namespace Value

variable {content : String} {number : Int}

/-- A text that is an integer counts as one from a small bound on, unless the integer is in the
range of the finite numbers and below the bound. -/
theorem isIntegerFrom_text {least : Nat} (small : least < 2 ^ 53)
    (isInteger : Decimal.Literal.IsInteger number (Text.trim content.toList)) :
    (text content).isIntegerFrom (.ofNat least) =
      !decide (-(2 ^ 1024 - 2 ^ 970) < number ∧ number < least) := by
  have starts : (text content).toIntegerPrefix?.isSome = true := isSome_parseIntegerPrefix isInteger
  rw [isIntegerFrom, starts, Bool.true_and]
  refine congrArg not (Bool.eq_iff_iff.2 ?_)
  rw [decide_eq_true_eq]
  refine (any_parseNumber_lt_iff isInteger small).trans (and_congr_left fun below => ?_)
  have belowEnd : (number : ℚ) < 2 ^ 1024 - 2 ^ 970 :=
    calc (number : ℚ) < least := by exact_mod_cast below
      _ < 2 ^ 53 := by exact_mod_cast small
      _ < 2 ^ 1024 - 2 ^ 970 := Binary64.two_pow_lt_end
  rw [abs_lt, and_iff_left belowEnd, ← Int.cast_lt (R := ℚ), Int.cast_neg, Int.cast_sub,
    Int.cast_pow, Int.cast_pow, Int.cast_ofNat]

theorem isPresent_text (isInteger : Decimal.Literal.IsInteger number (Text.trim content.toList)) :
    (text content).isPresent = true := by
  refine decide_eq_true fun empty => ?_
  subst empty
  exact isInteger.ne_nil rfl

end Value

namespace Rule

/-- **The checks for natural and for positive integers compare exactly** on texts that are integers
in the range of the finite numbers, whatever their signs, leading zeros and blanks around them. An
integer at or below `-(2 ^ 1024 - 2 ^ 970)` is no finite number, so it is not below the bound. -/
theorem natural_of_isInteger {input : CheckInput} {content : String} {number : Int}
    (isText : input.value = .text content)
    (isInteger : Decimal.Literal.IsInteger number (Text.trim content.toList)) :
    natural.check input =
        .ok (input.failIf (-(2 ^ 1024 - 2 ^ 970) < number ∧ number < 0)) ∧
      naturalPositive.check input =
        .ok (input.failIf (-(2 ^ 1024 - 2 ^ 970) < number ∧ number < 1)) := by
  have present := Value.isPresent_text isInteger
  have fromZero := Value.isIntegerFrom_text (Nat.two_pow_pos 53) isInteger
  have fromOne := Value.isIntegerFrom_text (Nat.one_lt_two_pow (by decide)) isInteger
  rw [Nat.cast_zero] at fromZero
  rw [Nat.cast_one] at fromOne
  constructor
  · rw [check, isText, present, fromZero, Bool.true_and, Bool.not_not]
  · rw [check, isText, present, fromOne, Bool.true_and, Bool.not_not]

/-- A negative integer with a leading zero and blanks, and the integer zero. -/
theorem natural_of_isInteger_padded :
    Decimal.Literal.IsInteger (-7) (Text.trim "\t-007 ".toList) ∧
      natural.check ⟨"natural", "age", .text "\t-007 ", none, "Age", "No!"⟩ =
        .ok (some ⟨"natural", "age", "Age", "No!", none⟩) ∧
    Decimal.Literal.IsInteger 0 (Text.trim "-0".toList) ∧
      naturalPositive.check ⟨"positive", "age", .text "-0", none, "Age", "No!"⟩ =
        .ok (some ⟨"positive", "age", "Age", "No!", none⟩) := by
  have padded : Decimal.Literal.IsInteger (-7) (Text.trim "\t-007 ".toList) :=
    Decimal.Literal.readInteger?_eq_some_iff.1 (by decide)
  have zero : Decimal.Literal.IsInteger 0 (Text.trim "-0".toList) :=
    Decimal.Literal.readInteger?_eq_some_iff.1 (by decide)
  have below : -(2 ^ 1024 - 2 ^ 970) < (-7 : Int) ∧ (-7 : Int) < 0 := by decide +kernel
  have positive : -(2 ^ 1024 - 2 ^ 970) < (0 : Int) ∧ (0 : Int) < 1 := by decide +kernel
  refine ⟨padded, (natural_of_isInteger rfl padded).1.trans ?_, zero,
    (natural_of_isInteger rfl zero).2.trans ?_⟩
  · rw [decide_eq_true below]
    decide +kernel
  · rw [decide_eq_true positive]
    decide +kernel

/-- The integer `-10 ^ 400`. -/
def beyondFinite : List Char :=
  '-' :: '1' :: List.replicate 400 '0'

/-- A negative integer beyond the finite numbers passes both checks. -/
theorem natural_beyond_finite :
    Decimal.Literal.IsInteger (-(Nat.pow 10 400 : Int))
        (Text.trim (String.ofList beyondFinite).toList) ∧
      -(Nat.pow 10 400 : Int) < 0 ∧
      natural.check ⟨"natural", "field", .text (String.ofList beyondFinite), none, "Field",
        "The #fieldLabel# must be a natural integer!"⟩ = .ok none ∧
      naturalPositive.check ⟨"naturalPositive", "field", .text (String.ofList beyondFinite), none,
        "Field", "The #fieldLabel# must be a positive integer!"⟩ = .ok none := by
  have letters : (String.ofList beyondFinite).toList = beyondFinite := String.toList_ofList
  have starts : (parseIntegerPrefix beyondFinite).isSome = true := by decide +kernel
  have noNumber : parseNumber beyondFinite = none := by decide +kernel
  have isIntegerFrom (bound : Binary64) :
      (Value.text (String.ofList beyondFinite)).isIntegerFrom bound = true := by
    rw [Value.isIntegerFrom, Value.toIntegerPrefix?, Value.toNumber?, letters, starts, noNumber]
    rfl
  refine ⟨Decimal.Literal.readInteger?_eq_some_iff.1 ?_, by decide +kernel, ?_, ?_⟩
  · rw [letters]
    decide +kernel
  · rw [check, isIntegerFrom, Bool.not_true, Bool.and_false]
    rfl
  · rw [check, isIntegerFrom, Bool.not_true, Bool.and_false]
    rfl

end Rule

end FormRules
