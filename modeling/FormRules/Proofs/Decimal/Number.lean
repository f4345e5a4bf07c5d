/-
**Numbers in texts.**

A text is a number if it is a decimal literal, blanks around it aside, whose exact value is in the
range of the finite numbers. The number is then the one nearest to the exact value.

* `Decimal.Literal.exact` is the value of a literal, by the digits before and behind its point;
* `Magnitude.ofLiteral?_eq_some_iff`: the shortcuts for very large and very small literals do not
  change what is rounded;
* `parseNumber_eq_some_iff`: reading a number in terms of rounding;
* `parseNumber_nearest` is the result.
-/

import FormRules.Proofs.Binary64.Exact
import FormRules.Proofs.Decimal.Grammar
import FormRules.Value
import Mathlib.Algebra.Order.Field.Power

namespace FormRules

namespace Decimal.Literal

/-! ### The value of a literal -/

/-- The value of a literal, its sign aside. -/
def size (literal : Literal) : ℚ :=
  (numberOf literal.whole + numberOf literal.fraction / 10 ^ literal.fraction.length) *
    10 ^ literal.exponent

/-- **The exact value of a literal.** -/
def exact (literal : Literal) : ℚ :=
  signed literal.negative literal.size

variable (literal : Literal)

theorem size_nonneg : 0 ≤ literal.size := by
  unfold size
  positivity

theorem abs_exact : |literal.exact| = literal.size :=
  abs_signed literal.negative literal.size literal.size_nonneg

/-- The point only moves the digits behind it. -/
theorem size_eq : literal.size = literal.mantissa * 10 ^ literal.scale := by
  have places : (10 : ℚ) ^ literal.fraction.length ≠ 0 := pow_ne_zero _ (by norm_num)
  rw [size, mantissa, numberOf_append, scale, zpow_sub₀ (by norm_num), zpow_natCast]
  push_cast
  field_simp

end Decimal.Literal

namespace Magnitude

/-! ### Rounding of decimals -/

theorem ofUnits?_eq_none {units : Nat} (beyond : unitsBeyond ≤ units) : ofUnits? units = none :=
  dif_neg fun isMagnitude => absurd isMagnitude.1 (not_lt.2 beyond)

theorem cast_powTen (exponent : Nat) : ((Nat.pow 10 exponent : Nat) : ℚ) = 10 ^ exponent := by
  have powTen_eq : Nat.pow 10 exponent = 10 ^ exponent := rfl
  rw [powTen_eq, Nat.cast_pow, Nat.cast_ofNat]

/-- Powers of two and ten compare by `2 ^ 93 < 10 ^ 28`. -/
theorem two_pow_le_ten_pow (exponent : Nat) : (2 : ℚ) ^ (93 * exponent) ≤ 10 ^ (28 * exponent) := by
  rw [pow_mul, pow_mul]
  exact pow_le_pow_left₀ (by norm_num) (by norm_num) exponent

theorem two_pow_le_end : (2 : ℚ) ^ 1024 ≤ 10 ^ 309 :=
  calc (2 : ℚ) ^ (93 * 11 + 1) = 2 ^ (93 * 11) * 2 := pow_succ 2 _
    _ ≤ 10 ^ (28 * 11) * 10 := mul_le_mul (two_pow_le_ten_pow 11) (by norm_num) (by norm_num)
        (pow_nonneg (by norm_num) _)
    _ = 10 ^ (28 * 11 + 1) := (pow_succ 10 _).symm

theorem two_mul_unitsPerOne_lt : (2 : ℚ) * unitsPerOne < 10 ^ 324 :=
  calc (2 : ℚ) * unitsPerOne = 2 * 2 ^ unitExponent := by rw [cast_unitsPerOne]
    _ = 2 ^ (unitExponent + 1) := (pow_succ' 2 _).symm
    _ = 2 ^ (93 * 11) * 2 ^ 52 := pow_add 2 (93 * 11) 52
    _ < 10 ^ (28 * 11) * 10 ^ 16 := mul_lt_mul' (two_pow_le_ten_pow 11) (by norm_num) (by norm_num)
        (pow_pos (by norm_num) _)
    _ = 10 ^ (28 * 11 + 16) := (pow_add 10 (28 * 11) 16).symm

section Shortcuts

variable {mantissa digitCount : Nat} {scale : Int}

/-- Decimals of this kind are less than half a unit. -/
theorem roundsTo_zero_of_scale_le (few : mantissa < 10 ^ digitCount)
    (tiny : scale + digitCount ≤ -324) : RoundsTo (mantissa * 10 ^ scale * unitsPerOne) 0 := by
  refine roundsTo_zero (mul_nonneg (by positivity) cast_unitsPerOne_pos.le) ?_
  have below : (mantissa : ℚ) * 10 ^ scale ≤ 10 ^ (-324 : Int) :=
    calc (mantissa : ℚ) * 10 ^ scale ≤ 10 ^ digitCount * 10 ^ scale :=
          mul_le_mul_of_nonneg_right (by exact_mod_cast few.le) (by positivity)
      _ = 10 ^ (scale + digitCount) := by
        rw [zpow_add₀ (by norm_num), zpow_natCast, mul_comm]
      _ ≤ 10 ^ (-324 : Int) := zpow_le_zpow_right₀ (by norm_num) tiny
  have inverse : (10 : ℚ) ^ (-324 : Int) * 10 ^ 324 = 1 := by
    rw [zpow_neg, ← zpow_natCast]
    exact inv_mul_cancel₀ (zpow_ne_zero _ (by norm_num))
  calc 2 * ((mantissa : ℚ) * 10 ^ scale * unitsPerOne)
      = mantissa * 10 ^ scale * (2 * unitsPerOne) := by ring
    _ ≤ 10 ^ (-324 : Int) * (2 * unitsPerOne) :=
        mul_le_mul_of_nonneg_right below (mul_nonneg (by norm_num) cast_unitsPerOne_pos.le)
    _ < 10 ^ (-324 : Int) * 10 ^ 324 :=
        mul_lt_mul_of_pos_left two_mul_unitsPerOne_lt (zpow_pos (by norm_num) _)
    _ = 1 := inverse

/-- Decimals of this kind are beyond all magnitudes. -/
theorem unitsBeyond_le_of_le_scale {units : Nat} (something : mantissa ≠ 0) (huge : 309 ≤ scale)
    (roundsTo : RoundsTo (mantissa * 10 ^ scale * unitsPerOne) units) : unitsBeyond ≤ units := by
  rw [← not_lt, roundsTo.lt_unitsBeyond_iff, not_lt]
  refine mul_le_mul_of_nonneg_right ?_ cast_unitsPerOne_pos.le
  have one : (1 : ℚ) ≤ mantissa := Nat.one_le_cast.2 (Nat.one_le_iff_ne_zero.2 something)
  have lowest : (0 : ℚ) ≤ 2 ^ 970 := pow_nonneg (by norm_num) _
  calc (2 : ℚ) ^ 1024 - 2 ^ 970 ≤ 2 ^ 1024 := sub_le_self _ lowest
    _ ≤ 10 ^ 309 := two_pow_le_end
    _ = 10 ^ (309 : Int) := (zpow_natCast 10 309).symm
    _ ≤ 10 ^ scale := zpow_le_zpow_right₀ (by norm_num) huge
    _ ≤ mantissa * 10 ^ scale := le_mul_of_one_le_left (by positivity) one

end Shortcuts

/-- Rounding a decimal finds the nearest number of units, also where no power is taken. -/
theorem exists_roundsTo_ofDecimal? {mantissa digitCount : Nat} (few : mantissa < 10 ^ digitCount)
    (scale : Int) : ∃ units, RoundsTo (mantissa * 10 ^ scale * unitsPerOne) units ∧
      ofDecimal? mantissa digitCount scale = ofUnits? units := by
  have nearest {numerator denominator : Nat} (positive : 0 < denominator)
      (same : (numerator : ℚ) / denominator = mantissa * 10 ^ scale) :
      RoundsTo (mantissa * 10 ^ scale * unitsPerOne) (nearestUnits numerator denominator) := by
    rw [← same, ← mul_div_right_comm]
    exact roundsTo_nearestUnits numerator positive
  have whole (nonneg : 0 ≤ scale) : RoundsTo (mantissa * 10 ^ scale * unitsPerOne)
      (nearestUnits (mantissa * Nat.pow 10 scale.toNat) 1) := by
    refine nearest Nat.one_pos ?_
    rw [Nat.cast_one, div_one, Nat.cast_mul, cast_powTen, ← zpow_natCast,
      Int.toNat_of_nonneg nonneg]
  unfold ofDecimal?
  split_ifs with none huge nonneg
  · refine ⟨0, ?_, (ofUnits?_units zero).symm⟩
    rcases none with rfl | tiny
    · rw [Nat.cast_zero, zero_mul, zero_mul]
      exact roundsTo_zero le_rfl (by rw [mul_zero]; exact one_pos)
    · exact roundsTo_zero_of_scale_le few tiny
  · have roundsTo := whole (le_trans (by decide) huge)
    have something : mantissa ≠ 0 := fun nothing => none (Or.inl nothing)
    have beyond := unitsBeyond_le_of_le_scale something huge roundsTo
    exact ⟨_, roundsTo, (ofUnits?_eq_none beyond).symm⟩
  · exact ⟨_, whole nonneg, rfl⟩
  · have positive : 0 < Nat.pow 10 (-scale).toNat := Nat.pow_pos (by decide)
    refine ⟨_, nearest positive ?_, rfl⟩
    have opposite : scale = -((-scale).toNat : Int) := by omega
    rw [cast_powTen, div_eq_mul_inv, ← zpow_natCast, ← zpow_neg, ← opposite]

/-- A literal rounds to a magnitude exactly if that is the nearest one. -/
theorem ofLiteral?_eq_some_iff {literal : Decimal.Literal} {magnitude : Magnitude}
    (isRun : Decimal.IsRun (literal.whole ++ literal.fraction)) :
    ofLiteral? literal = some magnitude ↔
      RoundsTo (literal.size * unitsPerOne) magnitude.units := by
  have few : literal.mantissa < 10 ^ (literal.whole.length + literal.fraction.length) := by
    rw [← List.length_append]
    exact Decimal.numberOf_lt isRun
  obtain ⟨units, roundsTo, computed⟩ := exists_roundsTo_ofDecimal? few literal.scale
  rw [← literal.size_eq] at roundsTo
  rw [ofLiteral?, computed]
  constructor
  · intro found
    rwa [units_of_ofUnits? found]
  · intro nearest
    rw [roundsTo.unique nearest, ofUnits?_units]

end Magnitude

/-! ### Reading numbers -/

variable {text : List Char} {number : Binary64}

theorem parseNumber_eq_some_iff : parseNumber text = some number ↔
    ∃ (literal : Decimal.Literal) (magnitude : Magnitude),
      literal.Spells (Text.trim text) ∧ number = .finite literal.negative magnitude ∧
        RoundsTo (literal.size * unitsPerOne) magnitude.units := by
  simp only [parseNumber, Option.bind_eq_some_iff, Binary64.ofLiteral?, Option.map_eq_some_iff,
    Decimal.Literal.read?_eq_some_iff]
  constructor
  · rintro ⟨literal, spells, magnitude, rounded, rfl⟩
    exact ⟨literal, magnitude, spells, rfl,
      (Magnitude.ofLiteral?_eq_some_iff spells.isRun).1 rounded⟩
  · rintro ⟨literal, magnitude, spells, rfl, roundsTo⟩
    exact ⟨literal, spells, magnitude,
      (Magnitude.ofLiteral?_eq_some_iff spells.isRun).2 roundsTo, rfl⟩

/-- Exactly the literals in the range of the finite numbers are numbers. -/
theorem isSome_parseNumber_iff : (parseNumber text).isSome = true ↔
    ∃ literal : Decimal.Literal,
      literal.Spells (Text.trim text) ∧ |literal.exact| < 2 ^ 1024 - 2 ^ 970 := by
  rw [Option.isSome_iff_exists]
  constructor
  · rintro ⟨number, found⟩
    obtain ⟨literal, magnitude, spells, rfl, roundsTo⟩ := parseNumber_eq_some_iff.1 found
    rw [← literal.abs_exact] at roundsTo
    exact ⟨literal, spells, Binary64.lt_of_roundsTo_units roundsTo⟩
  · rintro ⟨literal, spells, inRange⟩
    rw [literal.abs_exact] at inRange
    obtain ⟨magnitude, roundsTo⟩ :=
      Binary64.exists_magnitude_roundsTo literal.size_nonneg inRange
    exact ⟨_, parseNumber_eq_some_iff.2 ⟨literal, magnitude, spells, rfl, roundsTo⟩⟩

/-- A text with a character that literals are not written with is no number. -/
theorem parseNumber_eq_none_of_foreign {letter : Char} (member : letter ∈ Text.trim text)
    (noDigit : Decimal.isDigit letter = false) (foreign : letter ∉ ['.', '-', '+', 'e', 'E']) :
    parseNumber text = none := by
  refine Option.eq_none_iff_forall_ne_some.2 fun number found => ?_
  obtain ⟨literal, _, spells, _⟩ := parseNumber_eq_some_iff.1 found
  rcases spells.isLetter letter member with isDigit | known
  · exact absurd isDigit (Bool.eq_false_iff.1 noDigit)
  · exact foreign known

/-- An n in a word, small or capital, is foreign to numbers. -/
theorem foreign_of_toLower {letter : Char} (isN : letter.toLower = 'n') :
    Decimal.isDigit letter = false ∧ letter ∉ ['.', '-', '+', 'e', 'E'] := by
  constructor
  · refine Bool.eq_false_iff.2 fun isDigit => ?_
    rw [Decimal.isDigit, Bool.and_eq_true, decide_eq_true_eq, decide_eq_true_eq] at isDigit
    have small : ¬ (letter.val ≥ 'A'.val ∧ letter.val ≤ 'Z'.val) := by
      rintro ⟨capital, _⟩
      have atMost : 'A'.val.toNat ≤ '9'.val.toNat :=
        le_trans (UInt32.le_iff_toNat_le.1 capital) (UInt32.le_iff_toNat_le.1 isDigit.2)
      exact absurd atMost (by decide)
    have unchanged : letter.toLower = letter := dif_neg small
    obtain rfl := unchanged.symm.trans isN
    exact absurd isDigit.2 (by decide)
  · intro known
    simp only [List.mem_cons, List.not_mem_nil, or_false] at known
    rcases known with rfl | rfl | rfl | rfl | rfl <;> exact absurd isN (by decide)

/-- Infinities and NaNs are no numbers, however they are spelled. -/
theorem parseNumber_eq_none_of_word {front word : List Char}
    (named : word.map Char.toLower ∈ ["inf".toList, "infinity".toList, "nan".toList])
    (trimmed : Text.trim text = front ++ word) : parseNumber text = none := by
  have hasN : 'n' ∈ word.map Char.toLower := by
    generalize word.map Char.toLower = lower at named
    revert lower
    decide
  obtain ⟨letter, member, isN⟩ := List.mem_map.1 hasN
  obtain ⟨noDigit, foreign⟩ := foreign_of_toLower isN
  have inText : letter ∈ Text.trim text := trimmed ▸ List.mem_append_right front member
  exact parseNumber_eq_none_of_foreign inText noDigit foreign

/-- **A text is a number exactly if it is a decimal literal in range, and the number is the nearest
one**, with the sign of the literal also when it is zero. Other characters than those of literals
are refused, so hexadecimal digits, separators and digits of other scripts, and so are all spellings
of infinities and NaNs. -/
theorem parseNumber_nearest (text : List Char) :
    ((parseNumber text).isSome = true ↔ ∃ literal : Decimal.Literal,
      literal.Spells (Text.trim text) ∧ |literal.exact| < 2 ^ 1024 - 2 ^ 970) ∧
    (∀ number, parseNumber text = some number ↔
      ∃ (literal : Decimal.Literal) (magnitude : Magnitude),
        literal.Spells (Text.trim text) ∧ |literal.exact| < 2 ^ 1024 - 2 ^ 970 ∧
          number = .finite literal.negative magnitude ∧
          Binary64.IsNearest literal.exact number) ∧
    (∀ letter ∈ Text.trim text, Decimal.isDigit letter = false →
      letter ∉ ['.', '-', '+', 'e', 'E'] → parseNumber text = none) ∧
    ∀ front word, word.map Char.toLower ∈ ["inf".toList, "infinity".toList, "nan".toList] →
      Text.trim text = front ++ word → parseNumber text = none := by
  have read (number : Binary64) : parseNumber text = some number ↔
      ∃ (literal : Decimal.Literal) (magnitude : Magnitude),
        literal.Spells (Text.trim text) ∧ |literal.exact| < 2 ^ 1024 - 2 ^ 970 ∧
          number = .finite literal.negative magnitude ∧
          Binary64.IsNearest literal.exact number := by
    rw [parseNumber_eq_some_iff]
    refine exists_congr fun literal => exists_congr fun magnitude => and_congr_right fun _ => ?_
    rw [literal.abs_exact]
    constructor
    · rintro ⟨rfl, roundsTo⟩
      exact ⟨Binary64.lt_of_roundsTo_units roundsTo, rfl,
        Binary64.isNearest_of_roundsTo _ literal.size_nonneg roundsTo⟩
    · rintro ⟨inRange, rfl, isNearest⟩
      exact ⟨rfl, (Binary64.isNearest_iff_roundsTo literal.size_nonneg inRange).1 isNearest⟩
  exact ⟨isSome_parseNumber_iff, read, fun letter member noDigit foreign =>
    parseNumber_eq_none_of_foreign member noDigit foreign, fun front word named trimmed =>
    parseNumber_eq_none_of_word named trimmed⟩

/-- A literal that is too small for a unit keeps its sign; an Arabic digit and a signed infinity are
refused. -/
theorem parseNumber_nearest_unusual :
    (∃ literal : Decimal.Literal, literal.Spells "-1e-400".toList ∧
      Binary64.IsNearest literal.exact (.zero true)) ∧
    '١' ∈ Text.trim "١.5".toList ∧ Decimal.isDigit '١' = false ∧
    '١' ∉ ['.', '-', '+', 'e', 'E'] ∧ parseNumber "١.5".toList = none ∧
    "InF".toList.map Char.toLower ∈ ["inf".toList, "infinity".toList, "nan".toList] ∧
    Text.trim " -InF".toList = ['-'] ++ "InF".toList ∧ parseNumber " -InF".toList = none := by
  obtain ⟨_, read, _, _⟩ := parseNumber_nearest "-1e-400".toList
  obtain ⟨literal, _, spells, _, _, isNearest⟩ := (read (.zero true)).1 (by decide +kernel)
  obtain ⟨_, _, refusesLetters, _⟩ := parseNumber_nearest "١.5".toList
  obtain ⟨_, _, _, refusesWords⟩ := parseNumber_nearest " -InF".toList
  have arabic : '١' ∈ Text.trim "١.5".toList := by decide
  have noDigit : Decimal.isDigit '١' = false := by decide
  have foreign : '١' ∉ ['.', '-', '+', 'e', 'E'] := by decide
  have named : "InF".toList.map Char.toLower ∈ ["inf".toList, "infinity".toList, "nan".toList] := by
    decide
  have trimmed : Text.trim " -InF".toList = ['-'] ++ "InF".toList := by decide
  exact ⟨⟨literal, spells, isNearest⟩, arabic, noDigit, foreign,
    refusesLetters '١' arabic noDigit foreign, named, trimmed,
    refusesWords ['-'] "InF".toList named trimmed⟩

end FormRules
