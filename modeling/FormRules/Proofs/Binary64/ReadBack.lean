/-
**Written numbers read back.**

A finite number is written with the fewest digits that read back as the same number. On the finest
scale every magnitude lies on the grid, so the search for such digits always ends with some. They
are written positionally, which is a literal without a power of ten.

* `Decimal.Scaled.readsAs_iff`: what reading a decimal as a magnitude means in terms of rounding;
* `Magnitude.readsAs_shortestDecimal`: the shortest decimal of a magnitude reads back;
* `Decimal.Literal.IsPlain` are the literals that numbers are written as, and
  `Binary64.exists_isPlain_text`: a finite number is written as one;
* `Binary64.parseNumber_text` is the result.
-/

import FormRules.Binary64.Shortest
import FormRules.Proofs.Decimal.Number
import Mathlib.Data.Nat.Cast.Field
import Mathlib.Data.Nat.Digits.Defs

namespace FormRules

/-! ### Decimals as ratios -/

namespace Decimal.Scaled

variable (number : Scaled) {magnitude : Magnitude}

/-- The exact value of a decimal. -/
def exact : ℚ :=
  number.mantissa * 10 ^ number.scale

theorem denominator_pos : 0 < number.denominator :=
  Nat.pow_pos (by decide)

theorem numerator_div_denominator :
    (number.numerator : ℚ) / number.denominator = number.exact := by
  have scale : ((number.scale.toNat : Int) - ((-number.scale).toNat : Int)) = number.scale := by
    omega
  rw [numerator, denominator, Nat.cast_mul, Magnitude.cast_powTen, Magnitude.cast_powTen,
    mul_div_assoc, ← zpow_natCast, ← zpow_natCast, ← zpow_sub₀ (by norm_num), scale, exact]

/-- A decimal reads as a magnitude exactly if that is the nearest one. -/
theorem readsAs_iff :
    number.readsAs magnitude = true ↔ RoundsTo (number.exact * unitsPerOne) magnitude.units := by
  have roundsTo := roundsTo_nearestUnits number.numerator number.denominator_pos
  rw [mul_div_right_comm, numerator_div_denominator] at roundsTo
  rw [readsAs, decide_eq_true_eq]
  constructor
  · intro same
    rwa [same] at roundsTo
  · exact roundsTo.unique

end Decimal.Scaled

/-! ### The shortest decimal -/

namespace Magnitude

variable {magnitude : Magnitude}

/-- On a scale that is fine enough every magnitude is a multiple of the power of ten. -/
theorem exact_multipleBelow {places : Nat} (fine : unitExponent ≤ places) :
    (magnitude.multipleBelow (-(places : Int))).1.exact = magnitude.exact := by
  have divides : unitsPerOne ∣ magnitude.units * Nat.pow 10 places := by
    rw [unitsPerOne_eq]
    exact Dvd.dvd.mul_left ((pow_dvd_pow 2 fine).trans (pow_dvd_pow_of_dvd (by decide) places)) _
  have mantissa : (magnitude.multipleBelow (-(places : Int))).1.mantissa =
      magnitude.units * Nat.pow 10 places / unitsPerOne := by
    simp [multipleBelow]
  have power : (10 : ℚ) ^ places ≠ 0 := pow_ne_zero _ (by norm_num)
  rw [Decimal.Scaled.exact, mantissa, Nat.cast_div divides cast_unitsPerOne_pos.ne', Nat.cast_mul,
    cast_powTen, multipleBelow, zpow_neg, zpow_natCast, exact, ← div_eq_mul_inv, div_right_comm,
    mul_div_cancel_right₀ _ power]

theorem readsAs_multipleBelow {places : Nat} (fine : unitExponent ≤ places) :
    (magnitude.multipleBelow (-(places : Int))).1.readsAs magnitude = true := by
  rw [Decimal.Scaled.readsAs_iff, exact_multipleBelow fine, exact_mul_unitsPerOne]
  exact magnitude.representable_units.roundsTo

/-- What is found on a grid reads back: that is what is searched for. -/
theorem readsAs_of_onGrid? {scale : Int} {number : Decimal.Scaled}
    (found : magnitude.onGrid? scale = some number) : number.readsAs magnitude = true := by
  rw [onGrid?] at found
  have readsBack := List.find?_some found
  exact readsBack

/-- **The shortest decimal of a magnitude reads back.** -/
theorem readsAs_shortestDecimal (magnitude : Magnitude) :
    magnitude.shortestDecimal.readsAs magnitude = true := by
  unfold shortestDecimal
  split
  · next nothing =>
    rw [Decimal.Scaled.readsAs_iff, nothing, Decimal.Scaled.exact, Nat.cast_zero, zero_mul,
      zero_mul]
    exact roundsTo_zero le_rfl (by norm_num)
  · cases found : scales.findSome? magnitude.onGrid? with
    | some number =>
      obtain ⟨scale, _, onGrid⟩ := List.exists_of_findSome?_eq_some found
      exact readsAs_of_onGrid? onGrid
    | none =>
      have finest : (-1074 : Int) = -((unitExponent : Nat) : Int) := rfl
      rw [Option.getD_none, finest]
      exact readsAs_multipleBelow le_rfl

end Magnitude

/-! ### Positional notation -/

namespace Decimal

theorem numberOf_replicate_zero (count : Nat) : numberOf (List.replicate count '0') = 0 := by
  induction count with
  | zero => rfl
  | succ count ih =>
    rw [List.replicate_succ', numberOf_append_digit, ih]
    rfl

/-- Leading zeros do not count. -/
theorem numberOf_leftpad (places : Nat) (digits : List Char) :
    numberOf (digits.leftpad places '0') = numberOf digits := by
  rw [List.leftpad, numberOf_append, numberOf_replicate_zero, zero_mul, zero_add]

theorem isRun_leftpad (places : Nat) {digits : List Char} (isRun : IsRun digits) :
    IsRun (digits.leftpad places '0') := by
  intro letter member
  rcases List.mem_append.1 member with padded | inDigits
  · rw [List.eq_of_mem_replicate padded]
    decide
  · exact isRun letter inDigits

/-- Digits that are filled up to a number of places are as many. -/
theorem length_leftpad_digitsOf {places number : Nat} (somePlaces : 0 < places)
    (small : number < 10 ^ places) : ((digitsOf number).leftpad places '0').length = places := by
  rw [List.length_leftpad]
  exact max_eq_left (Nat.toDigits_length 10 number places somePlaces small)

theorem isRun_digitsOf (number : Nat) : IsRun (digitsOf number) := fun _ member =>
  isDigit_of_mem_digitsOf member

theorem digitsOf_ne_nil (number : Nat) : digitsOf number ≠ [] :=
  Nat.toDigits_ne_nil

namespace Literal

variable {literal : Literal} {text : List Char}

/-- A literal is written without blanks. -/
theorem Spells.trim_eq (spells : literal.Spells text) : Text.trim text = text := by
  have marksAreSolid : ['.', '-', '+', 'e', 'E'].all (!Text.isBlank ·) = true := by decide
  have solid : ∀ letter ∈ text, Text.isBlank letter = false := by
    intro letter member
    rcases spells.isLetter letter member with digit | mark
    · exact isBlank_of_isDigit digit
    · simpa using List.all_eq_true.1 marksAreSolid letter mark
  exact Text.trimmed_iff.1 ⟨fun letter first => solid letter (List.mem_of_head? first),
    fun letter last => solid letter (List.mem_of_getLast? last)⟩

/-- A minus sign for negative numbers. -/
def minus (negative : Bool) : List Char :=
  if negative then ['-'] else []

/-- **A plain literal**: digits behind a minus sign that may be missing, with or without a fraction
and never with a power of ten. -/
inductive IsPlain : Literal → List Char → Prop
  | whole (negative : Bool) {digits : List Char} (something : digits ≠ []) (isRun : IsRun digits) :
      IsPlain ⟨negative, digits, [], 0⟩ (minus negative ++ digits)
  | fraction (negative : Bool) {digits behind : List Char} (something : digits ≠ [])
      (isRun : IsRun digits) (somethingBehind : behind ≠ []) (isRunBehind : IsRun behind) :
      IsPlain ⟨negative, digits, behind, 0⟩ (minus negative ++ (digits ++ '.' :: behind))

theorem isSign_minus (negative : Bool) : IsSign negative (minus negative) := by
  cases negative
  · exact .absent
  · exact .minus

namespace IsPlain

variable (isPlain : literal.IsPlain text)
include isPlain

theorem spells : literal.Spells text := by
  cases isPlain with
  | whole negative something isRun =>
    have spells := Spells.intro (isSign_minus negative) (.whole something isRun) .absent
    rwa [List.append_nil] at spells
  | fraction negative something isRun _ isRunBehind =>
    have spells := Spells.intro (isSign_minus negative) (.wholePoint something isRun isRunBehind)
      .absent
    rwa [List.append_nil] at spells

theorem whole_ne_nil : literal.whole ≠ [] := by
  cases isPlain <;> assumption

theorem ne_nil : text ≠ [] := by
  cases isPlain with
  | whole _ something _ => exact List.append_ne_nil_of_right_ne_nil _ something
  | fraction _ something _ _ _ =>
    exact List.append_ne_nil_of_right_ne_nil _ (List.append_ne_nil_of_left_ne_nil something _)

end IsPlain

end Literal

/-- **Positional notation is a plain literal** of the same value. -/
theorem Scaled.exists_isPlain_positional (number : Scaled) (negative : Bool) :
    ∃ literal : Literal, literal.IsPlain (Literal.minus negative ++ number.positional) ∧
      literal.negative = negative ∧ literal.size = number.exact := by
  rw [positional]
  split
  · next nonneg =>
    refine ⟨_, .whole negative (digitsOf_ne_nil _) (isRun_digitsOf _), rfl, ?_⟩
    have noPlaces : (-number.scale).toNat = 0 := by omega
    rw [← number.numerator_div_denominator, denominator, noPlaces, Literal.size]
    simp [numberOf_digitsOf]
  · next below =>
    set places := (-number.scale).toNat with isPlaces
    have somePlaces : 0 < places := by omega
    have length := length_leftpad_digitsOf somePlaces
      (show number.mantissa % Nat.pow 10 places < 10 ^ places from
        Nat.mod_lt _ (Nat.pow_pos (by decide)))
    have somethingBehind : (digitsOf (number.mantissa % Nat.pow 10 places)).leftpad places '0' ≠
        [] := by
      rw [← List.length_pos_iff, length]
      exact somePlaces
    refine ⟨_, .fraction negative (digitsOf_ne_nil _) (isRun_digitsOf _) somethingBehind
      (isRun_leftpad places (isRun_digitsOf _)), rfl, ?_⟩
    have noFactor : number.scale.toNat = 0 := by omega
    have split : (number.mantissa : ℚ) =
        10 ^ places * (number.mantissa / Nat.pow 10 places : Nat) +
          (number.mantissa % Nat.pow 10 places : Nat) := by
      rw [← Magnitude.cast_powTen]
      exact_mod_cast (Nat.div_add_mod number.mantissa (Nat.pow 10 places)).symm
    have power : (10 : ℚ) ^ places ≠ 0 := pow_ne_zero _ (by norm_num)
    rw [← number.numerator_div_denominator, numerator, denominator, noFactor, ← isPlaces,
      Literal.size, numberOf_leftpad, numberOf_digitsOf, numberOf_digitsOf, length,
      Magnitude.cast_powTen, Nat.cast_mul, Magnitude.cast_powTen, split]
    field_simp
    simp

end Decimal

/-! ### Numbers -/

namespace Binary64

variable (negative : Bool) (magnitude : Magnitude)

theorem toList_text : (finite negative magnitude).text.toList =
    Decimal.Literal.minus negative ++ magnitude.shortestDecimal.positional := by
  cases negative <;> simp [text, text.sign, Decimal.Literal.minus]

/-- **A finite number is written as a plain literal** that rounds to it. -/
theorem exists_isPlain_text : ∃ literal : Decimal.Literal,
    literal.IsPlain (finite negative magnitude).text.toList ∧ literal.negative = negative ∧
      RoundsTo (literal.size * unitsPerOne) magnitude.units := by
  obtain ⟨literal, isPlain, sign, value⟩ :=
    magnitude.shortestDecimal.exists_isPlain_positional negative
  rw [← toList_text] at isPlain
  refine ⟨literal, isPlain, sign, ?_⟩
  rw [value, ← Decimal.Scaled.readsAs_iff]
  exact magnitude.readsAs_shortestDecimal

/-- **The text of a finite number reads back** as this number. -/
theorem parseNumber_text :
    parseNumber (finite negative magnitude).text.toList = some (.finite negative magnitude) := by
  obtain ⟨literal, isPlain, sign, roundsTo⟩ := exists_isPlain_text negative magnitude
  refine parseNumber_eq_some_iff.2 ⟨literal, magnitude, ?_, by rw [sign], roundsTo⟩
  rw [isPlain.spells.trim_eq]
  exact isPlain.spells

end Binary64

end FormRules
