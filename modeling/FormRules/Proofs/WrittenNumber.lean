/-
**Numbers and their texts.**

A number filled in as such and the same number filled in as a text are read differently: the one has
a whole part, the other starts with an integer. The checks for presence and for numbers do not see
this. All that they see is whether anything was filled in, which number it is as a whole and whether
it starts with an integer.

* `Value.AlikeAsNumbers`: values that agree in these three, and `Rule.check_eq_of_alike`: the checks
  for presence and for numbers treat them alike;
* `Value.alikeAsNumbers_of_isPlain`: a finite number other than zero and a plain literal that reads
  back as this number;
* `Rule.number_checked_like_its_text` is the result.
-/

import FormRules.Proofs.Binary64.ReadBack
import FormRules.Proofs.BuiltinCheck
import FormRules.Proofs.IntegerPrefix

namespace FormRules

/-- **Values that are alike as numbers**: they are present, are a number as a whole and start with
an integer under the same conditions. -/
structure Value.AlikeAsNumbers (value other : Value) : Prop where
  present : value.isPresent = other.isPresent
  number : value.toNumber? = other.toNumber?
  startsWithInteger : value.toIntegerPrefix?.isSome = other.toIntegerPrefix?.isSome

namespace Rule

/-- The rules that look at presence and numbers only. -/
def onNumbers : List Rule :=
  [required, natural, naturalPositive, numeric, minNumber, maxNumber]

variable {value other : Value}

theorem fails_eq_of_alike (alike : value.AlikeAsNumbers other) {rule : Rule}
    (onNumber : rule ∈ onNumbers) (bound : Binary64) :
    rule.fails bound value = rule.fails bound other := by
  obtain ⟨present, number, startsWithInteger⟩ := alike
  have isIntegerFrom (least : Binary64) :
      value.isIntegerFrom least = other.isIntegerFrom least := by
    rw [Value.isIntegerFrom, Value.isIntegerFrom, number, startsWithInteger]
  have numberIs (property : Binary64 → Bool) :
      value.numberIs property = other.numberIs property := by
    rw [Value.numberIs, Value.numberIs, present, number]
  cases rule with
  | required => rw [fails, fails, present]
  | natural | naturalPositive => rw [fails, fails, present, isIntegerFrom]
  | numeric => rw [fails, fails, present, number]
  | minNumber | maxNumber => rw [fails, fails, numberIs]
  | str | minLength | maxLength | validEmail => exact absurd onNumber (by decide)

/-- Values that are alike as numbers pass the same checks for presence and for numbers, with the
same failures and errors. Neither the bound nor the record of a failure depends on the value. -/
theorem check_eq_of_alike (alike : value.AlikeAsNumbers other) {rule : Rule}
    (onNumber : rule ∈ onNumbers) (input : CheckInput) :
    rule.check { input with value := value } = rule.check { input with value := other } := by
  rw [check_eq, check_eq]
  change (rule.bound { input with value := other }).map _ = _
  refine congrArg (Except.map · _) (funext fun bound => ?_)
  rw [fails_eq_of_alike alike onNumber]
  rfl

end Rule

/-- A finite number other than zero and a plain literal that reads back as this number are alike as
numbers. -/
theorem Value.alikeAsNumbers_of_isPlain {amount : Binary64} {exact : ℚ} {content : String}
    {literal : Decimal.Literal} (finite : amount.value? = some exact) (notZero : exact ≠ 0)
    (isPlain : literal.IsPlain content.toList)
    (readsBack : parseNumber content.toList = some amount) :
    (number amount).AlikeAsNumbers (text content) := by
  have spells : literal.Spells (Text.trim content.toList) := by
    rw [isPlain.spells.trim_eq]
    exact isPlain.spells
  have starts := (isSome_parseIntegerPrefix_iff spells).2 isPlain.whole_ne_nil
  have something : content ≠ "" := by
    rintro rfl
    exact isPlain.ne_nil rfl
  cases amount with
  | nan => cases finite
  | infinite negative => cases finite
  | finite negative magnitude =>
    have someUnits : magnitude.units ≠ 0 := by
      intro nothing
      obtain rfl := Option.some.inj finite
      rw [Magnitude.exact, nothing, Nat.cast_zero, zero_div, signed_zero] at notZero
      exact notZero rfl
    refine ⟨?_, ?_, ?_⟩
    · rw [isPresent, isPresent, Binary64.isZero, decide_eq_false someUnits,
        decide_eq_true something]
      rfl
    · rw [toNumber?, toNumber?, readsBack]
      rfl
    · rw [toIntegerPrefix?, toIntegerPrefix?, starts]
      rfl

namespace Rule

/-- **A number and its text are checked alike.** A finite number other than zero and the text that
it is written as have the same result under every rule on presence and numbers, for every parameter,
field, label and template. The same holds for any other way to write the number as digits behind an
optional minus sign, with an optional fraction and without a power of ten, that reads back. -/
theorem number_checked_like_its_text {amount : Binary64} {exact : ℚ}
    (finite : amount.value? = some exact) (notZero : exact ≠ 0) {rule : Rule}
    (onNumber : rule ∈ onNumbers) (input : CheckInput) :
    rule.check { input with value := .number amount } =
        rule.check { input with value := .text amount.text } ∧
      ∀ (content : String) (literal : Decimal.Literal), literal.IsPlain content.toList →
        parseNumber content.toList = some amount →
        rule.check { input with value := .number amount } =
          rule.check { input with value := .text content } := by
  have written (content : String) (literal : Decimal.Literal)
      (isPlain : literal.IsPlain content.toList)
      (readsBack : parseNumber content.toList = some amount) :=
    check_eq_of_alike (Value.alikeAsNumbers_of_isPlain finite notZero isPlain readsBack) onNumber
      input
  refine ⟨?_, written⟩
  cases amount with
  | nan => cases finite
  | infinite negative => cases finite
  | finite negative magnitude =>
    obtain ⟨literal, isPlain, _⟩ := Binary64.exists_isPlain_text negative magnitude
    exact written _ literal isPlain (Binary64.parseNumber_text negative magnitude)

/-- The number `-5 / 2`. -/
def minusFiveHalves : Binary64 :=
  .finite true ⟨5 * Nat.pow 2 1073, by decide +kernel⟩

theorem value?_minusFiveHalves : minusFiveHalves.value? = some (-5 / 2) := by
  have halves : 5 * Nat.pow 2 1073 * 2 = 5 * unitsPerOne := by decide +kernel
  rw [minusFiveHalves, Binary64.value?, Magnitude.exact, signed_true]
  refine congrArg some ?_
  dsimp only
  generalize 5 * Nat.pow 2 1073 = units at halves
  have inRationals : (units : ℚ) * 2 = 5 * unitsPerOne := by exact_mod_cast halves
  have positive := cast_unitsPerOne_pos
  field_simp
  linarith

/-- A negative number with a fraction under a bound, written with as few digits as possible and with
one more. -/
theorem number_checked_like_its_text_fraction :
    minusFiveHalves.value? = some (-5 / 2) ∧ (-5 / 2 : ℚ) ≠ 0 ∧ minNumber ∈ onNumbers ∧
    minNumber.check ⟨"min", "offset", .number minusFiveHalves, some "-2", "Offset", "Low!"⟩ =
      minNumber.check
        ⟨"min", "offset", .text minusFiveHalves.text, some "-2", "Offset", "Low!"⟩ ∧
    (Decimal.Literal.mk true ['2'] ['5', '0'] 0).IsPlain "-2.50".toList ∧
      parseNumber "-2.50".toList = some minusFiveHalves ∧
    minNumber.check ⟨"min", "offset", .number minusFiveHalves, some "-2", "Offset", "Low!"⟩ =
      .ok (some ⟨"min", "offset", "Offset", "Low!", some "-2"⟩) := by
  have notZero : (-5 / 2 : ℚ) ≠ 0 := by norm_num
  have onNumber : minNumber ∈ onNumbers := by decide
  have digits : Decimal.IsRun ['2'] ∧ Decimal.IsRun ['5', '0'] :=
    ⟨List.all_eq_true.1 (by decide), List.all_eq_true.1 (by decide)⟩
  have isPlain : (Decimal.Literal.mk true ['2'] ['5', '0'] 0).IsPlain "-2.50".toList :=
    .fraction true (by decide) digits.1 (by decide) digits.2
  have readsBack : parseNumber "-2.50".toList = some minusFiveHalves := by decide +kernel
  obtain ⟨written, otherwise⟩ :=
    number_checked_like_its_text value?_minusFiveHalves notZero onNumber
      ⟨"min", "offset", .null, some "-2", "Offset", "Low!"⟩
  refine ⟨value?_minusFiveHalves, notZero, onNumber, written, isPlain, readsBack,
    (otherwise _ _ isPlain readsBack).trans ?_⟩
  decide +kernel

end Rule

end FormRules
