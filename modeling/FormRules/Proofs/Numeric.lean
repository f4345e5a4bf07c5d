/-
**What counts as a number.**

A value holds a finite number if it is one or if its text is one. The check for numbers refuses the
values that hold none, and these pass the checks with bounds. An infinite number is the exception:
it holds no finite number, but it is no NaN either, so it passes as a number and lies beyond every
bound.

* `Value.HoldsNumber`: the values with a finite number, and `Value.toNumber?_eq_some_iff`: all that
  is read as a number besides them is infinite;
* `Value.LacksWhole`: the texts of numbers without a digit before the point, and
  `Value.HoldsNumber.startsWithInteger_iff`: only these do not start with an integer;
* `Rule.numeric_of_present` is the result, and `Rule.infinity_is_numeric` is its exception.
-/

import FormRules.Proofs.Bounds
import FormRules.Proofs.IntegerPrefix

namespace FormRules

/-! ### Infinite numbers -/

namespace Binary64

variable {number : Binary64} {exact : ℚ}

/-- Finite numbers lie between the infinite ones. -/
theorem natAbs_place_lt (finite : number.value? = some exact) :
    ∃ place : Int, number.place? = some place ∧ place.natAbs < unitsBeyond := by
  cases number with
  | nan => cases finite
  | infinite negative => cases finite
  | finite negative magnitude =>
    have below := (isMagnitude_iff.1 magnitude.isMagnitude).1
    refine ⟨_, rfl, ?_⟩
    cases negative
    · exact below
    · rw [place?.withSign, if_pos rfl, Int.natAbs_neg]
      exact below

/-- The negative infinity is less than every finite number, the positive one than none. -/
theorem infinite_lt (negative : Bool) (finite : number.value? = some exact) :
    (infinite negative).lt number = negative := by
  obtain ⟨place, isPlace, inside⟩ := natAbs_place_lt finite
  have compared : (infinite negative).lt number =
      decide (place?.withSign negative unitsBeyond < place) := by
    rw [lt, isPlace, place?]
  rw [compared, place?.withSign]
  cases negative
  · exact decide_eq_false (by rw [if_neg Bool.false_ne_true]; omega)
  · exact decide_eq_true (by rw [if_pos rfl]; omega)

/-- Every finite number is less than the positive infinity, and none than the negative one. -/
theorem lt_infinite (negative : Bool) (finite : number.value? = some exact) :
    number.lt (infinite negative) = !negative := by
  obtain ⟨place, isPlace, inside⟩ := natAbs_place_lt finite
  have compared : number.lt (infinite negative) =
      decide (place < place?.withSign negative unitsBeyond) := by
    rw [lt, isPlace, place?]
  rw [compared, place?.withSign]
  cases negative
  · exact decide_eq_true (by rw [if_neg Bool.false_ne_true]; omega)
  · exact decide_eq_false (by rw [if_pos rfl]; omega)

end Binary64

/-! ### Values with a number -/

namespace Value

variable {value : Value} {amount : Binary64}

/-- **A value holds a finite number**: it is this number, or a text that reads as this number. -/
inductive HoldsNumber : Value → Binary64 → Prop
  | number (negative : Bool) (magnitude : Magnitude) :
      HoldsNumber (.number (.finite negative magnitude)) (.finite negative magnitude)
  | text {content : String} {amount : Binary64} (reads : parseNumber content.toList = some amount) :
      HoldsNumber (.text content) amount

/-- A text that is a literal without a digit before its point. -/
def LacksWhole (value : Value) : Prop :=
  ∃ (content : String) (literal : Decimal.Literal), value = .text content ∧
    literal.Spells (Text.trim content.toList) ∧ literal.whole = []

/-- What is read as a number is finite, or it is filled in as an infinite number. -/
theorem toNumber?_eq_some_iff : value.toNumber? = some amount ↔ value.HoldsNumber amount ∨
    ∃ negative, value = .number (.infinite negative) ∧ amount = .infinite negative := by
  constructor
  · intro read
    cases value with
    | bool truth => cases read
    | null => cases read
    | text content => exact .inl (.text read)
    | number filledIn =>
      cases filledIn with
      | nan => cases read
      | infinite negative =>
        cases read
        exact .inr ⟨negative, rfl, rfl⟩
      | finite negative magnitude =>
        cases read
        exact .inl (.number negative magnitude)
  · rintro (holds | ⟨negative, rfl, rfl⟩)
    · cases holds with
      | number negative magnitude => rfl
      | text reads => exact reads
    · rfl

theorem HoldsNumber.toNumber? (holds : value.HoldsNumber amount) :
    value.toNumber? = some amount :=
  toNumber?_eq_some_iff.2 (.inl holds)

theorem HoldsNumber.exists_value? (holds : value.HoldsNumber amount) :
    ∃ exact, amount.value? = some exact := by
  cases holds with
  | number negative magnitude => exact ⟨_, rfl⟩
  | text reads =>
    obtain ⟨_, _, _, rfl, _⟩ := parseNumber_eq_some_iff.1 reads
    exact ⟨_, rfl⟩

/-- A value with a number starts with an integer unless it lacks a digit before its point. -/
theorem HoldsNumber.startsWithInteger_iff (holds : value.HoldsNumber amount) :
    value.toIntegerPrefix?.isSome = true ↔ ¬ value.LacksWhole := by
  cases holds with
  | number negative magnitude =>
    refine iff_of_true rfl ?_
    rintro ⟨content, literal, ⟨⟩, _⟩
  | @text content amount reads =>
    obtain ⟨literal, _, spells, _⟩ := parseNumber_eq_some_iff.1 reads
    refine (isSome_parseIntegerPrefix_iff spells).trans (not_congr ?_)
    constructor
    · intro nothing
      exact ⟨content, literal, rfl, spells, nothing⟩
    · rintro ⟨_, other, ⟨rfl⟩, otherSpells, nothing⟩
      rwa [spells.unique otherSpells]

end Value

/-! ### Checks -/

namespace Rule

variable {input : CheckInput} {amount : Binary64} {exact : ℚ}

/-- The checks with bounds on numbers pass what is read as no number. -/
theorem check_bounds_of_no_number {parameter : String} {bound : Binary64}
    (given : input.parameter = some parameter) (read : parseNumber parameter.toList = some bound)
    (noNumber : input.value.toNumber? = none) :
    minNumber.check input = .ok none ∧ maxNumber.check input = .ok none := by
  have never (property : Binary64 → Bool) : input.value.numberIs property = false := by
    rw [Value.numberIs, noNumber, Option.any_none, Bool.and_false]
  rw [check_of_parseNumber rfl given read, check_of_parseNumber rfl given read, fails, fails, never,
    never]
  exact ⟨rfl, rfl⟩

/-- An infinite number lies beyond every bound. -/
theorem check_bounds_of_infinite {parameter : String} {bound : Binary64} {negative : Bool}
    (given : input.parameter = some parameter) (read : parseNumber parameter.toList = some bound)
    (infinite : input.value = .number (.infinite negative)) :
    minNumber.check input = .ok (input.failIf negative) ∧
      maxNumber.check input = .ok (input.failIf !negative) := by
  obtain ⟨_, _, _, rfl, _⟩ := parseNumber_eq_some_iff.1 read
  rw [check_of_parseNumber rfl given read, check_of_parseNumber rfl given read, infinite, fails,
    fails, Value.numberIs_eq rfl rfl, Value.numberIs_eq rfl rfl, Binary64.infinite_lt negative rfl,
    Binary64.lt_infinite negative rfl]
  exact ⟨rfl, rfl⟩

/-- A present value with a number is no natural number exactly if it lacks a digit before its point
or is negative. -/
theorem natural_fails_iff (present : input.value.isPresent = true)
    (holds : input.value.HoldsNumber amount) (finite : amount.value? = some exact) :
    natural.fails (.ofNat 0) input.value = true ↔ input.value.LacksWhole ∨ exact < 0 := by
  have zero : (Binary64.ofNat 0).value? = some ((0 : Int) : ℚ) := by
    refine Binary64.Rounds.value?_of_natAbs_le ?_ (Nat.zero_le _)
    exact_mod_cast Binary64.rounds_ofNat (Nat.zero_le _)
  rw [fails, present, Bool.true_and, Value.isIntegerFrom, holds.toNumber?, Option.any_some,
    Bool.not_and, Bool.not_not, Bool.or_eq_true, Binary64.lt_eq_true_iff finite zero, Int.cast_zero,
    Bool.not_eq_true', ← Bool.not_eq_true, holds.startsWithInteger_iff, not_not]

/-- **The check for numbers alone refuses what is no number.** A present value with a finite number
passes it, and fails the check for natural numbers only for want of a digit before its point or for
being negative. Every other present value fails it and passes the checks with bounds, except for the
two infinite numbers: these pass it and lie beyond every bound. -/
theorem numeric_of_present (present : input.value.isPresent = true) :
    (∀ amount exact, input.value.HoldsNumber amount → amount.value? = some exact →
      numeric.check input = .ok none ∧ ∀ failure,
        natural.check input = .ok (some failure) ↔
          (input.value.LacksWhole ∨ exact < 0) ∧ failure = input.fail) ∧
    ((∀ amount, ¬ input.value.HoldsNumber amount) →
      (∀ negative, input.value ≠ .number (.infinite negative)) →
        numeric.check input = .ok (some input.fail) ∧ ∀ parameter bound,
          input.parameter = some parameter → parseNumber parameter.toList = some bound →
            minNumber.check input = .ok none ∧ maxNumber.check input = .ok none) ∧
    ∀ negative, input.value = .number (.infinite negative) →
      numeric.check input = .ok none ∧ ∀ parameter bound,
        input.parameter = some parameter → parseNumber parameter.toList = some bound →
          minNumber.check input = .ok (input.failIf negative) ∧
            maxNumber.check input = .ok (input.failIf !negative) := by
  have numericIs : numeric.check input = .ok (input.failIf input.value.toNumber?.isNone) := by
    rw [check, present, Bool.true_and]
  refine ⟨fun amount exact holds finite => ⟨?_, fun failure => ?_⟩,
    fun noNumber notInfinite => ?_, fun negative infinite => ⟨?_, fun parameter bound given read =>
      check_bounds_of_infinite given read infinite⟩⟩
  · rw [numericIs, holds.toNumber?]
    rfl
  · rw [check_eq_some_iff, ← natural_fails_iff present holds finite]
    constructor
    · rintro ⟨bound, isZero, fails, worded⟩
      rw [Except.ok.inj isZero]
      exact ⟨fails, worded⟩
    · rintro ⟨fails, worded⟩
      exact ⟨_, rfl, fails, worded⟩
  · have nothing : input.value.toNumber? = none := by
      refine Option.eq_none_iff_forall_ne_some.2 fun amount read => ?_
      rcases Value.toNumber?_eq_some_iff.1 read with holds | ⟨negative, infinite, _⟩
      · exact noNumber amount holds
      · exact notInfinite negative infinite
    refine ⟨?_, fun parameter bound given read => check_bounds_of_no_number given read nothing⟩
    rw [numericIs, nothing]
    rfl
  · rw [numericIs, infinite]
    rfl

/-- A number without a digit before its point, a text that only starts with a number, and the
negative infinity. -/
theorem numeric_of_present_each :
    (Value.text "-.5").isPresent = true ∧
      numeric.check ⟨"numeric", "rate", .text "-.5", none, "Rate", "No!"⟩ = .ok none ∧
      natural.check ⟨"natural", "rate", .text "-.5", none, "Rate", "No!"⟩ =
        .ok (some ⟨"natural", "rate", "Rate", "No!", none⟩) ∧
    (Value.text "12px").isPresent = true ∧
      numeric.check ⟨"min", "width", .text "12px", some "20", "Width", "No!"⟩ =
        .ok (some ⟨"min", "width", "Width", "No!", some "20"⟩) ∧
      minNumber.check ⟨"min", "width", .text "12px", some "20", "Width", "No!"⟩ = .ok none ∧
    (Value.number (.infinite true)).isPresent = true ∧
      minNumber.check ⟨"min", "rate", .number (.infinite true), some "20", "Rate", "No!"⟩ =
        .ok (some ⟨"min", "rate", "Rate", "No!", some "20"⟩) := by
  have twenty : parseNumber "20".toList = some (.ofNat 20) := by decide +kernel
  obtain ⟨half, reads⟩ : ∃ half, parseNumber "-.5".toList = some half :=
    Option.isSome_iff_exists.1 (by decide +kernel)
  have holds : (Value.text "-.5").HoldsNumber half := .text reads
  obtain ⟨exact, finite⟩ := holds.exists_value?
  have lacksWhole : (Value.text "-.5").LacksWhole :=
    ⟨"-.5", ⟨true, [], ['5'], 0⟩, rfl, Decimal.Literal.read?_eq_some_iff.1 (by decide), rfl⟩
  have noNumber (amount : Binary64) : ¬ (Value.text "12px").HoldsNumber amount := by
    rintro ⟨⟩
    next reads =>
      have nothing : parseNumber "12px".toList = none := by decide +kernel
      rw [nothing] at reads
      cases reads
  have isPresent : (Value.text "-.5").isPresent = true ∧ (Value.text "12px").isPresent = true ∧
      (Value.number (.infinite true)).isPresent = true := by decide
  obtain ⟨ofHalf, _⟩ :=
    @numeric_of_present ⟨"numeric", "rate", .text "-.5", none, "Rate", "No!"⟩ isPresent.1
  obtain ⟨ofHalfNatural, _⟩ :=
    @numeric_of_present ⟨"natural", "rate", .text "-.5", none, "Rate", "No!"⟩ isPresent.1
  obtain ⟨_, ofPixels, _⟩ :=
    @numeric_of_present ⟨"min", "width", .text "12px", some "20", "Width", "No!"⟩ isPresent.2.1
  obtain ⟨_, _, ofInfinite⟩ :=
    @numeric_of_present ⟨"min", "rate", .number (.infinite true), some "20", "Rate", "No!"⟩
      isPresent.2.2
  obtain ⟨refused, passed⟩ := ofPixels noNumber (by rintro _ ⟨⟩)
  refine ⟨isPresent.1, (ofHalf _ _ holds finite).1,
    ((ofHalfNatural _ _ holds finite).2 _).2 ⟨.inl lacksWhole, by decide +kernel⟩, isPresent.2.1,
    refused.trans (by decide +kernel), (passed _ _ rfl twenty).1, isPresent.2.2,
    ((ofInfinite true rfl).2 _ _ rfl twenty).1.trans (by decide +kernel)⟩

/-- The positive infinity holds no finite number. Still it passes the check for numbers, and fails
under an upper bound. -/
theorem infinity_is_numeric :
    (Value.number (.infinite false)).isPresent = true ∧
      (∀ amount, ¬ (Value.number (.infinite false)).HoldsNumber amount) ∧
      numeric.check ⟨"numeric", "field", .number (.infinite false), none, "Field",
        "The #fieldLabel# must be a number!"⟩ = .ok none ∧
      (parseNumber "5".toList).isSome = true ∧
      maxNumber.check ⟨"maxNumber", "field", .number (.infinite false), some "5", "Field",
        "The #fieldLabel# must be maximum #fieldSize#!"⟩ =
          .ok (some ⟨"maxNumber", "field", "Field", "The Field must be maximum 5!", some "5"⟩) := by
  refine ⟨rfl, ?_, rfl, by decide +kernel, by decide +kernel⟩
  rintro _ ⟨⟩

end Rule

end FormRules
