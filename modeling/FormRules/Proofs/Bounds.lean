/-
**Bounds in exact arithmetic.**

A bound and a value are both rounded before they are compared. Rounding respects order, so a value
that keeps a bound is never refused, and small integers are not changed, so for these the comparison
is the exact one. Lengths are numbers for this purpose.

* `Value.Denotes` and `Decimal.Denotes` are the exact values of what is compared;
* `Rule.JudgesExactly` says how a check for the lower side and one for the upper side of a bound
  relate to the exact values, and `Rule.judgesExactly_of_rounds` shows it from rounding alone;
* `Rule.bounds_exact` is the result for numbers and for lengths.
-/

import FormRules.Proofs.BuiltinCheck
import FormRules.Proofs.Decimal.Number

namespace FormRules

/-! ### Exact values -/

/-- A text that is a number, and the exact value of its literal. -/
def Decimal.Denotes (text : List Char) (exact : ℚ) : Prop :=
  (parseNumber text).isSome = true ∧
    ∃ literal : Literal, literal.Spells (Text.trim text) ∧ literal.exact = exact

/-- A value that is a finite number or a text that is one, and its exact value. -/
inductive Value.Denotes : Value → ℚ → Prop
  | number {amount : Binary64} {exact : ℚ} (finite : amount.value? = some exact) :
      Denotes (.number amount) exact
  | text {content : String} {exact : ℚ} (denotes : Decimal.Denotes content.toList exact) :
      Denotes (.text content) exact

theorem Decimal.Denotes.exists_rounds {text : List Char} {exact : ℚ}
    (denotes : Decimal.Denotes text exact) :
    ∃ number, parseNumber text = some number ∧ Binary64.Rounds exact number := by
  obtain ⟨isNumber, literal, spells, rfl⟩ := denotes
  obtain ⟨number, found⟩ := Option.isSome_iff_exists.1 isNumber
  obtain ⟨read, magnitude, readSpells, rfl, roundsTo⟩ := parseNumber_eq_some_iff.1 found
  obtain rfl := readSpells.unique spells
  exact ⟨_, found, .intro read.negative read.size_nonneg roundsTo⟩

theorem Value.Denotes.exists_rounds {value : Value} {exact : ℚ} (denotes : value.Denotes exact) :
    ∃ number, value.toNumber? = some number ∧ Binary64.Rounds exact number := by
  cases denotes with
  | @number amount exact finite =>
    have notNan : ¬ amount.isNan = true := by
      intro isNan
      cases amount with
      | nan => cases finite
      | infinite | finite => cases isNan
    exact ⟨amount, if_neg notNan, Binary64.rounds_self finite⟩
  | text denotes => exact denotes.exists_rounds

namespace Binary64

/-! ### Comparing rounded values -/

/-- Small integers compare as they are. -/
theorem Rounds.lt_eq_of_integers {number other : Binary64} {integer otherInteger : Int}
    (rounds : Rounds integer number) (otherRounds : Rounds otherInteger other)
    (small : integer.natAbs ≤ 2 ^ 53) (otherSmall : otherInteger.natAbs ≤ 2 ^ 53) :
    number.lt other = decide (integer < otherInteger) := by
  rw [Bool.eq_iff_iff, decide_eq_true_eq, lt_eq_true_iff (rounds.value?_of_natAbs_le small)
    (otherRounds.value?_of_natAbs_le otherSmall), Int.cast_lt]

theorem two_pow_lt_end : (2 : ℚ) ^ 53 < 2 ^ 1024 - 2 ^ 970 := by
  have step : (2 : ℚ) ^ 53 < 2 ^ 970 := pow_lt_pow_right₀ (by norm_num) (by norm_num)
  have twice : (2 : ℚ) ^ 970 + 2 ^ 970 ≤ 2 ^ 1024 :=
    calc (2 : ℚ) ^ 970 + 2 ^ 970 = 2 ^ (970 + 1) := ((pow_succ 2 970).trans (mul_two _)).symm
      _ ≤ 2 ^ 1024 := pow_le_pow_right₀ (by norm_num) (by norm_num)
  exact lt_sub_iff_add_lt.2 ((add_lt_add_left step _).trans_le twice)

/-- Small integers are far from the end of the finite numbers. -/
theorem abs_cast_lt_end {integer : Int} (small : integer.natAbs ≤ 2 ^ 53) :
    |(integer : ℚ)| < 2 ^ 1024 - 2 ^ 970 := by
  rw [← Int.cast_abs, ← Nat.cast_natAbs]
  exact lt_of_le_of_lt (by exact_mod_cast small) two_pow_lt_end

/-- A number of characters as a binary64 number. -/
theorem rounds_ofNat {number : Nat} (small : number ≤ 2 ^ 53) : Rounds number (ofNat number) := by
  have roundsTo := roundsTo_nearestUnits number Nat.one_pos
  rw [Nat.cast_one, div_one] at roundsTo
  have inRange : (number : ℚ) < 2 ^ 1024 - 2 ^ 970 :=
    (le_abs_self _).trans_lt (@abs_cast_lt_end number small)
  have finite := roundsTo.lt_unitsBeyond_iff.2
    (mul_lt_mul_of_pos_right inRange cast_unitsPerOne_pos)
  have isMagnitude : IsMagnitude (nearestUnits number 1) :=
    isMagnitude_iff.2 ⟨finite, roundsTo.representable⟩
  have shape : ofNat number = .finite false ⟨_, isMagnitude⟩ := by
    rw [ofNat, Magnitude.nearest?, Magnitude.ofUnits?, dif_pos isMagnitude, ofMagnitude]
  rw [shape]
  exact .intro false (Nat.cast_nonneg number) roundsTo

end Binary64

/-! ### What is compared -/

namespace Value

variable {value : Value} {number : Binary64}

theorem numberIs_eq (present : value.isPresent = true) (known : value.toNumber? = some number)
    (property : Binary64 → Bool) : value.numberIs property = property number := by
  rw [numberIs, present, known, Option.any_some, Bool.true_and]

theorem exists_number_of_numberIs (property : Binary64 → Bool)
    (holds : value.numberIs property = true) :
    ∃ number, value.toNumber? = some number ∧ property number = true := by
  rw [numberIs, Bool.and_eq_true, Option.any_eq_true] at holds
  exact holds.2

theorem exists_length_of_lengthIs (property : Binary64 → Bool)
    (holds : value.lengthIs property = true) :
    ∃ length, value.length? = some length ∧ property (.ofNat length) = true := by
  rw [lengthIs, Bool.and_eq_true, Option.any_eq_true] at holds
  exact holds.2

theorem lengthIs_text {content : String} (something : content ≠ "")
    (property : Binary64 → Bool) :
    (text content).lengthIs property = property (.ofNat content.length) := by
  have present : (text content).isPresent = true := decide_eq_true something
  rw [lengthIs, present, Bool.true_and]
  rfl

end Value

namespace Rule

variable {input : CheckInput}

/-- **Two checks judge a value by a bound as exact arithmetic does.** Neither refuses a value on its
side of the bound, and between small integers both are exact. -/
structure JudgesExactly (lower upper : Rule) (input : CheckInput) (exact bound : ℚ) : Prop where
  passesAbove : bound ≤ exact → lower.check input = .ok none
  passesBelow : exact ≤ bound → upper.check input = .ok none
  integers : ∀ whole limit : Int, exact = whole → bound = limit →
    whole.natAbs ≤ 2 ^ 53 → limit.natAbs ≤ 2 ^ 53 →
      lower.check input = .ok (input.failIf (whole < limit)) ∧
        upper.check input = .ok (input.failIf (limit < whole))

/-- Checks that compare the rounded value with the rounded bound judge exactly. -/
theorem judgesExactly_of_rounds {lower upper : Rule} {exact bound : ℚ}
    {number rounded : Binary64} (rounds : Binary64.Rounds exact number)
    (boundRounds : Binary64.Rounds bound rounded)
    (lowerIs : lower.check input = .ok (input.failIf (number.lt rounded)))
    (upperIs : upper.check input = .ok (input.failIf (rounded.lt number))) :
    JudgesExactly lower upper input exact bound where
  passesAbove keeps := by
    rw [lowerIs, boundRounds.lt_eq_false rounds keeps]
    rfl
  passesBelow keeps := by
    rw [upperIs, rounds.lt_eq_false boundRounds keeps]
    rfl
  integers := by
    rintro whole limit rfl rfl small limitSmall
    rw [lowerIs, upperIs, rounds.lt_eq_of_integers boundRounds small limitSmall,
      boundRounds.lt_eq_of_integers rounds limitSmall small]
    exact ⟨rfl, rfl⟩

/-- A check with a bound reads it from its parameter. -/
theorem check_of_parseNumber {rule : Rule} {parameter : String} {bound : Binary64}
    (takes : rule.takesParameter = true) (given : input.parameter = some parameter)
    (read : parseNumber parameter.toList = some bound) :
    rule.check input = .ok (input.failIf (rule.fails bound input.value)) := by
  rw [check_eq, Rule.bound, if_pos takes, CheckInput.numericParameter, given]
  simp only [read]
  rfl

/-- A failed check with a bound has read a bound under which the value fails. -/
theorem exists_parseNumber_of_check {rule : Rule} {failure : Failure}
    (takes : rule.takesParameter = true) (failed : rule.check input = .ok (some failure)) :
    ∃ parameter bound, input.parameter = some parameter ∧
      parseNumber parameter.toList = some bound ∧ rule.fails bound input.value = true := by
  obtain ⟨bound, read, fails, _⟩ := check_eq_some_iff.1 failed
  rw [Rule.bound, if_pos takes, CheckInput.numericParameter] at read
  split at read
  · cases read
  · next parameter given =>
    split at read
    · next number isNumber =>
      obtain rfl := Except.ok.inj read
      exact ⟨parameter, number, given, isNumber, fails⟩
    · cases read

/-- Two checks with bounds that fail on the same value and parameter do so under the same bound. -/
theorem exists_bound_of_checks {lower upper : Rule} {minimum maximum : CheckInput}
    {failure otherFailure : Failure} (lowerTakes : lower.takesParameter = true)
    (upperTakes : upper.takesParameter = true) (sameValue : minimum.value = maximum.value)
    (sameParameter : minimum.parameter = maximum.parameter)
    (low : lower.check minimum = .ok (some failure))
    (high : upper.check maximum = .ok (some otherFailure)) :
    ∃ bound, lower.fails bound maximum.value = true ∧ upper.fails bound maximum.value = true := by
  obtain ⟨parameter, bound, given, read, fails⟩ := exists_parseNumber_of_check lowerTakes low
  obtain ⟨other, otherBound, otherGiven, otherRead, otherFails⟩ :=
    exists_parseNumber_of_check upperTakes high
  rw [sameParameter, otherGiven] at given
  obtain rfl := Option.some.inj given
  obtain rfl := Option.some.inj (read.symm.trans otherRead)
  exact ⟨bound, sameValue ▸ fails, otherFails⟩

/-- No number is below a bound and above it. -/
theorem fails_maxNumber_eq_false {bound : Binary64} {value : Value}
    (below : minNumber.fails bound value = true) : maxNumber.fails bound value = false := by
  refine Bool.eq_false_iff.2 fun above => ?_
  obtain ⟨number, known, below⟩ := Value.exists_number_of_numberIs (·.lt bound) below
  obtain ⟨same, knownSame, above⟩ := Value.exists_number_of_numberIs bound.lt above
  obtain rfl := Option.some.inj (known.symm.trans knownSame)
  exact Bool.eq_false_iff.1 (Binary64.not_lt_of_lt below) above

/-- No text is shorter than a bound and longer than it. -/
theorem fails_maxLength_eq_false {bound : Binary64} {value : Value}
    (below : minLength.fails bound value = true) : maxLength.fails bound value = false := by
  refine Bool.eq_false_iff.2 fun above => ?_
  obtain ⟨length, known, below⟩ := Value.exists_length_of_lengthIs (·.lt bound) below
  obtain ⟨same, knownSame, above⟩ := Value.exists_length_of_lengthIs bound.lt above
  obtain rfl := Option.some.inj (known.symm.trans knownSame)
  exact Bool.eq_false_iff.1 (Binary64.not_lt_of_lt below) above

/-- **Bounds are right in exact arithmetic.** A finite number, or a text that is one, is never
refused on its side of a bound, although both are rounded; between integers up to `2 ^ 53` the
checks are exact. The same holds for the length of a text. No value is both below and above one
bound. -/
theorem bounds_exact :
    (∀ (input : CheckInput) (parameter : String) (bound exact : ℚ),
      input.parameter = some parameter → Decimal.Denotes parameter.toList bound →
      input.value.isPresent = true → input.value.Denotes exact →
      JudgesExactly .minNumber .maxNumber input exact bound) ∧
    (∀ (input : CheckInput) (parameter content : String) (bound : ℚ),
      input.parameter = some parameter → Decimal.Denotes parameter.toList bound →
      input.value = .text content → content ≠ "" → content.length ≤ 2 ^ 53 →
      JudgesExactly .minLength .maxLength input content.length bound) ∧
    ∀ (minimum maximum : CheckInput) (failure otherFailure : Failure),
      minimum.value = maximum.value → minimum.parameter = maximum.parameter →
      ¬ (Rule.minNumber.check minimum = .ok (some failure) ∧
        Rule.maxNumber.check maximum = .ok (some otherFailure)) ∧
      ¬ (Rule.minLength.check minimum = .ok (some failure) ∧
        Rule.maxLength.check maximum = .ok (some otherFailure)) := by
  refine ⟨fun input parameter bound exact given isBound present denotes => ?_,
    fun input parameter content bound given isBound isText something short => ?_,
    fun minimum maximum failure otherFailure sameValue sameParameter =>
      ⟨fun ⟨low, high⟩ => ?_, fun ⟨low, high⟩ => ?_⟩⟩
  · obtain ⟨rounded, read, boundRounds⟩ := isBound.exists_rounds
    obtain ⟨number, known, rounds⟩ := denotes.exists_rounds
    refine judgesExactly_of_rounds rounds boundRounds ?_ ?_ <;>
      rw [check_of_parseNumber rfl given read, fails, Value.numberIs_eq present known]
  · obtain ⟨rounded, read, boundRounds⟩ := isBound.exists_rounds
    refine judgesExactly_of_rounds (Binary64.rounds_ofNat short) boundRounds ?_ ?_ <;>
      rw [check_of_parseNumber rfl given read, isText, fails, Value.lengthIs_text something]
  · obtain ⟨bound, below, above⟩ := exists_bound_of_checks rfl rfl sameValue sameParameter low high
    exact Bool.eq_false_iff.1 (fails_maxNumber_eq_false below) above
  · obtain ⟨bound, below, above⟩ := exists_bound_of_checks rfl rfl sameValue sameParameter low high
    exact Bool.eq_false_iff.1 (fails_maxLength_eq_false below) above

/-- A number on its bound, written in another way, a text that is as long as its bound, and a number
below a bound. -/
theorem bounds_exact_on_bound :
    Decimal.Denotes "+10.5".toList (21 / 2) ∧ (Value.text " 1050E-2 ").Denotes (21 / 2) ∧
      maxNumber.check ⟨"max", "age", .text " 1050E-2 ", some "+10.5", "Age", "Too high!"⟩ =
        .ok none ∧
    Decimal.Denotes "3".toList 3 ∧
      minLength.check ⟨"min", "name", .text "Zoë", some "3", "Name", "Too short!"⟩ = .ok none ∧
    minNumber.check ⟨"min", "age", .text "9", some "10", "Age", "Too low!"⟩ =
        .ok (some ⟨"min", "age", "Age", "Too low!", some "10"⟩) ∧
      maxNumber.check ⟨"max", "age", .text "9", some "10", "Age", "Too high!"⟩ ≠
        .ok (some ⟨"max", "age", "Age", "Too high!", some "10"⟩) := by
  obtain ⟨numbers, lengths, never⟩ := bounds_exact
  have limit : Decimal.Denotes "+10.5".toList (21 / 2) := by
    refine ⟨by decide +kernel, ⟨false, ['1', '0'], ['5'], 0⟩,
      Decimal.Literal.read?_eq_some_iff.1 (by decide), ?_⟩
    have digits : Decimal.numberOf ['1', '0'] = 10 ∧ Decimal.numberOf ['5'] = 5 := by decide
    norm_num [Decimal.Literal.exact, Decimal.Literal.size, digits]
  have onLimit : (Value.text " 1050E-2 ").Denotes (21 / 2) := by
    refine .text ⟨by decide +kernel, ⟨false, ['1', '0', '5', '0'], [], -2⟩,
      Decimal.Literal.read?_eq_some_iff.1 (by decide), ?_⟩
    have digits : Decimal.numberOf ['1', '0', '5', '0'] = 1050 ∧ Decimal.numberOf [] = 0 := by
      decide
    norm_num [Decimal.Literal.exact, Decimal.Literal.size, digits]
  have three : Decimal.Denotes "3".toList 3 := by
    refine ⟨by decide +kernel, ⟨false, ['3'], [], 0⟩,
      Decimal.Literal.read?_eq_some_iff.1 (by decide), ?_⟩
    have digits : Decimal.numberOf ['3'] = 3 ∧ Decimal.numberOf [] = 0 := by decide
    norm_num [Decimal.Literal.exact, Decimal.Literal.size, digits]
  have low : minNumber.check ⟨"min", "age", .text "9", some "10", "Age", "Too low!"⟩ =
      .ok (some ⟨"min", "age", "Age", "Too low!", some "10"⟩) := by
    decide +kernel
  refine ⟨limit, onLimit, (numbers _ _ _ _ rfl limit rfl onLimit).passesBelow le_rfl, three,
    (lengths _ _ "Zoë" _ rfl three rfl (by decide) (by decide)).passesAbove ?_, low, fun high => ?_⟩
  · have length : "Zoë".length = 3 := by decide
    norm_num [length]
  · refine (never _ _ _ _ ?_ ?_).1 ⟨low, high⟩ <;> rfl

end Rule

end FormRules
