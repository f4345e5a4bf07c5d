/-
**Exact values of binary64 numbers.**

A finite number is a rational number with a sign of its own, which matters for zero only. The number
nearest to an exact value is described among all finite numbers, and computed by its magnitude.

* `Binary64.value?` is the value of a finite number, and `Binary64.lt_eq_true_iff`: numbers are
  compared by their values;
* `Binary64.IsNearest` says what it means to be the number nearest to a value;
* `Binary64.Rounds`: a number is what a value rounds to, in terms of its magnitude, and
  `Binary64.isNearest_iff_roundsTo` compares the two descriptions;
* `Binary64.Rounds.exact_le`: rounding respects order, and `Binary64.Rounds.value?_of_natAbs_le`:
  integers up to `2 ^ 53` are not changed by it.
-/

import FormRules.Proofs.Binary64.Rounding

namespace FormRules

/-- A value with a sign. -/
def signed (negative : Bool) (size : ℚ) : ℚ :=
  if negative then -size else size

section Signed

variable (negative : Bool) (size : ℚ)

@[simp]
theorem signed_true : signed true size = -size := rfl

@[simp]
theorem signed_false : signed false size = size := rfl

@[simp]
theorem signed_zero : signed negative 0 = 0 := by
  cases negative <;> simp

theorem abs_signed (nonneg : 0 ≤ size) : |signed negative size| = size := by
  cases negative <;> simp [abs_of_nonneg nonneg]

theorem signed_mul (factor : ℚ) :
    signed negative (size * factor) = signed negative size * factor := by
  cases negative <;> simp

/-- Values with one sign are as far apart as their sizes. -/
theorem abs_signed_sub_signed (other : ℚ) :
    |signed negative size - signed negative other| = |size - other| := by
  cases negative
  · rfl
  · rw [signed_true, signed_true, neg_sub_neg, abs_sub_comm]

/-- Values with different signs are as far apart as both sizes together. -/
theorem abs_signed_sub_signed_not (other : ℚ) :
    |signed negative size - signed (!negative) other| = |size + other| := by
  cases negative
  · rw [Bool.not_false, signed_true, signed_false, sub_neg_eq_add]
  · rw [Bool.not_true, signed_true, signed_false, ← abs_neg, neg_sub, sub_neg_eq_add, add_comm]

end Signed

theorem cast_unitsPerOne_pos : (0 : ℚ) < unitsPerOne :=
  Nat.cast_pos.2 unitsPerOne_pos

namespace Magnitude

/-- The exact value of a magnitude. -/
def exact (magnitude : Magnitude) : ℚ :=
  magnitude.units / unitsPerOne

variable (magnitude : Magnitude)

theorem exact_nonneg : 0 ≤ magnitude.exact :=
  div_nonneg (Nat.cast_nonneg _) (Nat.cast_nonneg _)

@[simp]
theorem exact_zero : zero.exact = 0 := by
  rw [exact, units_zero, Nat.cast_zero, zero_div]

theorem representable_units : Representable magnitude.units :=
  (isMagnitude_iff.1 magnitude.isMagnitude).2

@[simp]
theorem exact_mul_unitsPerOne : magnitude.exact * unitsPerOne = magnitude.units :=
  div_mul_cancel₀ _ cast_unitsPerOne_pos.ne'

/-- A distance in units. -/
theorem abs_sub_exact_mul (size : ℚ) :
    |size - magnitude.exact| * unitsPerOne = |size * unitsPerOne - magnitude.units| := by
  rw [← abs_of_pos cast_unitsPerOne_pos, ← abs_mul, abs_of_pos cast_unitsPerOne_pos, sub_mul,
    exact_mul_unitsPerOne]

end Magnitude

namespace Binary64

/-- The exact value of a finite number. -/
def value? : Binary64 → Option ℚ
  | .finite negative magnitude => some (signed negative magnitude.exact)
  | _ => none

/-- The last of the 53 bits of a finite number is zero. -/
def EndsEven : Binary64 → Prop
  | .finite _ magnitude => FormRules.EndsEven magnitude.units
  | _ => False

/-- **A number is the nearest one to an exact value.** It is finite, no finite number is nearer, and
of two values that are equally near it is the one that ends even. -/
def IsNearest (exact : ℚ) (number : Binary64) : Prop :=
  ∃ value, number.value? = some value ∧
    ∀ (other : Binary64) (otherValue : ℚ), other.value? = some otherValue →
      |exact - value| ≤ |exact - otherValue| ∧
        (|exact - value| = |exact - otherValue| → otherValue = value ∨ number.EndsEven)

variable {number other : Binary64} {exact otherExact value otherValue : ℚ}

/-! ### Order -/

theorem cast_withSign (negative : Bool) (size : Nat) :
    ((place?.withSign negative size : Int) : ℚ) = signed negative size := by
  cases negative <;> simp [place?.withSign, signed]

theorem exists_place?_of_value? (finite : number.value? = some value) :
    ∃ place : Int, number.place? = some place ∧ (place : ℚ) = value * unitsPerOne := by
  cases number with
  | nan => cases finite
  | infinite negative => cases finite
  | finite negative magnitude =>
    obtain rfl := Option.some.inj finite
    exact ⟨_, rfl, by rw [cast_withSign, ← signed_mul, Magnitude.exact_mul_unitsPerOne]⟩

theorem lt_eq_true_iff_place? : number.lt other = true ↔
    ∃ place otherPlace, number.place? = some place ∧ other.place? = some otherPlace ∧
      place < otherPlace := by
  unfold lt
  split
  · next place otherPlace isPlace isOtherPlace => simp [isPlace, isOtherPlace]
  · next noPlaces =>
    constructor
    · intro impossible
      cases impossible
    · rintro ⟨place, otherPlace, isPlace, isOtherPlace, _⟩
      exact absurd isOtherPlace (noPlaces place otherPlace isPlace)

/-- **Finite numbers are compared by their exact values.** -/
theorem lt_eq_true_iff (finite : number.value? = some value)
    (otherFinite : other.value? = some otherValue) :
    number.lt other = true ↔ value < otherValue := by
  obtain ⟨place, isPlace, placed⟩ := exists_place?_of_value? finite
  obtain ⟨otherPlace, isOtherPlace, otherPlaced⟩ := exists_place?_of_value? otherFinite
  rw [← mul_lt_mul_iff_of_pos_right cast_unitsPerOne_pos, ← placed, ← otherPlaced, Int.cast_lt,
    lt_eq_true_iff_place?]
  simp [isPlace, isOtherPlace]

/-- No two numbers are each less than the other. -/
theorem not_lt_of_lt (less : number.lt other = true) : other.lt number = false := by
  obtain ⟨place, otherPlace, isPlace, isOtherPlace, below⟩ := lt_eq_true_iff_place?.1 less
  refine Bool.eq_false_iff.2 fun above => ?_
  obtain ⟨samePlace, sameOther, isSame, isSameOther, above⟩ := lt_eq_true_iff_place?.1 above
  obtain rfl := Option.some.inj (isPlace.symm.trans isSameOther)
  obtain rfl := Option.some.inj (isOtherPlace.symm.trans isSame)
  omega

/-! ### Rounding -/

/-- **A number is what an exact value rounds to**: its magnitude is the one nearest to the size of
the value. -/
inductive Rounds : ℚ → Binary64 → Prop
  | intro (negative : Bool) {size : ℚ} {magnitude : Magnitude} (nonneg : 0 ≤ size)
      (roundsTo : RoundsTo (size * unitsPerOne) magnitude.units) :
      Rounds (signed negative size) (.finite negative magnitude)

theorem rounds_self {number : Binary64} (finite : number.value? = some value) :
    Rounds value number := by
  cases number with
  | nan => cases finite
  | infinite negative => cases finite
  | finite negative magnitude =>
    obtain rfl := Option.some.inj finite
    refine .intro negative magnitude.exact_nonneg ?_
    rw [Magnitude.exact_mul_unitsPerOne]
    exact magnitude.representable_units.roundsTo

namespace Rounds

theorem exists_value? (rounds : Rounds exact number) : ∃ value, number.value? = some value := by
  cases rounds
  exact ⟨_, rfl⟩

/-- **Rounding respects order.** -/
theorem exact_le (rounds : Rounds exact number) (otherRounds : Rounds otherExact other)
    (least : exact ≤ otherExact) (finite : number.value? = some value)
    (otherFinite : other.value? = some otherValue) : value ≤ otherValue := by
  have sizes {size otherSize : ℚ} {magnitude otherMagnitude : Magnitude}
      (roundsTo : RoundsTo (size * unitsPerOne) magnitude.units)
      (otherRoundsTo : RoundsTo (otherSize * unitsPerOne) otherMagnitude.units)
      (least : size ≤ otherSize) : magnitude.exact ≤ otherMagnitude.exact :=
    div_le_div_of_nonneg_right (Nat.cast_le.2 (roundsTo.mono otherRoundsTo
      (mul_le_mul_of_nonneg_right least cast_unitsPerOne_pos.le))) cast_unitsPerOne_pos.le
  obtain ⟨negative, nonneg, roundsTo⟩ := rounds
  obtain ⟨otherNegative, otherNonneg, otherRoundsTo⟩ := otherRounds
  obtain rfl := Option.some.inj finite
  obtain rfl := Option.some.inj otherFinite
  cases negative <;> cases otherNegative <;> simp only [signed_true, signed_false] at *
  · exact sizes roundsTo otherRoundsTo least
  · have toZero {size : ℚ} {magnitude : Magnitude} (none : size ≤ 0)
        (roundsTo : RoundsTo (size * unitsPerOne) magnitude.units) : magnitude.exact ≤ 0 := by
      have zero : RoundsTo (0 * unitsPerOne) Magnitude.zero.units := by
        rw [zero_mul]
        exact_mod_cast representable_zero.roundsTo
      exact (sizes roundsTo zero none).trans_eq Magnitude.exact_zero
    have := toZero (by linarith) roundsTo
    have := toZero (by linarith) otherRoundsTo
    linarith
  · exact (neg_nonpos.2 (Magnitude.exact_nonneg _)).trans (Magnitude.exact_nonneg _)
  · exact neg_le_neg (sizes otherRoundsTo roundsTo (neg_le_neg_iff.1 least))

/-- What a lower value rounds to is not greater. -/
theorem lt_eq_false (rounds : Rounds exact number) (otherRounds : Rounds otherExact other)
    (least : exact ≤ otherExact) : other.lt number = false := by
  obtain ⟨value, finite⟩ := rounds.exists_value?
  obtain ⟨otherValue, otherFinite⟩ := otherRounds.exists_value?
  rw [Bool.eq_false_iff, ne_eq, lt_eq_true_iff otherFinite finite, not_lt]
  exact rounds.exact_le otherRounds least finite otherFinite

/-- Integers up to `2 ^ 53` are not changed by rounding. -/
theorem value?_of_natAbs_le {integer : Int} (rounds : Rounds integer number)
    (small : integer.natAbs ≤ 2 ^ 53) : number.value? = some (integer : ℚ) := by
  generalize isInteger : (integer : ℚ) = exact at rounds
  cases rounds with
  | @intro negative size magnitude nonneg roundsTo =>
    have sizeIs : size = integer.natAbs := by
      rw [Nat.cast_natAbs, Int.cast_abs, isInteger, abs_signed negative size nonneg]
    have representable : Representable (integer.natAbs * unitsPerOne) := by
      rw [unitsPerOne_eq]
      exact representable_mul_two_pow small unitExponent
    rw [sizeIs, ← Nat.cast_mul] at roundsTo
    rw [value?, Magnitude.exact, roundsTo.unique representable.roundsTo, Nat.cast_mul,
      mul_div_cancel_right₀ _ cast_unitsPerOne_pos.ne', sizeIs]

end Rounds

/-! ### The nearest number -/

section Nearest

variable {size : ℚ} {magnitude : Magnitude}

/-- A size below the middle of the largest magnitude and `2 ^ 1024` has a nearest magnitude. -/
theorem exists_magnitude_roundsTo (nonneg : 0 ≤ size) (inRange : size < 2 ^ 1024 - 2 ^ 970) :
    ∃ magnitude : Magnitude, RoundsTo (size * unitsPerOne) magnitude.units := by
  have ratio : (size.num.toNat : ℚ) * unitsPerOne / size.den = size * unitsPerOne := by
    have numerator : ((size.num.toNat : Nat) : ℚ) = size.num := by
      exact_mod_cast Int.toNat_of_nonneg (Rat.num_nonneg.2 nonneg)
    rw [numerator, mul_div_right_comm, Rat.num_div_den]
  have roundsTo := roundsTo_nearestUnits size.num.toNat size.den_pos
  rw [ratio] at roundsTo
  have finite := roundsTo.lt_unitsBeyond_iff.2
    (mul_lt_mul_of_pos_right inRange cast_unitsPerOne_pos)
  exact ⟨⟨_, isMagnitude_iff.2 ⟨finite, roundsTo.representable⟩⟩, roundsTo⟩

/-- A size with a nearest magnitude is below that middle. -/
theorem lt_of_roundsTo_units (roundsTo : RoundsTo (size * unitsPerOne) magnitude.units) :
    size < 2 ^ 1024 - 2 ^ 970 :=
  lt_of_mul_lt_mul_right (roundsTo.lt_unitsBeyond_iff.1 magnitude.isMagnitude.1)
    cast_unitsPerOne_pos.le

/-- Exactly the values below that middle round to a number. -/
theorem exists_rounds_iff {exact : ℚ} :
    (∃ number, Rounds exact number) ↔ |exact| < 2 ^ 1024 - 2 ^ 970 := by
  constructor
  · rintro ⟨_, negative, nonneg, roundsTo⟩
    rw [abs_signed negative _ nonneg]
    exact lt_of_roundsTo_units roundsTo
  · intro inRange
    obtain ⟨magnitude, roundsTo⟩ := exists_magnitude_roundsTo (abs_nonneg exact) inRange
    obtain ⟨negative, isSigned⟩ : ∃ negative, signed negative |exact| = exact := by
      rcases abs_choice exact with same | opposite
      · exact ⟨false, same⟩
      · exact ⟨true, by rw [signed_true, opposite, neg_neg]⟩
    have rounds : Rounds (signed negative |exact|) (.finite negative magnitude) :=
      .intro negative (abs_nonneg _) roundsTo
    rw [isSigned] at rounds
    exact ⟨_, rounds⟩

/-- What a value rounds to is not further from it than a magnitude with either sign. -/
theorem abs_sub_exact_le (nonneg : 0 ≤ size)
    (roundsTo : RoundsTo (size * unitsPerOne) magnitude.units) (other : Magnitude) :
    |size - magnitude.exact| ≤ |size - other.exact| ∧
      |size - other.exact| ≤ |size + other.exact| := by
  constructor
  · have inUnits := roundsTo.nearest other.units other.representable_units
    rw [← Magnitude.abs_sub_exact_mul, ← Magnitude.abs_sub_exact_mul] at inUnits
    exact le_of_mul_le_mul_right inUnits cast_unitsPerOne_pos
  · rw [abs_of_nonneg (add_nonneg nonneg other.exact_nonneg), abs_le]
    have := other.exact_nonneg
    constructor <;> linarith

theorem isNearest_of_roundsTo (negative : Bool) (nonneg : 0 ≤ size)
    (roundsTo : RoundsTo (size * unitsPerOne) magnitude.units) :
    IsNearest (signed negative size) (.finite negative magnitude) := by
  refine ⟨_, rfl, fun other otherValue otherFinite => ?_⟩
  cases other with
  | nan => cases otherFinite
  | infinite _ => cases otherFinite
  | finite otherNegative otherMagnitude =>
    obtain rfl := Option.some.inj otherFinite
    obtain ⟨nearer, sameSide⟩ := abs_sub_exact_le nonneg roundsTo otherMagnitude
    have tieOrEven (tie : |size - magnitude.exact| = |size - otherMagnitude.exact|) :
        otherMagnitude = magnitude ∨ FormRules.EndsEven magnitude.units := by
      refine (roundsTo.even otherMagnitude.units otherMagnitude.representable_units ?_).imp_left
        Magnitude.ext_units
      rw [← Magnitude.abs_sub_exact_mul, ← Magnitude.abs_sub_exact_mul, tie]
    rw [abs_signed_sub_signed]
    by_cases sameSign : otherNegative = negative
    · subst sameSign
      rw [abs_signed_sub_signed]
      exact ⟨nearer, fun tie => (tieOrEven tie).imp_left fun same => by rw [same]⟩
    · obtain rfl : otherNegative = !negative := Bool.eq_not.2 sameSign
      rw [abs_signed_sub_signed_not]
      refine ⟨nearer.trans sameSide, fun tie => ?_⟩
      rcases tieOrEven (le_antisymm nearer (tie ▸ sameSide)) with rfl | even
      · have atMostSize := (abs_sub_exact_le nonneg roundsTo Magnitude.zero).1
        rw [tie, Magnitude.exact_zero, sub_zero, abs_of_nonneg nonneg,
          abs_of_nonneg (add_nonneg nonneg otherMagnitude.exact_nonneg)] at atMostSize
        have zero : otherMagnitude.exact = 0 :=
          le_antisymm (by linarith) otherMagnitude.exact_nonneg
        rw [zero, signed_zero, signed_zero]
        exact Or.inl rfl
      · exact Or.inr even

/-- **The two descriptions of rounding agree** below the end of the finite magnitudes. -/
theorem isNearest_iff_roundsTo {negative : Bool} (nonneg : 0 ≤ size)
    (inRange : size < 2 ^ 1024 - 2 ^ 970) :
    IsNearest (signed negative size) (.finite negative magnitude) ↔
      RoundsTo (size * unitsPerOne) magnitude.units := by
  refine ⟨fun isNearest => ?_, isNearest_of_roundsTo negative nonneg⟩
  obtain ⟨nearest, roundsTo⟩ := exists_magnitude_roundsTo nonneg inRange
  obtain ⟨_, ⟨⟩, bound⟩ := isNearest
  obtain ⟨asNear, tieOrEven⟩ := bound (.finite negative nearest) _ rfl
  rw [abs_signed_sub_signed, abs_signed_sub_signed] at asNear tieOrEven
  have tie := le_antisymm asNear (abs_sub_exact_le nonneg roundsTo magnitude).1
  have tieUnits :
      |size * unitsPerOne - magnitude.units| = |size * unitsPerOne - nearest.units| := by
    rw [← Magnitude.abs_sub_exact_mul, ← Magnitude.abs_sub_exact_mul, tie]
  refine ⟨magnitude.representable_units, fun other representable => ?_,
    fun other representable otherTie => ?_⟩
  · rw [tieUnits]
    exact roundsTo.nearest other representable
  · rcases tieOrEven tie with same | even
    · have sameUnits : nearest.units = magnitude.units := by
        have sameSize := congrArg abs same
        rw [abs_signed _ _ nearest.exact_nonneg, abs_signed _ _ magnitude.exact_nonneg] at sameSize
        have scaled : nearest.exact * unitsPerOne = magnitude.exact * unitsPerOne := by
          rw [sameSize]
        rw [Magnitude.exact_mul_unitsPerOne, Magnitude.exact_mul_unitsPerOne] at scaled
        exact Nat.cast_injective scaled
      rw [← sameUnits] at otherTie ⊢
      exact roundsTo.even other representable otherTie
    · exact Or.inr even

end Nearest

end Binary64

end FormRules
