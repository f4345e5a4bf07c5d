/-
**Rounding to 53 significant bits.**

Numbers of units with at most 53 significant bits are representable. Around each of them they stand
on a grid whose spacing doubles with each bit beyond the 53rd, so a ratio lies between two
neighbours and rounds to the nearer one, or to the one with an even last digit when both are equally
near.

* `Representable.add_spacing_le`: the next representable number is one spacing away;
* `RoundsTo` says what it means to be the nearest representable number, without a computation;
* `RoundsTo.mono`: rounding respects order, so `RoundsTo.unique`: there is only one nearest number;
* `roundsTo_nearestUnits`: the computed units are the nearest ones;
* `RoundsTo.lt_unitsBeyond_iff`: which ratios round to a finite magnitude.
-/

import FormRules.Binary64.Nearest
import Mathlib.Algebra.Order.Field.Rat
import Mathlib.Algebra.Order.Ring.Abs
import Mathlib.Tactic.FieldSimp
import Mathlib.Tactic.Linarith
import Mathlib.Tactic.Positivity
import Mathlib.Tactic.Ring

namespace FormRules

/-! ### The grid of representable numbers -/

/-- The distance from a number of units to the next one on its grid. -/
def spacing (units : Nat) : Nat :=
  2 ^ (units.log2 - 52)

/-- All bits of a number are among the 53 that start at its highest. -/
def Representable (units : Nat) : Prop :=
  spacing units ∣ units

/-- The last of the 53 bits of a number is zero. -/
def EndsEven (units : Nat) : Prop :=
  units / spacing units % 2 = 0

instance (units : Nat) : Decidable (EndsEven units) :=
  inferInstanceAs (Decidable (_ = _))

/-- Magnitudes are the representable numbers that are not beyond all of them. -/
theorem isMagnitude_iff {units : Nat} :
    IsMagnitude units ↔ units < unitsBeyond ∧ Representable units :=
  and_congr_right fun _ => Nat.dvd_iff_mod_eq_zero.symm

variable {units other : Nat}

theorem spacing_pos (units : Nat) : 0 < spacing units :=
  Nat.two_pow_pos _

theorem spacing_dvd_spacing (least : units ≤ other) : spacing units ∣ spacing other := by
  refine Nat.pow_dvd_pow 2 (Nat.sub_le_sub_right ?_ 52)
  rcases Nat.eq_zero_or_pos units with rfl | positive
  · exact Nat.zero_le _
  · refine (Nat.le_log2 (by omega)).2 (le_trans (Nat.log2_self_le positive.ne') least)

/-- A number has fewer than `2 ^ 53` spacings. -/
theorem div_spacing_lt (units : Nat) : units / spacing units < 2 ^ 53 := by
  rw [Nat.div_lt_iff_lt_mul (spacing_pos units), spacing, ← pow_add]
  refine lt_of_lt_of_le Nat.lt_log2_self (Nat.pow_le_pow_right (by decide) (by omega))

theorem representable_zero : Representable 0 :=
  dvd_zero _

/-- Fewer than `2 ^ 53` steps of a power of two are on a grid that is no coarser. -/
theorem spacing_mul_two_pow_dvd {steps : Nat} (few : steps < 2 ^ 53) (exponent : Nat) :
    spacing (steps * 2 ^ exponent) ∣ 2 ^ exponent := by
  refine Nat.pow_dvd_pow 2 ?_
  rcases Nat.eq_zero_or_pos steps with rfl | positive
  · rw [zero_mul]
    exact Nat.zero_le _
  · have short : (steps * 2 ^ exponent).log2 < 53 + exponent := by
      rw [Nat.log2_lt (Nat.mul_pos positive (Nat.two_pow_pos _)).ne', pow_add]
      exact Nat.mul_lt_mul_of_pos_right few (Nat.two_pow_pos _)
    omega

/-- With `2 ^ 53` steps the grid becomes coarser. -/
theorem spacing_two_pow_mul (exponent : Nat) :
    spacing (2 ^ 53 * 2 ^ exponent) = 2 ^ (exponent + 1) := by
  rw [spacing, ← pow_add, Nat.log2_two_pow]
  congr 1
  omega

/-- Up to `2 ^ 53` steps of a power of two are representable. -/
theorem representable_mul_two_pow {steps : Nat} (few : steps ≤ 2 ^ 53) (exponent : Nat) :
    Representable (steps * 2 ^ exponent) := by
  rcases few.lt_or_eq with fewer | rfl
  · exact dvd_mul_of_dvd_right (spacing_mul_two_pow_dvd fewer exponent) steps
  · rw [Representable, spacing_two_pow_mul, ← pow_add]
    exact Nat.pow_dvd_pow 2 (by omega)

/-- An even number of steps ends even. -/
theorem endsEven_mul_two_pow {steps : Nat} (few : steps ≤ 2 ^ 53) (even : steps % 2 = 0)
    (exponent : Nat) : EndsEven (steps * 2 ^ exponent) := by
  rcases few.lt_or_eq with fewer | rfl
  · rw [EndsEven, Nat.mul_div_assoc _ (spacing_mul_two_pow_dvd fewer exponent), Nat.mul_mod, even,
      zero_mul, Nat.zero_mod]
  · have steps : 2 ^ 53 * 2 ^ exponent = 2 ^ 52 * 2 ^ (exponent + 1) := by
      rw [← pow_add, ← pow_add]
      congr 1
      omega
    rw [EndsEven, spacing_two_pow_mul, steps, Nat.mul_div_cancel _ (Nat.two_pow_pos _)]
    decide

/-- The grid goes on one spacing further. -/
theorem Representable.add_spacing (representable : Representable units) :
    Representable (units + spacing units) := by
  have steps : units + spacing units = (units / spacing units + 1) * spacing units := by
    rw [add_mul, one_mul, Nat.div_mul_cancel representable]
  rw [steps]
  exact representable_mul_two_pow (div_spacing_lt units) _

/-- The next representable number is one spacing away. -/
theorem Representable.add_spacing_le (representable : Representable units)
    (otherRepresentable : Representable other) (less : units < other) :
    units + spacing units ≤ other := by
  have divides : spacing units ∣ other - units :=
    Nat.dvd_sub ((spacing_dvd_spacing less.le).trans otherRepresentable) representable
  have := Nat.le_of_dvd (Nat.sub_pos_of_lt less) divides
  omega

/-- A number that ends even and the next one have different last bits. -/
theorem EndsEven.not_add_spacing (even : EndsEven units) (representable : Representable units) :
    ¬ EndsEven (units + spacing units) := by
  intro nextEven
  have twice {number : Nat} (even : EndsEven number) (representable : Representable number) :
      2 * spacing number ∣ number := by
    obtain ⟨half, halves⟩ := Nat.dvd_of_mod_eq_zero even
    refine ⟨half, ?_⟩
    rw [mul_right_comm, ← halves, Nat.div_mul_cancel representable]
  have divides : 2 * spacing units ∣ units + spacing units :=
    (Nat.mul_dvd_mul_left 2 (spacing_dvd_spacing (Nat.le_add_right _ _))).trans
      (twice nextEven representable.add_spacing)
  have := Nat.le_of_dvd (spacing_pos units)
    ((Nat.dvd_add_right (twice even representable)).1 divides)
  have := spacing_pos units
  omega

/-! ### Nearest numbers -/

section Nearer

variable {low high point : ℚ}

/-- Of two numbers the higher one is at least as near from the middle on. -/
theorem abs_sub_high_le_iff (less : low < high) :
    |point - high| ≤ |point - low| ↔ low + high ≤ 2 * point := by
  rw [← sq_le_sq]
  constructor <;> intro bound <;> nlinarith

/-- Of two numbers the lower one is at least as near up to the middle. -/
theorem abs_sub_low_le_iff (less : low < high) :
    |point - low| ≤ |point - high| ↔ 2 * point ≤ low + high := by
  rw [← sq_le_sq]
  constructor <;> intro bound <;> nlinarith

end Nearer

/-- **A representable number is the nearest one to a ratio.** No other is nearer, and of two that
are equally near it is the one that ends even. -/
structure RoundsTo (ratio : ℚ) (units : Nat) : Prop where
  representable : Representable units
  nearest : ∀ other, Representable other → |ratio - units| ≤ |ratio - other|
  even : ∀ other, Representable other → |ratio - units| = |ratio - other| →
    other = units ∨ EndsEven units

variable {ratio otherRatio : ℚ}

/-- A representable number is its own nearest one. -/
theorem Representable.roundsTo (representable : Representable units) : RoundsTo units units where
  representable := representable
  nearest other _ := by
    rw [sub_self, abs_zero]
    exact abs_nonneg _
  even other _ tie := by
    rw [sub_self, abs_zero] at tie
    exact Or.inl (Nat.cast_injective (sub_eq_zero.1 (abs_eq_zero.1 tie.symm)).symm)

namespace RoundsTo

/-- Two numbers are not both nearest. Nothing representable lies between two that are equally near,
so they would be neighbours, and one of two neighbours ends odd. -/
theorem not_both (rounds : RoundsTo ratio units) (otherRounds : RoundsTo ratio other)
    (less : units < other) : False := by
  have lessRat : (units : ℚ) < other := Nat.cast_lt.2 less
  have atMost := (abs_sub_low_le_iff lessRat).1 (rounds.nearest other otherRounds.representable)
  have atLeast := (abs_sub_high_le_iff lessRat).1 (otherRounds.nearest units rounds.representable)
  have next := rounds.representable.add_spacing_le otherRounds.representable less
  have tie : |ratio - units| = |ratio - other| :=
    le_antisymm (rounds.nearest other otherRounds.representable)
      (otherRounds.nearest units rounds.representable)
  have even := (rounds.even other otherRounds.representable tie).resolve_left less.ne'
  have otherEven := (otherRounds.even units rounds.representable tie.symm).resolve_left less.ne
  rcases next.lt_or_eq with between | rfl
  · have aboveRat : (units : ℚ) < (units + spacing units : Nat) :=
      Nat.cast_lt.2 (Nat.lt_add_of_pos_right (spacing_pos units))
    have belowRat : ((units + spacing units : Nat) : ℚ) < other := Nat.cast_lt.2 between
    have := (abs_sub_low_le_iff aboveRat).1
      (rounds.nearest _ rounds.representable.add_spacing)
    linarith
  · exact even.not_add_spacing rounds.representable otherEven

/-- **Rounding respects order.** -/
theorem mono (rounds : RoundsTo ratio units) (otherRounds : RoundsTo otherRatio other)
    (least : ratio ≤ otherRatio) : units ≤ other := by
  by_contra above
  have less : (other : ℚ) < units := Nat.cast_lt.2 (not_le.1 above)
  have atLeast := (abs_sub_high_le_iff less).1 (rounds.nearest other otherRounds.representable)
  have atMost := (abs_sub_low_le_iff less).1 (otherRounds.nearest units rounds.representable)
  obtain rfl : ratio = otherRatio := by linarith
  exact otherRounds.not_both rounds (not_le.1 above)

/-- There is only one nearest number. -/
theorem unique (rounds : RoundsTo ratio units) (otherRounds : RoundsTo ratio other) :
    units = other :=
  le_antisymm (rounds.mono otherRounds le_rfl) (otherRounds.mono rounds le_rfl)

/-- Rounding goes beyond a number that ends odd from the middle to the next one on. -/
theorem le_iff_of_endsOdd {last : Nat} (rounds : RoundsTo ratio units)
    (representable : Representable last) (odd : ¬ EndsEven last) :
    units ≤ last ↔ 2 * ratio < last + (last + spacing last : Nat) := by
  have nextRepresentable := representable.add_spacing
  have nextAbove : (last : ℚ) < (last + spacing last : Nat) :=
    Nat.cast_lt.2 (Nat.lt_add_of_pos_right (spacing_pos last))
  constructor
  · intro atMost
    have unitsBelow : (units : ℚ) < (last + spacing last : Nat) :=
      lt_of_le_of_lt (Nat.cast_le.2 atMost) nextAbove
    have below := (abs_sub_low_le_iff unitsBelow).1 (rounds.nearest _ nextRepresentable)
    have atMostRat : (units : ℚ) ≤ last := Nat.cast_le.2 atMost
    refine lt_of_le_of_ne (by linarith) fun middle => odd ?_
    obtain rfl : units = last := Nat.cast_injective (le_antisymm atMostRat (by linarith))
    have tie : |ratio - units| = |ratio - (units + spacing units : Nat)| :=
      le_antisymm (rounds.nearest _ nextRepresentable)
        ((abs_sub_high_le_iff nextAbove).2 (by linarith))
    refine (rounds.even _ nextRepresentable tie).resolve_left ?_
    have := spacing_pos units
    omega
  · intro below
    by_contra above
    have lastBelow : (last : ℚ) < units := Nat.cast_lt.2 (not_le.1 above)
    have atLeast := (abs_sub_high_le_iff lastBelow).1 (rounds.nearest last representable)
    have next : ((last + spacing last : Nat) : ℚ) ≤ units :=
      Nat.cast_le.2 (representable.add_spacing_le rounds.representable (not_le.1 above))
    linarith

end RoundsTo

/-! ### The two neighbours of a ratio -/

section Neighbours

/-- Every representable number lies on one side of a gap. -/
theorem Representable.le_or_add_spacing_le (representable : Representable units)
    (otherRepresentable : Representable other) :
    (other : ℚ) ≤ units ∨ (units : ℚ) + spacing units ≤ other := by
  rcases le_or_gt other units with atMost | above
  · exact Or.inl (Nat.cast_le.2 atMost)
  · exact Or.inr (by exact_mod_cast representable.add_spacing_le otherRepresentable above)

variable (representable : Representable units)
include representable

/-- The lower neighbour is the nearest number up to the middle. -/
theorem roundsTo_low (atLeast : (units : ℚ) ≤ ratio) (below : ratio < units + spacing units)
    (near : 2 * (ratio - units) ≤ spacing units)
    (even : 2 * (ratio - units) = spacing units → EndsEven units) : RoundsTo ratio units := by
  have distance : |ratio - units| = ratio - units := abs_of_nonneg (by linarith)
  refine ⟨representable, fun other otherRepresentable => ?_, fun other otherRepresentable tie => ?_⟩
  · rw [distance]
    rcases representable.le_or_add_spacing_le otherRepresentable with low | high
    · exact le_trans (by linarith) (le_abs_self _)
    · exact le_trans (by linarith) (neg_le_abs _)
  · rw [distance] at tie
    rcases representable.le_or_add_spacing_le otherRepresentable with low | high
    · rw [abs_of_nonneg (by linarith)] at tie
      have same : (other : ℚ) = units := by linarith
      exact Or.inl (Nat.cast_injective same)
    · rw [abs_of_nonpos (by linarith)] at tie
      exact Or.inr (even (by linarith))

omit representable in
/-- A ratio below half a unit rounds to nothing. -/
theorem roundsTo_zero (nonneg : 0 ≤ ratio) (small : 2 * ratio < 1) : RoundsTo ratio 0 := by
  have one : ((spacing 0 : Nat) : ℚ) = 1 := Nat.cast_one
  refine roundsTo_low representable_zero (by simpa using nonneg) ?_ ?_ fun middle => ?_ <;>
    rw [one, Nat.cast_zero] at *
  · linarith
  · linarith
  · linarith

/-- The upper neighbour is the nearest number from the middle on. -/
theorem roundsTo_high (below : ratio < units + spacing units)
    (near : spacing units ≤ 2 * (ratio - units))
    (even : 2 * (ratio - units) = spacing units → EndsEven (units + spacing units)) :
    RoundsTo ratio (units + spacing units) := by
  have distance : |ratio - (units + spacing units : Nat)| = units + spacing units - ratio := by
    rw [Nat.cast_add, abs_sub_comm]
    exact abs_of_nonneg (by linarith)
  refine ⟨representable.add_spacing, fun other otherRepresentable => ?_,
    fun other otherRepresentable tie => ?_⟩
  · rw [distance]
    rcases representable.le_or_add_spacing_le otherRepresentable with low | high
    · exact le_trans (by linarith) (le_abs_self _)
    · exact le_trans (by linarith) (neg_le_abs _)
  · rw [distance] at tie
    rcases representable.le_or_add_spacing_le otherRepresentable with low | high
    · rw [abs_of_nonneg (by linarith)] at tie
      exact Or.inr (even (by linarith))
    · rw [abs_of_nonpos (by linarith)] at tie
      have same : (other : ℚ) = (units + spacing units : Nat) := by
        push_cast
        linarith
      exact Or.inl (Nat.cast_injective same)

end Neighbours

/-! ### The computed units -/

/-- The grid point at or below a number has the spacing of the number. A small number is on the grid
of the natural numbers, and the highest bit of a large one is a grid point. -/
theorem spacing_div_mul_spacing (units : Nat) :
    spacing (units / spacing units * spacing units) = spacing units := by
  refine Nat.dvd_antisymm (spacing_dvd_spacing (Nat.div_mul_le_self _ _)) ?_
  rcases Nat.lt_or_ge units (2 ^ 53) with small | large
  · have short : units.log2 - 52 = 0 := by
      rcases Nat.eq_zero_or_pos units with rfl | positive
      · rfl
      · have := (Nat.log2_lt positive.ne').2 small
        omega
    rw [spacing, short]
    exact one_dvd _
  · have long : 53 ≤ units.log2 := (Nat.le_log2 (by omega)).2 large
    have highest : 2 ^ units.log2 = 2 ^ 52 * spacing units := by
      rw [spacing, ← pow_add]
      congr 1
      omega
    have fits : 2 ^ 52 ≤ units / spacing units := by
      rw [Nat.le_div_iff_mul_le (spacing_pos units), ← highest]
      exact Nat.log2_self_le (by omega)
    have sameLength : (2 ^ units.log2).log2 = units.log2 := Nat.log2_two_pow
    calc spacing units = spacing (2 ^ units.log2) := by rw [spacing, spacing, sameLength]
      _ ∣ spacing (units / spacing units * spacing units) := by
        refine spacing_dvd_spacing ?_
        rw [highest]
        exact Nat.mul_le_mul_right _ fits

/-- A quotient is rounded down up to the half and up from the half on; at the half the result is
even. -/
theorem roundHalfEven_cases (numerator denominator : Nat) :
    (roundHalfEven numerator denominator = numerator / denominator ∧
      2 * (numerator % denominator) ≤ denominator ∧
      (2 * (numerator % denominator) = denominator → numerator / denominator % 2 = 0)) ∨
    (roundHalfEven numerator denominator = numerator / denominator + 1 ∧
      denominator ≤ 2 * (numerator % denominator) ∧
      (2 * (numerator % denominator) = denominator → (numerator / denominator + 1) % 2 = 0)) := by
  unfold roundHalfEven
  dsimp only
  split_ifs <;> omega

/-- What a ratio has above its last full step. -/
theorem div_sub_steps (numerator : Nat) {denominator : Nat} (positive : 0 < denominator)
    (step : Nat) :
    (numerator : ℚ) / denominator - (numerator / (denominator * step) * step : Nat) =
      (numerator % (denominator * step) : Nat) / denominator := by
  have nonzero : (denominator : ℚ) ≠ 0 := Nat.cast_ne_zero.2 positive.ne'
  have split : (numerator : ℚ) = denominator * step * (numerator / (denominator * step) : Nat) +
      (numerator % (denominator * step) : Nat) := by
    exact_mod_cast (Nat.div_add_mod numerator (denominator * step)).symm
  rw [sub_eq_iff_eq_add, div_eq_iff nonzero, add_mul, div_mul_cancel₀ _ nonzero]
  push_cast
  linarith

section Rest

variable {low : ℚ} {rest denominator : Nat} (positive : 0 < denominator)
  (offset : ratio - low = rest / denominator)
include positive offset

/-- Twice what a ratio has above a number compares with a step as twice the rest does. -/
theorem two_mul_sub_le_iff (step : Nat) :
    2 * (ratio - low) ≤ step ↔ 2 * rest ≤ denominator * step := by
  rw [offset, ← mul_div_assoc, div_le_iff₀' (Nat.cast_pos.2 positive)]
  exact_mod_cast Iff.rfl

theorem le_two_mul_sub_iff (step : Nat) :
    step ≤ 2 * (ratio - low) ↔ denominator * step ≤ 2 * rest := by
  rw [offset, ← mul_div_assoc, le_div_iff₀' (Nat.cast_pos.2 positive)]
  exact_mod_cast Iff.rfl

/-- A ratio in the middle of a step leaves half of it as the rest. -/
theorem two_mul_rest_eq {step : Nat} (middle : 2 * (ratio - low) = step) :
    2 * rest = denominator * step :=
  le_antisymm ((two_mul_sub_le_iff positive offset step).1 middle.le)
    ((le_two_mul_sub_iff positive offset step).1 middle.ge)

/-- A ratio with a rest lies within one step. -/
theorem le_and_lt_add_of_rest {step : Nat} (restLess : rest < denominator * step) :
    low ≤ ratio ∧ ratio < low + step := by
  have nonneg : (0 : ℚ) ≤ rest / denominator := by positivity
  have less : (rest : ℚ) / denominator < step := by
    rw [div_lt_iff₀' (Nat.cast_pos.2 positive)]
    exact_mod_cast restLess
  constructor <;> linarith

end Rest

/-- Rounding to full steps of the spacing gives the nearest representable number. -/
theorem roundsTo_roundHalfEven (numerator : Nat) {denominator step : Nat}
    (positive : 0 < denominator) (isSpacing : step = spacing (numerator / denominator)) :
    RoundsTo ((numerator : ℚ) / denominator)
      (roundHalfEven numerator (denominator * step) * step) := by
  have quotient : numerator / (denominator * step) = numerator / denominator / step :=
    (Nat.div_div_eq_div_mul _ _ _).symm
  have few : numerator / (denominator * step) < 2 ^ 53 := by
    rw [quotient, isSpacing]
    exact div_spacing_lt _
  have sameSpacing : spacing (numerator / (denominator * step) * step) = step := by
    rw [quotient, isSpacing]
    exact spacing_div_mul_spacing _
  have restLess : numerator % (denominator * step) < denominator * step :=
    Nat.mod_lt _ (Nat.mul_pos positive (isSpacing ▸ spacing_pos _))
  have offset := div_sub_steps numerator positive step
  have rounded := roundHalfEven_cases numerator (denominator * step)
  have representable {steps : Nat} (few : steps ≤ 2 ^ 53) : Representable (steps * step) := by
    rw [isSpacing]
    exact representable_mul_two_pow few _
  have even {steps : Nat} (few : steps ≤ 2 ^ 53) (even : steps % 2 = 0) :
      EndsEven (steps * step) := by
    rw [isSpacing]
    exact endsEven_mul_two_pow few even _
  generalize numerator / (denominator * step) = low at *
  generalize numerator % (denominator * step) = rest at *
  obtain ⟨atLeast, below⟩ := le_and_lt_add_of_rest positive offset restLess
  rcases rounded with ⟨isLow, near, evenLow⟩ | ⟨isHigh, near, evenHigh⟩
  · rw [isLow]
    refine roundsTo_low (representable few.le) atLeast ?_ ?_ ?_ <;> rw [sameSpacing]
    · exact below
    · exact (two_mul_sub_le_iff positive offset step).2 near
    · exact fun middle => even few.le (evenLow (two_mul_rest_eq positive offset middle))
  · have next : (low + 1) * step = low * step + spacing (low * step) := by
      rw [sameSpacing, add_mul, one_mul]
    rw [isHigh, next]
    refine roundsTo_high (representable few.le) ?_ ?_ ?_ <;> rw [sameSpacing]
    · exact below
    · exact (le_two_mul_sub_iff positive offset step).2 near
    · rw [sameSpacing] at next
      rw [← next]
      exact fun middle => even few (evenHigh (two_mul_rest_eq positive offset middle))

/-- **The computed units are the nearest ones.** -/
theorem roundsTo_nearestUnits (numerator : Nat) {denominator : Nat} (positive : 0 < denominator) :
    RoundsTo ((numerator : ℚ) * unitsPerOne / denominator)
      (nearestUnits numerator denominator) := by
  rw [← Nat.cast_mul]
  exact roundsTo_roundHalfEven (numerator * unitsPerOne) positive rfl

/-! ### The end of the finite magnitudes -/

theorem powTwo_eq (exponent : Nat) : Nat.pow 2 exponent = 2 ^ exponent := rfl

theorem unitsPerOne_eq : unitsPerOne = 2 ^ unitExponent := by
  unfold unitsPerOne
  exact powTwo_eq unitExponent

theorem cast_unitsPerOne : (unitsPerOne : ℚ) = 2 ^ unitExponent := by
  rw [unitsPerOne_eq, Nat.cast_pow, Nat.cast_ofNat]

/-- Where the steps fill 53 bits the spacing is one step. -/
theorem spacing_mul_two_pow {steps : Nat} (long : 2 ^ 52 ≤ steps) (few : steps < 2 ^ 53)
    (exponent : Nat) : spacing (steps * 2 ^ exponent) = 2 ^ exponent := by
  have highest : (steps * 2 ^ exponent).log2 = 52 + exponent := by
    rw [Nat.log2_eq_iff (Nat.mul_pos (by omega) (Nat.two_pow_pos _)).ne', pow_add, add_right_comm,
      pow_add]
    exact ⟨Nat.mul_le_mul_right _ long, Nat.mul_lt_mul_of_pos_right few (Nat.two_pow_pos _)⟩
  rw [spacing, highest, Nat.add_sub_cancel_left]

/-- A ratio rounds below a power of two exactly if it is nearer to the number in front of it, which
ends odd. -/
theorem RoundsTo.lt_two_pow_iff (rounds : RoundsTo ratio units) (exponent : Nat) :
    units < 2 ^ 53 * 2 ^ exponent ↔ ratio < (2 ^ 53 - 1 / 2) * 2 ^ exponent := by
  have representable : Representable ((2 ^ 53 - 1) * 2 ^ exponent) :=
    representable_mul_two_pow (by decide) exponent
  have sameSpacing : spacing ((2 ^ 53 - 1) * 2 ^ exponent) = 2 ^ exponent :=
    spacing_mul_two_pow (by decide) (by decide) exponent
  have odd : ¬ EndsEven ((2 ^ 53 - 1) * 2 ^ exponent) := by
    rw [EndsEven, sameSpacing, Nat.mul_div_cancel _ (Nat.two_pow_pos _)]
    decide
  have next : (2 ^ 53 - 1) * 2 ^ exponent + 2 ^ exponent = 2 ^ 53 * 2 ^ exponent :=
    (Nat.succ_mul (2 ^ 53 - 1) _).symm
  have atMost : units < 2 ^ 53 * 2 ^ exponent ↔ units ≤ (2 ^ 53 - 1) * 2 ^ exponent := by
    constructor
    · intro below
      by_contra above
      have further := representable.add_spacing_le rounds.representable (not_le.1 above)
      rw [sameSpacing, next] at further
      omega
    · intro atMost
      have := Nat.two_pow_pos exponent
      omega
  rw [atMost, rounds.le_iff_of_endsOdd representable odd, sameSpacing]
  push_cast
  constructor <;> intro bound <;> linarith

/-- **The ratios that round to a finite magnitude**, in units. -/
theorem RoundsTo.lt_unitsBeyond_iff (rounds : RoundsTo ratio units) :
    units < unitsBeyond ↔ ratio < (2 ^ 1024 - 2 ^ 970) * unitsPerOne := by
  have scaled (exponent : Nat) : ((2 : ℚ) ^ 53 - 1 / 2) * 2 ^ (exponent + 1 + unitExponent) =
      (2 ^ (exponent + 54) - 2 ^ exponent) * unitsPerOne := by
    rw [cast_unitsPerOne]
    ring
  have beyond : unitsBeyond = 2 ^ 53 * 2 ^ (970 + 1 + unitExponent) := by
    unfold unitsBeyond
    rw [powTwo_eq, unitsPerOne_eq, ← pow_add, ← pow_add]
    exact congrArg (2 ^ ·) (by simp only [beyondExponent]; omega)
  rw [beyond, rounds.lt_two_pow_iff, scaled 970]

end FormRules
