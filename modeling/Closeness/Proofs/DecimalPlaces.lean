import Closeness.Proofs.SignificantDigits

/-!
# Rounding to decimal places

`RoundedAt exact places rounded` says that a rational is another one, rounded to
a count of decimal places: it is a whole number of units in the last place, at
most half a unit away, and if it is half a unit away the count of units is
even.  This determines the rounded number.

The magnitude of a binary number is rounded so by `roundAt`.  Its expansion
ends after `scale` places, so rounding to more places than that changes nothing.
-/

namespace Closeness

namespace Decimal

/-- A rational is another one, rounded to decimal places with ties to even. -/
def RoundedAt (exact : ℚ) (places : Nat) (rounded : ℚ) : Prop :=
  ∃ units : ℤ,
    rounded = units / 10 ^ places ∧
      |exact * 10 ^ places - units| ≤ 1 / 2 ∧
      (|exact * 10 ^ places - units| = 1 / 2 → Even units)

namespace RoundedAt

variable
    {exact rounded : ℚ}
    {places : Nat}

/-- Of two whole numbers to which one number is rounded, none is smaller. -/
theorem units_le
    {ratio : ℚ}
    {lower upper : ℤ}
    (lowerNear : |ratio - lower| ≤ 1 / 2)
    (lowerEven : |ratio - lower| = 1 / 2 → Even lower)
    (upperNear : |ratio - upper| ≤ 1 / 2)
    (upperEven : |ratio - upper| = 1 / 2 → Even upper) :
    upper ≤ lower := by
  by_contra apart
  have next : lower + 1 ≤ upper := by
    omega
  have nextRational : (lower : ℚ) + 1 ≤ upper := by
    exact_mod_cast next
  have below := abs_le.mp lowerNear
  have above := abs_le.mp upperNear
  -- The two are a whole unit apart, so both are half a unit away, and both are even.
  have lowerTie : |ratio - lower| = 1 / 2 := by
    rw [abs_of_nonneg (by linarith)]
    linarith
  have upperTie : |ratio - upper| = 1 / 2 := by
    rw [abs_of_nonpos (by linarith)]
    linarith
  have successor : upper = lower + 1 := by
    have rational : (upper : ℚ) = lower + 1 := by
      linarith
    exact_mod_cast rational
  have notEven : ¬ Even (lower + 1) := by
    rw [Int.not_even_iff_odd]
    exact (lowerEven lowerTie).add_one
  exact notEven (successor ▸ upperEven upperTie)

/-- A number is rounded to one number. -/
theorem unique
    {other : ℚ}
    (atPlaces : RoundedAt exact places rounded)
    (otherAtPlaces : RoundedAt exact places other) :
    rounded = other := by
  obtain ⟨units, rfl, near, even⟩ := atPlaces
  obtain ⟨otherUnits, rfl, otherNear, otherEven⟩ := otherAtPlaces
  have same : units = otherUnits :=
    le_antisymm (units_le otherNear otherEven near even) (units_le near even otherNear otherEven)
  rw [same]

/-- The opposite of a number is rounded to the opposite. -/
theorem neg
    (atPlaces : RoundedAt exact places rounded) :
    RoundedAt (-exact) places (-rounded) := by
  obtain ⟨units, rfl, near, even⟩ := atPlaces
  have distance : |-exact * 10 ^ places - (-units : ℤ)| = |exact * 10 ^ places - units| := by
    rw [← abs_neg]
    push_cast
    ring_nf
  refine ⟨-units, by push_cast; ring, ?_, ?_⟩
  · rw [distance]
    exact near
  · rw [distance]
    exact fun tie => (even tie).neg

/-- A number that ends after some places is rounded to itself there and anywhere beyond. -/
theorem of_more_places
    {whole : ℤ}
    (ends : exact * 10 ^ places = whole)
    (atPlaces : RoundedAt exact places rounded)
    {more : Nat}
    (further : places ≤ more) :
    RoundedAt exact more rounded := by
  have selfRounded : ∀ {count : Nat} {units : ℤ}, exact * 10 ^ count = units →
      RoundedAt exact count exact := by
    intro count units expansion
    refine ⟨units, ?_, ?_, ?_⟩
    · rw [← expansion, mul_div_cancel_right₀ _ (by positivity)]
    · rw [expansion, sub_self, abs_zero]
      norm_num
    · rw [expansion, sub_self, abs_zero]
      norm_num
  have same : rounded = exact :=
    atPlaces.unique (selfRounded ends)
  obtain ⟨extra, rfl⟩ := Nat.exists_eq_add_of_le further
  rw [same]
  have expansion : exact * 10 ^ (places + extra) = (whole * 10 ^ extra : ℤ) := by
    rw [pow_add, ← mul_assoc, ends]
    push_cast
    rfl
  exact selfRounded expansion

end RoundedAt

end Decimal

open Decimal

/-- A quotient halfway between two whole numbers is rounded to the even one. -/
theorem even_roundHalfEven_of_tie
    (numerator : Nat)
    {denominator : Nat}
    (positive : 0 < denominator)
    (tie : |(numerator : ℚ) / denominator - roundHalfEven numerator denominator| = 1 / 2) :
    roundHalfEven numerator denominator % 2 = 0 := by
  have positiveRational : (0 : ℚ) < denominator := by
    exact_mod_cast positive
  have reached := (roundHalfEven_le_iff numerator _ positive).mp le_rfl
  have notBelow := fun bound => roundHalfEven_le_iff numerator bound positive
  generalize roundHalfEven numerator denominator = rounded at *
  rcases (abs_eq (by norm_num)).mp tie with above | below
  · have half : 2 * numerator = (2 * rounded + 1) * denominator := by
      have rational : (2 * numerator : ℚ) = (2 * rounded + 1) * denominator := by
        field_simp at above
        linarith
      exact_mod_cast rational
    exact (reached.resolve_left half.not_lt).2
  · have half : 2 * (numerator : ℚ) = (2 * rounded - 1) * denominator := by
      field_simp at below
      linarith
    cases rounded with
    | zero =>
      have nonneg : (0 : ℚ) ≤ numerator := Nat.cast_nonneg _
      push_cast at half
      linarith
    | succ previous =>
      have onHalf : 2 * numerator = (2 * previous + 1) * denominator := by
        have rational : (2 * numerator : ℚ) = (2 * previous + 1) * denominator := by
          push_cast at half
          linarith
        exact_mod_cast rational
      -- On the half, an even number before would have been the result.
      have odd : ¬ previous % 2 = 0 := by
        intro even
        exact absurd ((notBelow previous).mpr (Or.inr ⟨onHalf, even⟩)) (Nat.not_succ_le_self _)
      omega

namespace Binary

variable {format : Format} (number : Binary format)

/-- The magnitude of a number is rounded to decimal places. -/
theorem roundedAt_roundAt
    (places : Nat) :
    RoundedAt number.absValue places
      ((number.roundAt (-(places : Int)) : Nat) / 10 ^ places : ℚ) := by
  have ratio :
      (number.placeNumerator (-(places : Int)) : ℚ) / number.placeDenominator (-(places : Int)) =
        number.absValue * 10 ^ places := by
    rw [placeRatio_eq, zpow_neg, zpow_natCast, div_inv_eq_mul]
  have near :=
    abs_roundHalfEven_sub_le (number.placeNumerator (-(places : Int)))
      (number.placeDenominator_pos (-(places : Int)))
  have even :=
    even_roundHalfEven_of_tie (number.placeNumerator (-(places : Int)))
      (number.placeDenominator_pos (-(places : Int)))
  rw [ratio, abs_sub_comm] at near
  rw [ratio] at even
  refine ⟨number.roundAt (-(places : Int)), by push_cast; rfl, near, fun tie => ?_⟩
  exact_mod_cast Nat.even_iff.mpr (even tie)

/-- The expansion of a magnitude ends after `scale` places. -/
theorem absValue_mul_pow_scale :
    number.absValue * 10 ^ format.scale =
      ((number.magnitude * Nat.pow 5 format.scale : Nat) : ℤ) := by
  rw [absValue_eq_valueOf, valueOf, zpow_neg, zpow_natCast, mul_assoc,
    inv_mul_cancel₀ (by positivity), mul_one]
  push_cast
  rfl

/-- Places beyond the end of the expansion need not be asked for. -/
theorem roundedAt_roundAt_min
    (places : Nat) :
    RoundedAt number.absValue places
      ((number.roundAt (-((min places format.scale : Nat) : Int)) : Nat) /
        10 ^ min places format.scale : ℚ) := by
  have rounded := number.roundedAt_roundAt (min places format.scale)
  rcases Nat.le_total places format.scale with short | long
  · rwa [min_eq_left short] at rounded ⊢
  · rw [min_eq_right long] at rounded ⊢
    exact rounded.of_more_places number.absValue_mul_pow_scale long

end Binary

end Closeness
