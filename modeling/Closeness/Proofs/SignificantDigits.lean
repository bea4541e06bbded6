import Closeness.Decimal.Scientific
import Closeness.Proofs.DecimalReading

/-!
# Rounding to significant digits

The exact decimal expansion of a finite number fixes the place of its leading
digit.  Rounding at a place errs by at most half of that place, so a count of
significant digits loses at most the share `1 / (2 * 10 ^ (count - 1))` of the
number.  A carry into a new leading digit changes the digits and the exponent,
but not the value.
-/

namespace Closeness

open Decimal

theorem abs_roundHalfEven_sub_le
    (numerator : Nat)
    {denominator : Nat}
    (positive : 0 < denominator) :
    |(roundHalfEven numerator denominator : ℚ) - numerator / denominator| ≤ 1 / 2 := by
  have positiveRational : (0 : ℚ) < denominator := by
    exact_mod_cast positive
  have upper :
      2 * numerator ≤ (2 * roundHalfEven numerator denominator + 1) * denominator := by
    rcases (roundHalfEven_le_iff numerator _ positive).mp le_rfl with below | ⟨half, -⟩
    · exact below.le
    · exact half.le
  have lower :
      2 * roundHalfEven numerator denominator * denominator ≤
        2 * numerator + denominator := by
    rcases Nat.eq_zero_or_pos (roundHalfEven numerator denominator) with
      noLess | positiveResult
    · simp [noLess]
    · obtain ⟨previous, result⟩ := Nat.exists_eq_add_one.mpr positiveResult
      have notBelow : ¬ roundHalfEven numerator denominator ≤ previous := by omega
      rw [roundHalfEven_le_iff numerator _ positive, not_or] at notBelow
      have reached := Nat.le_of_not_lt notBelow.1
      rw [result]
      linarith
  have upperRational :
      (2 * numerator : ℚ) ≤
        (2 * roundHalfEven numerator denominator + 1) * denominator := by
    exact_mod_cast upper
  have lowerRational :
      (2 * roundHalfEven numerator denominator * denominator : ℚ) ≤
        2 * numerator + denominator := by
    exact_mod_cast lower
  have multiplied :
      (numerator : ℚ) / denominator * denominator = numerator :=
    div_mul_cancel₀ _ positiveRational.ne'
  rw [abs_le]
  constructor
  · nlinarith
  · nlinarith

namespace Binary

variable {format : Format}

/-- A number is its exact decimal expansion. -/
theorem absValue_eq_valueOf
    (number : Binary format) :
    number.absValue =
      valueOf (number.magnitude * Nat.pow 5 format.scale) (-format.scale) := by
  rw [absValue, valueOf, Format.unitsOfOne, Nat.pow_eq, Nat.pow_eq, zpow_neg,
    zpow_natCast, show (10 : ℚ) = 2 * 5 by norm_num, mul_pow]
  push_cast
  field_simp

theorem decimalExponent_add_one
    (number : Binary format) :
    number.decimalExponent + 1 =
      (decimalDigits (number.magnitude * Nat.pow 5 format.scale)).length +
        -(format.scale : Int) := by
  rw [decimalExponent]
  omega

theorem absValue_lt
    (number : Binary format) :
    number.absValue < 10 ^ (number.decimalExponent + 1) := by
  rw [absValue_eq_valueOf, decimalExponent_add_one]
  exact valueOf_lt ..

theorem pow_decimalExponent_le
    {number : Binary format}
    (notZero : number.isZero = false) :
    10 ^ number.decimalExponent ≤ number.absValue := by
  have exponent :
      number.decimalExponent =
        (decimalDigits (number.magnitude * Nat.pow 5 format.scale)).length +
            -(format.scale : Int) - 1 := by
    rw [← decimalExponent_add_one, add_sub_cancel_right]
  rw [absValue_eq_valueOf, exponent]
  exact le_valueOf (Nat.mul_pos (magnitude_pos notZero) (Nat.pow_pos (by decide))) _

theorem placeRatio_eq
    (number : Binary format)
    (place : Int) :
    (number.placeNumerator place : ℚ) / number.placeDenominator place =
      number.absValue / 10 ^ place := by
  rw [absValue, placeNumerator, placeDenominator, Nat.pow_eq, Nat.pow_eq]
  push_cast
  rcases Int.le_total 0 place with nonneg | nonpos
  · obtain ⟨power, rfl⟩ := Int.eq_ofNat_of_zero_le nonneg
    simp
    field_simp
  · obtain ⟨power, rfl⟩ := Int.exists_eq_neg_ofNat nonpos
    simp
    field_simp

/-- Rounding at a place errs by at most half of the place. -/
theorem abs_roundAt_sub_le
    (number : Binary format)
    (place : Int) :
    |valueOf (number.roundAt place) place - number.absValue| ≤ 10 ^ place / 2 := by
  have placePositive : (0 : ℚ) < 10 ^ place := by
    positivity
  have rounded :=
    abs_roundHalfEven_sub_le (number.placeNumerator place)
      (number.placeDenominator_pos place)
  rw [placeRatio_eq] at rounded
  have scaled :
      valueOf (number.roundAt place) place - number.absValue =
        (number.roundAt place - number.absValue / 10 ^ place) * 10 ^ place := by
    rw [valueOf, sub_mul, div_mul_cancel₀ _ placePositive.ne']
  rw [scaled, abs_mul, abs_of_pos placePositive]
  calc
    |(number.roundAt place : ℚ) - number.absValue / 10 ^ place| * 10 ^ place ≤
        1 / 2 * 10 ^ place :=
      mul_le_mul_of_nonneg_right rounded placePositive.le
    _ = 10 ^ place / 2 := by
      ring

/-- The place of the last of a count of significant digits. -/
def lastPlace (number : Binary format) (count : Nat) : Int :=
  number.decimalExponent - (count - 1)

theorem pow_lastPlace_mul
    (number : Binary format)
    {count : Nat}
    (countPositive : 0 < count) :
    (10 : ℚ) ^ number.lastPlace count * 10 ^ (count - 1) =
      10 ^ number.decimalExponent := by
  rw [lastPlace, ← zpow_natCast, ← zpow_add₀ (by norm_num)]
  congr 1
  omega

/-- Rounding to a count of digits passes the next power of ten at most by a carry. -/
theorem roundAt_lastPlace_le
    (number : Binary format)
    (count : Nat) :
    number.roundAt (number.lastPlace count) ≤ 10 ^ count := by
  have placePositive : (0 : ℚ) < 10 ^ number.lastPlace count := by
    positivity
  have error := (abs_le.mp (number.abs_roundAt_sub_le (number.lastPlace count))).2
  have below := number.absValue_lt
  have leading :
      (10 : ℚ) ^ (number.decimalExponent + 1) =
        10 ^ count * 10 ^ number.lastPlace count := by
    rw [lastPlace, ← zpow_natCast, ← zpow_add₀ (by norm_num)]
    congr 1
    omega
  rw [leading] at below
  rw [valueOf] at error
  have bound :
      (number.roundAt (number.lastPlace count) : ℚ) < 10 ^ count + 1 := by
    nlinarith
  apply Nat.le_of_lt_succ
  exact_mod_cast bound

theorem significand_lt
    (number : Binary format)
    {count : Nat}
    (countPositive : 0 < count) :
    (number.significant count).significand < 10 ^ count := by
  have bound := number.roundAt_lastPlace_le count
  rw [lastPlace] at bound
  rw [significant]
  split
  · exact Nat.pow_pos (by decide)
  · split
    · exact Nat.pow_lt_pow_right (by decide) (by omega)
    · next noCarry =>
      exact lt_of_le_of_ne bound noCarry

/-- A carry moves the point but keeps the value. -/
theorem valueOf_significant
    {number : Binary format}
    {count : Nat}
    (countPositive : 0 < count)
    (notZero : number.isZero = false) :
    valueOf (number.significant count).significand
        ((number.significant count).exponent - (count - 1)) =
      valueOf (number.roundAt (number.lastPlace count)) (number.lastPlace count) := by
  rw [significant, notZero, if_neg (by decide), ← lastPlace]
  split
  · next carry =>
    rw [carry, valueOf, valueOf, Nat.pow_eq, Nat.pow_eq]
    push_cast
    rw [← zpow_natCast, ← zpow_natCast, ← zpow_add₀ (by norm_num),
      ← zpow_add₀ (by norm_num), lastPlace]
    congr 1
    omega
  · rfl

/-- What a count of significant digits loses of a number. -/
theorem abs_significant_sub_le
    {number : Binary format}
    {count : Nat}
    (countPositive : 0 < count)
    (notZero : number.isZero = false) :
    |valueOf (number.significant count).significand
          ((number.significant count).exponent - (count - 1)) -
        number.absValue| * (2 * 10 ^ (count - 1)) ≤
      number.absValue := by
  have error := number.abs_roundAt_sub_le (number.lastPlace count)
  have digits : (0 : ℚ) ≤ 2 * 10 ^ (count - 1) := by
    positivity
  rw [valueOf_significant countPositive notZero]
  calc
    |valueOf (number.roundAt (number.lastPlace count)) (number.lastPlace count) -
          number.absValue| * (2 * 10 ^ (count - 1)) ≤
        10 ^ number.lastPlace count / 2 * (2 * 10 ^ (count - 1)) :=
      mul_le_mul_of_nonneg_right error digits
    _ = 10 ^ number.lastPlace count * 10 ^ (count - 1) := by
      ring
    _ = 10 ^ number.decimalExponent := number.pow_lastPlace_mul countPositive
    _ ≤ number.absValue := pow_decimalExponent_le notZero

end Binary

end Closeness
