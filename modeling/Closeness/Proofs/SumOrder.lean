import Closeness.Binary.Arithmetic
import Closeness.Proofs.Nearest
import Closeness.Proofs.Value

/-!
# Order of rounded sums and products

Rounding a whole number of units is monotone and gives back the units of a
finite number, so a finite number is at most its sum with anything that is
not negative.  With the infinities this says when a number is within a margin
of itself: always, unless the sum of number and margin is `∞ - ∞`.

A product of numbers that are not negative is not negative either, unless it
is `0 * ∞`, which is NaN.
-/

namespace Closeness

namespace Format

variable (format : Format)

/-- Greater ratios are rounded to greater codes. -/
theorem nearestCode_mono
    {numerator denominator numerator' denominator' : Nat}
    (positive : 0 < denominator)
    (positive' : 0 < denominator')
    (ordered : numerator * denominator' ≤ numerator' * denominator) :
    format.nearestCode numerator denominator ≤
      format.nearestCode numerator' denominator' := by
  have positiveRational : (0 : ℚ) < denominator := by
    exact_mod_cast positive
  have positiveRational' : (0 : ℚ) < denominator' := by
    exact_mod_cast positive'
  have ratios : (numerator : ℚ) / denominator ≤ (numerator' : ℚ) / denominator' := by
    rw [div_le_div_iff₀ positiveRational positiveRational']
    exact_mod_cast ordered
  rw [nearestCode_eq, nearestCode_eq]
  exact
    min_le_min_right _ (format.unboundedCode_mono positive positive' ratios)

theorem nearestCode_unitsOfCode
    {code : Nat}
    (inRange : code ≤ format.infinityCode) :
    format.nearestCode (format.unitsOfCode code) 1 = code := by
  have exact :
      (format.unitsOfCode code : ℚ) / (1 : Nat) = format.unitsOfCode code := by
    simp
  rw [nearestCode_eq, format.unboundedCode_unitsOfCode Nat.one_pos exact,
    min_eq_left inRange]

@[simp]
theorem nearestCode_zero
    (denominator : Nat) :
    format.nearestCode 0 denominator = 0 := by
  simp [nearestCode, shiftOf, roundHalfEven]

end Format

namespace Binary

variable {format : Format}

theorem isNaN_nan
    (negative : Bool) :
    (nan negative : Binary format).isNaN = true :=
  isNaN_iff.mpr (Nat.lt_add_of_pos_right format.quietBit_pos)

theorem units_neg_iff
    {number : Binary format} :
    number.units < 0 ↔ number.position < 0 := by
  have origin : format.unitsAt 0 = 0 := by
    simp [Format.unitsAt]
  have ordered := format.unitsAt_strictMono.lt_iff_lt (a := number.position) (b := 0)
  rw [origin, ← units_eq_unitsAt] at ordered
  exact ordered

theorem natAbs_units
    (number : Binary format) :
    number.units.natAbs = number.magnitude := by
  cases sign : number.negative <;> simp [units, sign]

@[simp]
theorem isNaN_ofUnits
    (units : Int)
    (zeroSign : Bool) :
    (ofUnits units zeroSign : Binary format).isNaN = false :=
  isNaN_ofRatio ..

/-- The code of rounded units, with their sign; the sign of zero does not show. -/
theorem position_ofUnits
    (units : Int)
    (zeroSign : Bool) :
    (ofUnits units zeroSign : Binary format).position =
      if units < 0 then
        -(format.nearestCode units.natAbs 1 : Int)
      else
        format.nearestCode units.natAbs 1 := by
  rcases eq_or_ne units 0 with rfl | away
  · simp [ofUnits, ofRatio, position]
  · simp [ofUnits, ofRatio, position, away]

/-- Greater sums are rounded to greater numbers. -/
theorem position_ofUnits_mono
    {left right : Int}
    (ordered : left ≤ right)
    (leftSign rightSign : Bool) :
    (ofUnits left leftSign : Binary format).position ≤
      (ofUnits right rightSign : Binary format).position := by
  rw [position_ofUnits, position_ofUnits]
  split
  · next leftNegative =>
    split
    · next rightNegative =>
      have codes :=
        format.nearestCode_mono Nat.one_pos Nat.one_pos
          (show right.natAbs * 1 ≤ left.natAbs * 1 by omega)
      omega
    · omega
  · next leftNonneg =>
    have codes :=
      format.nearestCode_mono Nat.one_pos Nat.one_pos
        (show left.natAbs * 1 ≤ right.natAbs * 1 by omega)
    rw [if_neg (by omega)]
    omega

/-- The units of a finite number are rounded to its position. -/
theorem position_ofUnits_units
    {number : Binary format}
    (finite : number.isFinite = true)
    (zeroSign : Bool) :
    (ofUnits number.units zeroSign : Binary format).position = number.position := by
  have inRange := Nat.le_of_lt (isFinite_iff.mp finite)
  rw [position_ofUnits, natAbs_units, magnitude, format.nearestCode_unitsOfCode inRange,
    ← natAbs_position]
  split
  · next negative =>
    rw [units_neg_iff] at negative
    omega
  · next nonneg =>
    rw [units_neg_iff] at nonneg
    omega

theorem add_of_isNaN
    {left right : Binary format}
    (noNumber : left.isNaN = true ∨ right.isNaN = true) :
    left + right = nan false := by
  show add left right = _
  rcases noNumber with leftNoNumber | rightNoNumber
  · simp [add, leftNoNumber]
  · simp [add, rightNoNumber]

theorem add_of_isFinite
    {left right : Binary format}
    (leftFinite : left.isFinite = true)
    (rightFinite : right.isFinite = true) :
    left + right =
      ofUnits (left.units + right.units) (left.negative && right.negative) := by
  show add left right = _
  simp [add, isNaN_of_isFinite leftFinite, isNaN_of_isFinite rightFinite,
    isInfinite_of_isFinite leftFinite, isInfinite_of_isFinite rightFinite]

theorem add_of_isInfinite_left
    {left right : Binary format}
    (leftInfinite : left.isInfinite = true)
    (rightNumber : right.isNaN = false)
    (agree : right.isInfinite = true → left.negative = right.negative) :
    left + right = left := by
  show add left right = _
  rcases Bool.eq_false_or_eq_true right.isInfinite with rightInfinite | rightFinite
  · simp [add, isNaN_of_isInfinite leftInfinite, rightNumber, leftInfinite, agree rightInfinite]
  · simp [add, isNaN_of_isInfinite leftInfinite, rightNumber, leftInfinite, rightFinite]

theorem add_of_isInfinite_right
    {left right : Binary format}
    (leftFinite : left.isFinite = true)
    (rightInfinite : right.isInfinite = true) :
    left + right = right := by
  show add left right = _
  simp [add, isNaN_of_isFinite leftFinite, isNaN_of_isInfinite rightInfinite,
    isInfinite_of_isFinite leftFinite, rightInfinite]

/-- Opposite infinities have no sum. -/
theorem isNaN_add_of_opposite
    {left right : Binary format}
    (leftInfinite : left.isInfinite = true)
    (rightInfinite : right.isInfinite = true)
    (opposite : left.negative ≠ right.negative) :
    (left + right).isNaN = true := by
  show (add left right).isNaN = true
  simp [add, isNaN_of_isInfinite leftInfinite, isNaN_of_isInfinite rightInfinite,
    leftInfinite, rightInfinite, opposite, isNaN_nan]

theorem isNaN_of_zero_atMost
    {number : Binary format}
    (nonneg : (zero false).atMost number = true) :
    number.isNaN = false := by
  simp only [atMost, Bool.and_eq_true, Bool.not_eq_true'] at nonneg
  exact nonneg.1.2

/-- A finite number is at most its sum with a number that is not negative. -/
theorem atMost_add
    {left right : Binary format}
    (leftFinite : left.isFinite = true)
    (rightNonneg : (zero false).atMost right = true) :
    left.atMost (left + right) = true := by
  have leftNumber := isNaN_of_isFinite leftFinite
  have rightNumber := isNaN_of_zero_atMost rightNonneg
  rw [atMost_iff (isNaN_zero false) rightNumber, position_zero] at rightNonneg
  rcases isFinite_or_isInfinite rightNumber with rightFinite | rightInfinite
  · rw [add_of_isFinite leftFinite rightFinite, atMost_iff leftNumber (isNaN_ofUnits ..),
      ← position_ofUnits_units leftFinite (left.negative && right.negative)]
    have grows : ¬ right.units < 0 := by
      rw [units_neg_iff]
      omega
    exact position_ofUnits_mono (by omega) ..
  · have leftShort := isFinite_iff.mp leftFinite
    have rightCode := isInfinite_iff.mp rightInfinite
    rw [← natAbs_position] at leftShort rightCode
    rw [add_of_isInfinite_right leftFinite rightInfinite, atMost_iff leftNumber rightNumber]
    omega

theorem atMost_self
    {number : Binary format}
    (someNumber : number.isNaN = false) :
    number.atMost number = true :=
  (atMost_iff someNumber someNumber).mpr (Int.le_refl _)

/-- Of the numbers that are not below zero, only zero has a sign bit. -/
theorem code_eq_zero_of_negative
    {number : Binary format}
    (nonneg : (zero false).atMost number = true)
    (negative : number.negative = true) :
    number.code = 0 := by
  rw [atMost_iff (isNaN_zero false) (isNaN_of_zero_atMost nonneg), position_zero,
    position, if_pos negative] at nonneg
  omega

theorem negative_eq_false_of_isInfinite
    {number : Binary format}
    (infinite : number.isInfinite = true)
    (nonneg : (zero false).atMost number = true) :
    number.negative = false := by
  have positive := format.infinityCode_pos
  have code := isInfinite_iff.mp infinite
  by_contra negative
  have zeroCode := code_eq_zero_of_negative nonneg (by simpa using negative)
  omega

/-- A number is within a margin of itself unless number and margin add to `∞ - ∞`. -/
theorem withinMargin_self_iff
    {number margin : Binary format}
    (someNumber : number.isNaN = false)
    (marginNonneg : (zero false).atMost margin = true) :
    number.withinMargin number margin = true ↔
      ¬ (margin.isInfinite = true ∧ number = infinity true) := by
  have marginNumber := isNaN_of_zero_atMost marginNonneg
  rw [withinMargin, Bool.and_self]
  constructor
  · rintro reached ⟨marginInfinite, rfl⟩
    have marginSign := negative_eq_false_of_isInfinite marginInfinite marginNonneg
    have noSum : (infinity true + margin).isNaN = true :=
      isNaN_add_of_opposite (isInfinite_infinity true) marginInfinite
        (by simp [marginSign, infinity])
    rw [atMost, noSum, Bool.not_true, Bool.and_false, Bool.false_and] at reached
    exact Bool.false_ne_true reached
  · intro hasSum
    rcases isFinite_or_isInfinite someNumber with finite | infinite
    · exact atMost_add finite marginNonneg
    · have agree : margin.isInfinite = true → number.negative = margin.negative := by
        intro marginInfinite
        rw [negative_eq_false_of_isInfinite marginInfinite marginNonneg]
        by_contra negative
        rw [Bool.not_eq_false] at negative
        rw [← infinity_of_isInfinite infinite, negative] at hasSum
        exact hasSum ⟨marginInfinite, rfl⟩
      rw [add_of_isInfinite_left infinite marginNumber agree]
      exact atMost_self someNumber

theorem mul_of_isNaN
    {left right : Binary format}
    (noNumber : left.isNaN = true ∨ right.isNaN = true) :
    left * right = nan false := by
  show mul left right = _
  rcases noNumber with leftNoNumber | rightNoNumber
  · simp [mul, leftNoNumber]
  · simp [mul, rightNoNumber]

theorem mul_of_isFinite
    {left right : Binary format}
    (leftFinite : left.isFinite = true)
    (rightFinite : right.isFinite = true) :
    left * right =
      ofRatio (left.negative != right.negative)
        (left.magnitude * right.magnitude) format.unitsOfOne := by
  show mul left right = _
  simp [mul, isNaN_of_isFinite leftFinite, isNaN_of_isFinite rightFinite,
    isInfinite_of_isFinite leftFinite, isInfinite_of_isFinite rightFinite]

/-- A product of finite numbers that are not negative is not negative. -/
theorem zero_atMost_mul_of_isFinite
    {left right : Binary format}
    (leftFinite : left.isFinite = true)
    (rightFinite : right.isFinite = true)
    (leftNonneg : (zero false).atMost left = true)
    (rightNonneg : (zero false).atMost right = true) :
    (zero false).atMost (left * right) = true := by
  rw [mul_of_isFinite leftFinite rightFinite, atMost_iff (isNaN_zero false) (isNaN_ofRatio ..),
    position_zero, position]
  split
  · next negative =>
    have oneZero : left.magnitude = 0 ∨ right.magnitude = 0 := by
      rcases Bool.eq_false_or_eq_true left.negative with leftSign | leftSign
      · left
        rw [magnitude, code_eq_zero_of_negative leftNonneg leftSign, Format.unitsOfCode_zero]
      · right
        have rightSign : right.negative = true := by
          simpa [ofRatio, leftSign] using negative
        rw [magnitude, code_eq_zero_of_negative rightNonneg rightSign, Format.unitsOfCode_zero]
    simp [ofRatio, Nat.mul_eq_zero.mpr oneZero]
  · omega

theorem zero_atMost_abs
    {number : Binary format}
    (someNumber : number.isNaN = false) :
    (zero false).atMost number.abs = true := by
  have magnitude : number.abs.isNaN = false := someNumber
  rw [atMost_iff (isNaN_zero false) magnitude, position_zero]
  exact Int.natCast_nonneg _

theorem isNaN_of_isZero
    {number : Binary format}
    (isZero : number.isZero = true) :
    number.isNaN = false := by
  rw [← zero_of_isZero isZero, isNaN_zero]

theorem isNaN_mul_of_zero_of_infinite
    {left right : Binary format}
    (leftZero : left.isZero = true)
    (rightInfinite : right.isInfinite = true) :
    (left * right).isNaN = true := by
  show (mul left right).isNaN = true
  simp [mul, isNaN_of_isZero leftZero, isNaN_of_isInfinite rightInfinite, rightInfinite, leftZero,
    isNaN_nan]

theorem isInfinite_mul_of_infinite
    {left right : Binary format}
    (leftNumber : left.isNaN = false)
    (leftAway : left.isZero = false)
    (rightInfinite : right.isInfinite = true) :
    (left * right).isInfinite = true := by
  have rightAway : right.isZero = false := by
    have positive := format.infinityCode_pos
    rw [isZero, isInfinite_iff.mp rightInfinite, beq_eq_false_iff_ne]
    omega
  show (mul left right).isInfinite = true
  simp [mul, leftNumber, isNaN_of_isInfinite rightInfinite, rightInfinite, leftAway, rightAway,
    isInfinite_infinity]

/-- Nothing is within a margin that is no number. -/
theorem withinMargin_of_isNaN
    (left right : Binary format)
    {margin : Binary format}
    (noNumber : margin.isNaN = true) :
    left.withinMargin right margin = false := by
  have noSum : (left + margin).isNaN = true := by
    rw [add_of_isNaN (Or.inr noNumber), isNaN_nan]
  rw [withinMargin, atMost, noSum, Bool.not_true, Bool.and_false, Bool.false_and, Bool.false_and]

end Binary

end Closeness
