import Mathlib.Algebra.Order.Field.Power
import Mathlib.Tactic.FieldSimp
import Mathlib.Tactic.Linarith
import Mathlib.Tactic.Positivity
import Mathlib.Tactic.Ring
import Closeness.Decimal.Literal
import Closeness.Proofs.Widening

/-!
# Reading decimals close to a number

The two comparisons with which reading a decimal starts spare large powers
only: the outcome is always the number nearest to the value of the decimal.
Hence a decimal whose error is less than the share `1 / (4 * hidden)` of a
number is read as that number.

A decimal may also be read in a wider format and be rounded from there.  The
first rounding at most doubles the distance to a number of the narrower format,
so a decimal twice as close is rounded to that number all the same.
-/

namespace Closeness

namespace Decimal

/-- The value of a coefficient at a power of ten. -/
def valueOf (coefficient : Nat) (exponent : Int) : ℚ :=
  coefficient * 10 ^ exponent

theorem lt_pow_length_decimalDigits
    (value : Nat) :
    value < 10 ^ (decimalDigits value).length :=
  (Nat.length_toDigits_le_iff (by decide) Nat.length_toDigits_pos).mp le_rfl

theorem pow_length_decimalDigits_le
    {value : Nat}
    (positive : 0 < value) :
    10 ^ ((decimalDigits value).length - 1) ≤ value := by
  rcases Nat.eq_zero_or_pos ((decimalDigits value).length - 1) with single | several
  · rw [single]
    exact positive
  · by_contra less
    have shorter :
        (decimalDigits value).length ≤ (decimalDigits value).length - 1 :=
      (Nat.length_toDigits_le_iff (by decide) several).mpr (Nat.lt_of_not_le less)
    have positiveLength : 0 < (decimalDigits value).length :=
      Nat.length_toDigits_pos
    omega

theorem valueOf_lt
    (coefficient : Nat)
    (exponent : Int) :
    valueOf coefficient exponent <
      10 ^ ((decimalDigits coefficient).length + exponent) := by
  have digits : (coefficient : ℚ) < 10 ^ (decimalDigits coefficient).length := by
    exact_mod_cast lt_pow_length_decimalDigits coefficient
  rw [valueOf, zpow_add₀ (by norm_num), zpow_natCast]
  exact mul_lt_mul_of_pos_right digits (by positivity)

theorem le_valueOf
    {coefficient : Nat}
    (positive : 0 < coefficient)
    (exponent : Int) :
    10 ^ ((decimalDigits coefficient).length + exponent - 1) ≤
      valueOf coefficient exponent := by
  have digits :
      (10 : ℚ) ^ ((decimalDigits coefficient).length - 1) ≤ coefficient := by
    exact_mod_cast pow_length_decimalDigits_le positive
  have length : 0 < (decimalDigits coefficient).length :=
    Nat.length_toDigits_pos
  have split :
      ((decimalDigits coefficient).length + exponent - 1 : Int) =
        ((decimalDigits coefficient).length - 1 : Nat) + exponent := by
    omega
  rw [valueOf, split, zpow_add₀ (by norm_num), zpow_natCast]
  exact mul_le_mul_of_nonneg_right digits (by positivity)

/-- The ratio that is rounded is the value in units. -/
theorem ratio_eq
    (coefficient unitsOfOne : Nat)
    (exponent : Int) :
    ((coefficient * Nat.pow 10 exponent.toNat * unitsOfOne : Nat) : ℚ) /
        (Nat.pow 10 (-exponent).toNat : Nat) =
      valueOf coefficient exponent * unitsOfOne := by
  rw [valueOf, Nat.pow_eq, Nat.pow_eq]
  push_cast
  rcases Int.le_total 0 exponent with nonneg | nonpos
  · obtain ⟨power, rfl⟩ := Int.eq_ofNat_of_zero_le nonneg
    simp
  · obtain ⟨power, opposite⟩ := Int.exists_eq_neg_ofNat nonpos
    subst opposite
    simp
    ring

theorem mul_lt_of_mul_le
    {error share bound size : ℚ}
    (nonneg : 0 ≤ error)
    (less : share < bound)
    (positive : 0 < size)
    (bounded : error * bound ≤ size) :
    error * share < size := by
  rcases nonneg.eq_or_lt with rfl | errorPositive
  · simpa using positive
  · exact (mul_lt_mul_of_pos_left less errorPositive).trans_le bounded

end Decimal

namespace Binary

open Decimal

variable {format : Format}

theorem valueOf_small
    {coefficient : Nat}
    {exponent : Int}
    (small : (decimalDigits coefficient).length + exponent < -format.scale) :
    valueOf coefficient exponent * format.unitsOfOne < 1 / 2 := by
  have unit : (format.unitsOfOne : ℚ) ≤ 10 ^ format.scale := by
    have powers : format.unitsOfOne ≤ 10 ^ format.scale :=
      Nat.pow_le_pow_left (by decide) _
    exact_mod_cast powers
  have digits :
      (10 : ℚ) ^ ((decimalDigits coefficient).length + exponent) ≤
        10 ^ (-(format.scale : Int) - 1) :=
    zpow_le_zpow_right₀ (by norm_num) (by omega)
  calc
    valueOf coefficient exponent * format.unitsOfOne ≤
        10 ^ (-(format.scale : Int) - 1) * 10 ^ format.scale :=
      mul_le_mul ((valueOf_lt coefficient exponent).le.trans digits) unit
        (by positivity) (by positivity)
    _ = 1 / 10 := by
      rw [← zpow_natCast, ← zpow_add₀ (by norm_num), sub_add_eq_add_sub,
        neg_add_cancel]
      norm_num
    _ < 1 / 2 := by
      norm_num

theorem le_valueOf_large
    {coefficient : Nat}
    {exponent : Int}
    (positive : 0 < coefficient)
    (large :
      Nat.pow 2 (format.exponentBits - 1) <
        (decimalDigits coefficient).length + exponent) :
    (format.unitsOfCode format.infinityCode : ℚ) ≤
      valueOf coefficient exponent * format.unitsOfOne := by
  have digits :
      (10 : ℚ) ^ (Nat.pow 2 (format.exponentBits - 1) : Int) ≤
        10 ^ ((decimalDigits coefficient).length + exponent - 1) :=
    zpow_le_zpow_right₀ (by norm_num) (by omega)
  have powers :
      (2 : ℚ) ^ Nat.pow 2 (format.exponentBits - 1) ≤
        10 ^ Nat.pow 2 (format.exponentBits - 1) :=
    pow_le_pow_left₀ (by norm_num) (by norm_num) _
  rw [zpow_natCast] at digits
  rw [format.unitsOfCode_infinityCode, mul_comm]
  push_cast
  exact
    mul_le_mul_of_nonneg_right
      (powers.trans (digits.trans (le_valueOf positive exponent))) (by positivity)

/-- Reading a decimal rounds its value, without an exception at either end of the range. -/
theorem ofDecimal_eq_ofRatio
    (negative : Bool)
    (coefficient : Nat)
    (exponent : Int) :
    (ofDecimal negative coefficient exponent : Binary format) =
      ofRatio negative (coefficient * Nat.pow 10 exponent.toNat * format.unitsOfOne)
        (Nat.pow 10 (-exponent).toNat) := by
  have positive : 0 < Nat.pow 10 (-exponent).toNat :=
    Nat.pow_pos (by decide)
  rw [ofDecimal]
  split
  · next small =>
    have rounded :
        format.unboundedCode
          (coefficient * Nat.pow 10 exponent.toNat * format.unitsOfOne)
          (Nat.pow 10 (-exponent).toNat) = 0 := by
      apply format.unboundedCode_eq_zero positive
      rw [ratio_eq]
      rcases small with rfl | small
      · simp [valueOf]
      · exact valueOf_small small
    apply Binary.ext
    · rfl
    · rw [code_ofRatio, rounded, Nat.zero_min]
      rfl
  · next notSmall =>
    split
    · next large =>
      have coefficientPositive : 0 < coefficient := by omega
      have rounded :
          format.infinityCode ≤
            format.unboundedCode
              (coefficient * Nat.pow 10 exponent.toNat * format.unitsOfOne)
              (Nat.pow 10 (-exponent).toNat) := by
        apply format.le_unboundedCode positive
        rw [ratio_eq]
        exact le_valueOf_large coefficientPositive large
      apply Binary.ext
      · rfl
      · rw [code_ofRatio, min_eq_right rounded]
        rfl
    · rfl

theorem negative_ofDecimal
    (negative : Bool)
    (coefficient : Nat)
    (exponent : Int) :
    (ofDecimal negative coefficient exponent : Binary format).negative = negative := by
  rw [ofDecimal_eq_ofRatio]
  rfl

theorem code_ofDecimal
    (negative : Bool)
    (coefficient : Nat)
    (exponent : Int) :
    (ofDecimal negative coefficient exponent : Binary format).code =
      min
        (format.unboundedCode
          (coefficient * Nat.pow 10 exponent.toNat * format.unitsOfOne)
          (Nat.pow 10 (-exponent).toNat))
        format.infinityCode := by
  rw [ofDecimal_eq_ofRatio, code_ofRatio]

theorem ofRatio_eq_of_close
    {number : Binary format}
    {numerator denominator : Nat}
    {approximation : ℚ}
    (finite : number.isFinite = true)
    (positive : 0 < denominator)
    (ratio : (numerator : ℚ) / denominator = approximation * format.unitsOfOne)
    (close :
      |approximation - number.absValue| * (4 * format.hidden) < number.absValue) :
    ofRatio number.negative numerator denominator = number := by
  have unitPositive := format.unitsOfOne_pos_rat
  have rounded : format.unboundedCode numerator denominator = number.code := by
    apply format.unboundedCode_eq_of_close positive
    rw [ratio, ← absValue_mul_unitsOfOne, ← sub_mul, abs_mul,
      abs_of_pos unitPositive, mul_right_comm]
    exact mul_lt_mul_of_pos_right close unitPositive
  apply Binary.ext
  · rfl
  · rw [code_ofRatio, rounded, min_eq_left (Nat.le_of_lt (isFinite_iff.mp finite))]

/-- A decimal close to a number is read as that number. -/
theorem ofDecimal_eq_of_close
    {number : Binary format}
    {coefficient : Nat}
    {exponent : Int}
    (finite : number.isFinite = true)
    (close :
      |valueOf coefficient exponent - number.absValue| * (4 * format.hidden) <
        number.absValue) :
    ofDecimal number.negative coefficient exponent = number := by
  rw [ofDecimal_eq_ofRatio]
  exact ofRatio_eq_of_close finite (Nat.pow_pos (by decide)) (ratio_eq ..) close

variable {source target : Format}

theorem exists_code_absValue
    (within : source.Within target)
    {number : Binary source}
    (finite : number.isFinite = true) :
    ∃ wide, (target.unitsOfCode wide : ℚ) = number.absValue * target.unitsOfOne := by
  refine ⟨(number.convert target).code, ?_⟩
  rw [← absValue_mul_unitsOfOne, ← abs_value, within.value_convert finite, abs_value]

/--
A number of the narrower format is one that rounding in the wider format could
have chosen.  So what it chooses is no farther from the ratio, and at most twice
as far from the number as the ratio is.
-/
theorem close_unboundedCode
    (within : source.Within target)
    {number : Binary source}
    {numerator denominator : Nat}
    {approximation : ℚ}
    (finite : number.isFinite = true)
    (positive : 0 < denominator)
    (ratio : (numerator : ℚ) / denominator = approximation * target.unitsOfOne) :
    |(target.unitsOfCode (target.unboundedCode numerator denominator) : ℚ) /
          target.unitsOfOne - number.absValue| ≤
      2 * |approximation - number.absValue| := by
  have unitPositive := target.unitsOfOne_pos_rat
  obtain ⟨wide, wideUnits⟩ := exists_code_absValue within finite
  have nearest := target.abs_sub_unboundedCode_le numerator wide positive
  rw [ratio, wideUnits, ← sub_mul, abs_mul, abs_of_pos unitPositive,
    ← div_le_iff₀ unitPositive] at nearest
  generalize (target.unitsOfCode (target.unboundedCode numerator denominator) : ℚ) =
    selected at *
  have distance :
      |approximation * target.unitsOfOne - selected| / target.unitsOfOne =
        |selected / target.unitsOfOne - approximation| := by
    rw [abs_sub_comm (selected / target.unitsOfOne)]
    nth_rewrite 2 [← abs_of_pos unitPositive]
    rw [← abs_div, sub_div, mul_div_cancel_right₀ _ unitPositive.ne']
  calc
    |selected / target.unitsOfOne - number.absValue| ≤
        |selected / target.unitsOfOne - approximation| +
          |approximation - number.absValue| :=
      abs_sub_le ..
    _ ≤ 2 * |approximation - number.absValue| := by
      linarith

theorem lt_infinityCode_of_lt
    (within : source.Within target)
    (room : source.RoomyIn target)
    {number : Binary source}
    {code : Nat}
    (finite : number.isFinite = true)
    (small :
      (target.unitsOfCode code : ℚ) / target.unitsOfOne < 2 * number.absValue) :
    code < target.infinityCode := by
  have unitPositive := target.unitsOfOne_pos_rat
  have inUnits :
      number.absValue * target.unitsOfOne =
        (source.unitsOfCode number.code * 2 ^ (target.scale - source.scale) : Nat) := by
    rw [within.unitsOfOne_eq]
    push_cast
    rw [← mul_assoc, absValue_mul_unitsOfOne]
  rw [div_lt_iff₀ unitPositive, mul_assoc, inUnits] at small
  have smallUnits :
      target.unitsOfCode code <
        2 * (source.unitsOfCode number.code * 2 ^ (target.scale - source.scale)) := by
    exact_mod_cast small
  rw [← target.unitsOfCode_strictMono.lt_iff_lt]
  calc
    target.unitsOfCode code <
        2 * (source.unitsOfCode number.code * 2 ^ (target.scale - source.scale)) :=
      smallUnits
    _ ≤ 2 * (source.unitsOfCode source.infinityCode *
          2 ^ (target.scale - source.scale)) := by
      apply Nat.mul_le_mul_left
      apply Nat.mul_le_mul_right
      exact source.unitsOfCode_strictMono.monotone (Nat.le_of_lt (isFinite_iff.mp finite))
    _ ≤ target.unitsOfCode target.infinityCode := room

/-- A decimal close to a number is that number after reading it in a wider format. -/
theorem convert_ofDecimal_of_close
    (within : source.Within target)
    (room : source.RoomyIn target)
    {number : Binary source}
    {coefficient : Nat}
    {exponent : Int}
    (finite : number.isFinite = true)
    (close :
      |valueOf coefficient exponent - number.absValue| * (8 * source.hidden) <
        number.absValue) :
    (ofDecimal number.negative coefficient exponent : Binary target).convert source =
      number := by
  have positive : 0 < Nat.pow 10 (-exponent).toNat :=
    Nat.pow_pos (by decide)
  have hiddenPositive : (1 : ℚ) ≤ source.hidden := by
    exact_mod_cast source.hidden_pos
  have near :=
    close_unboundedCode within finite positive
      (ratio_eq coefficient target.unitsOfOne exponent)
  have signRead := @negative_ofDecimal target number.negative coefficient exponent
  have codeRead := @code_ofDecimal target number.negative coefficient exponent
  generalize (ofDecimal number.negative coefficient exponent : Binary target) = read at *
  generalize target.unboundedCode _ _ = selected at near codeRead
  have nonneg := abs_nonneg (valueOf coefficient exponent - number.absValue)
  have inRange : selected < target.infinityCode := by
    apply lt_infinityCode_of_lt within room finite
    have bound := (abs_le.mp near).2
    nlinarith
  rw [min_eq_left inRange.le] at codeRead
  have readFinite : read.isFinite = true := by
    rw [isFinite_iff, codeRead]
    exact inRange
  have ratio :
      ((read.magnitude * source.unitsOfOne : Nat) : ℚ) / target.unitsOfOne =
        read.absValue * source.unitsOfOne := by
    rw [absValue]
    push_cast
    rw [div_mul_eq_mul_div]
  rw [convert_of_isFinite readFinite, signRead]
  apply ofRatio_eq_of_close finite target.unitsOfOne_pos ratio
  rw [absValue, magnitude, codeRead]
  nlinarith

end Binary

namespace Width

open Binary Decimal

/--
A decimal that differs from a number of a width by less than its round-trip
digits show is the number again after reading and rounding.
-/
theorem round_ofDecimal_of_close
    (width : Width)
    {number : Binary width.format}
    {coefficient : Nat}
    {exponent : Int}
    (finite : number.isFinite = true)
    (positive : 0 < number.absValue)
    (close :
      |valueOf coefficient exponent - number.absValue| *
          (2 * 10 ^ (width.roundTripDigits - 1)) ≤
        number.absValue) :
    width.round (ofDecimal number.negative coefficient exponent) = number := by
  have nonneg := abs_nonneg (valueOf coefficient exponent - number.absValue)
  cases width with
  | single =>
      have share : (8 * Format.binary32.hidden : ℚ) < 2 * 10 ^ (9 - 1) := by
        norm_num [Format.hidden, Format.binary32]
      exact
        convert_ofDecimal_of_close Format.binary32_within_binary64
          Format.binary32_roomyIn_binary64 finite
          (mul_lt_of_mul_le nonneg share positive close)
  | double =>
      have share : (4 * Format.binary64.hidden : ℚ) < 2 * 10 ^ (17 - 1) := by
        norm_num [Format.hidden, Format.binary64]
      exact
        ofDecimal_eq_of_close finite
          (mul_lt_of_mul_le nonneg share positive close)

end Width

end Closeness
