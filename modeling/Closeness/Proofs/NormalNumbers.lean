import Closeness.Proofs.CorrectRounding

/-!
# Normal numbers

The normal numbers of a format are those from the least normal magnitude on.
A gap between them is at most the share `1 / hidden` of the number below it, so
rounding an exact number in the normal range errs by at most half of this share.

The bound is first shown for codes and then for `Rounds`: an exact number is
rounded to one value, so what holds of the code that is computed holds of every
number that is the exact one, rounded.
-/

namespace Closeness

namespace Format

variable (format : Format)

/-- The least normal magnitude. -/
def leastNormal : ℚ :=
  format.hidden / format.unitsOfOne

theorem leastNormal_binary32 : binary32.leastNormal = 1 / 2 ^ 126 := by
  decide +kernel

theorem leastNormal_binary64 : binary64.leastNormal = 1 / 2 ^ 1022 := by
  decide +kernel

/-- The first normal code is its own magnitude. -/
theorem unitsOfCode_hidden : format.unitsOfCode format.hidden = format.hidden := by
  have start :
      format.unitsOfCode (0 * format.hidden + format.hidden) = format.hidden * 2 ^ 0 :=
    format.unitsOfCode_shifted (by omega) (Or.inr rfl)
  simpa using start

variable {format}

/-- The gap above a normal magnitude is at most its part in `hidden`. -/
theorem hidden_mul_spacing_le
    {code : Nat}
    (normal : format.hidden ≤ code) :
    format.hidden * format.spacing code ≤ format.unitsOfCode code := by
  rw [unitsOfCode_eq_significandOf_mul, format.significandOf_of_le normal]
  exact Nat.mul_le_mul_right _ (Nat.le_add_right _ _)

/-- A ratio in the normal range is rounded with an error of at most its part in `2 * hidden`. -/
theorem abs_sub_unboundedCode_mul_le
    {numerator denominator : Nat}
    (positive : 0 < denominator)
    (normal : (format.hidden : ℚ) ≤ numerator / denominator) :
    |(numerator : ℚ) / denominator -
        format.unitsOfCode (format.unboundedCode numerator denominator)| *
        (2 * format.hidden) ≤
      numerator / denominator := by
  have within := format.ratio_le_midpoint numerator positive
  have passed := fun previous => @midpoint_le_ratio format numerator denominator previous positive
  have reached : format.hidden ≤ format.unboundedCode numerator denominator := by
    apply format.le_unboundedCode positive
    rwa [unitsOfCode_hidden]
  generalize format.unboundedCode numerator denominator = code at *
  generalize (numerator : ℚ) / denominator = ratio at *
  have gapOf : ∀ {code : Nat}, format.hidden ≤ code →
      (format.hidden * format.spacing code : ℚ) ≤ format.unitsOfCode code := by
    intro code normalCode
    exact_mod_cast hidden_mul_spacing_le normalCode
  have next : ∀ code : Nat,
      (format.unitsOfCode (code + 1) : ℚ) = format.unitsOfCode code + format.spacing code := by
    intro code
    exact_mod_cast format.unitsOfCode_succ code
  have hiddenPositive : (0 : ℚ) < format.hidden := by
    exact_mod_cast format.hidden_pos
  rcases le_or_gt (format.unitsOfCode code : ℚ) ratio with below | above
  · have gap := gapOf reached
    rw [midpoint, next] at within
    rw [abs_of_nonneg (by linarith)]
    nlinarith
  · -- The ratio lies below a code past the first normal one, hence in the gap of a normal code.
    have later : format.hidden < code := by
      apply lt_of_le_of_ne reached
      rintro rfl
      rw [unitsOfCode_hidden] at above
      exact absurd above normal.not_gt
    obtain ⟨previous, rfl⟩ := Nat.exists_eq_add_one.mpr (Nat.lt_of_le_of_lt (Nat.zero_le _) later)
    have gap := gapOf (Nat.le_of_lt_succ later)
    have midpointPassed := passed previous (Nat.lt_add_one previous)
    rw [midpoint, next] at midpointPassed
    rw [next] at above ⊢
    have spacingNonneg : (0 : ℚ) ≤ format.spacing previous := Nat.cast_nonneg _
    rw [abs_of_nonpos (by linarith)]
    nlinarith

end Format

namespace Binary

variable {format : Format}

/-- The normal numbers are those from the least normal magnitude on. -/
theorem hidden_le_code_iff
    {number : Binary format} :
    format.hidden ≤ number.code ↔ format.leastNormal ≤ |number.value| := by
  rw [abs_value, absValue, Format.leastNormal, magnitude,
    div_le_div_iff_of_pos_right format.unitsOfOne_pos_rat, Nat.cast_le,
    ← format.unitsOfCode_strictMono.le_iff_le, format.unitsOfCode_hidden]

/-- Every rational is a ratio that can be rounded. -/
theorem exists_ratioValue_eq
    (format : Format)
    (exact : ℚ) :
    ∃ negative numerator denominator,
      0 < denominator ∧ ratioValue format negative numerator denominator = exact := by
  refine ⟨decide (exact < 0), exact.num.natAbs * format.unitsOfOne, exact.den, exact.pos, ?_⟩
  have unitPositive := format.unitsOfOne_pos_rat
  have magnitude : ((exact.num.natAbs * format.unitsOfOne : Nat) : ℚ) / exact.den /
      format.unitsOfOne = |exact| := by
    have quotient : (exact.num.natAbs : ℚ) / exact.den = |exact| := by
      rw [Nat.cast_natAbs, Int.cast_abs, ← Nat.abs_cast exact.den, ← abs_div]
      simp [Rat.num_div_den]
    rw [← quotient]
    push_cast
    field_simp
  rw [ratioValue, magnitude]
  rcases lt_or_ge exact 0 with negative | nonneg
  · simp [negative, abs_of_neg negative]
  · simp [nonneg.not_gt, abs_of_nonneg nonneg]

namespace Rounds

variable
    {exact : ℚ}
    {number : Binary format}

/-- An exact number is rounded to one value. -/
theorem value_eq
    {other : Binary format}
    (rounded : Rounds exact number)
    (otherRounded : Rounds exact other) :
    number.value = other.value :=
  value_eq_iff.mpr (position_eq_of_equals (rounded.equals otherRounded))

/-- In the normal range rounding errs by at most the part in `2 * hidden` of the exact number. -/
theorem abs_sub_value_mul_le
    (rounded : Rounds exact number)
    (finite : number.isFinite = true)
    (normal : format.leastNormal ≤ |exact|) :
    |exact - number.value| * (2 * format.hidden) ≤ |exact| := by
  obtain ⟨negative, numerator, denominator, positive, rfl⟩ := exists_ratioValue_eq format exact
  have unitPositive := format.unitsOfOne_pos_rat
  have otherRounded := @rounds_ofRatio format negative numerator denominator positive
  have otherFinite := rounded.isFinite_of_isFinite otherRounded finite
  have selected := code_ofRatio_of_isFinite negative numerator denominator otherFinite
  rw [abs_ratioValue, Format.leastNormal,
    div_le_div_iff_of_pos_right unitPositive] at normal
  rw [rounded.value_eq otherRounded, abs_ratioValue_sub_value negative numerator denominator rfl,
    abs_ratio_sub_absValue, abs_ratioValue, selected, div_mul_eq_mul_div]
  exact
    div_le_div_of_nonneg_right (Format.abs_sub_unboundedCode_mul_le positive normal)
      unitPositive.le

end Rounds

end Binary

end Closeness
