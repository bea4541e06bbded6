import Closeness.Proofs.CorrectRounding
import Closeness.Proofs.Counting
import Closeness.Value.Arithmetic

/-!
# How exactly a margin is compared

A comparison within a margin adds the margin to each number and rounds the
sums.  Rounding does not go past a finite number, so numbers whose exact
difference is at most the margin are always within it.  In the other direction
rounding can lift the sum with the lower number to the upper one, but from no
further away than half the gap below the upper one.

So between finite numbers the comparison is exact up to this half gap.  The
sums themselves may be infinite.
-/

namespace Closeness

open Binary

namespace Binary

variable {format : Format}

/-- Below a number that is above another finite one there is a next value. -/
theorem exists_isGreatest_below
    {lower upper : Binary format}
    (lowerFinite : lower.isFinite = true)
    (upperFinite : upper.isFinite = true)
    (apart : lower.value < upper.value) :
    ∃ below : Binary format,
      below.isFinite = true ∧
        IsGreatest (format.values ∩ Set.Iio upper.value) below.value := by
  have positions := value_lt_iff.mp apart
  have lowerShort := isFinite_iff_position.mp lowerFinite
  have upperShort := isFinite_iff_position.mp upperFinite
  have short : (upper.position - 1).natAbs < format.infinityCode := by
    omega
  obtain ⟨below, belowFinite, position⟩ := exists_position_eq short
  refine ⟨below, belowFinite, ⟨⟨below, belowFinite, rfl⟩, ?_⟩, ?_⟩
  · apply value_lt_iff.mpr
    omega
  · rintro _ ⟨⟨number, -, rfl⟩, under⟩
    have smaller := value_lt_iff.mp under
    apply value_le_iff.mpr
    omega

section Ordered

variable
    {lower upper margin : Binary format}
    (lowerFinite : lower.isFinite = true)
    (upperFinite : upper.isFinite = true)
    (marginFinite : margin.isFinite = true)

include lowerFinite upperFinite marginFinite

/-- Numbers whose exact difference is at most a margin are within it. -/
theorem withinMargin_of_sub_le
    (nonneg : 0 ≤ margin.value)
    (ordered : lower.value ≤ upper.value)
    (near : upper.value - lower.value ≤ margin.value) :
    lower.withinMargin upper margin = true := by
  have lowerSum := rounds_add lowerFinite marginFinite
  have upperSum := rounds_add upperFinite marginFinite
  rw [withinMargin, Bool.and_eq_true]
  constructor
  · exact lowerSum.atMost_of_value_le upperFinite (by linarith)
  · exact upperSum.atMost_of_value_le lowerFinite (by linarith)

/-- Numbers within a margin differ by at most the margin and half the gap below the upper one. -/
theorem sub_le_of_withinMargin
    (nonneg : 0 ≤ margin.value)
    (ordered : lower.value ≤ upper.value)
    (within : lower.withinMargin upper margin = true) :
    upper.value - lower.value ≤ margin.value ∨
      ∃ below,
        IsGreatest (format.values ∩ Set.Iio upper.value) below ∧
          upper.value - lower.value - margin.value ≤ (upper.value - below) / 2 := by
  rw [withinMargin, Bool.and_eq_true] at within
  rcases ordered.lt_or_eq with apart | same
  · right
    obtain ⟨below, belowFinite, next⟩ := exists_isGreatest_below lowerFinite upperFinite apart
    refine ⟨below.value, next, ?_⟩
    rw [sub_sub]
    exact
      (rounds_add lowerFinite marginFinite).sub_le_half_gap
        belowFinite upperFinite next.1.2 within.1
  · left
    rwa [same, sub_self]

end Ordered

end Binary

namespace Value

/--
For finite doubles and a finite margin that is not negative, the comparison
holds whenever the exact difference is at most the margin; and if it holds, the
difference exceeds the margin by at most half the gap between the upper number
and the next double below it.
-/
theorem withinMargin_exact_up_to_half_gap
    {left right margin : Double}
    (leftFinite : left.isFinite = true)
    (rightFinite : right.isFinite = true)
    (marginFinite : margin.isFinite = true)
    (nonneg : 0 ≤ margin.value) :
    ∃ answer,
      withinMargin (.leaf (.double left)) (.leaf (.double right)) (.leaf (.double margin)) =
          .ok answer ∧
        (max left.value right.value - min left.value right.value ≤ margin.value →
          answer = true) ∧
        (answer = true →
          max left.value right.value - min left.value right.value ≤ margin.value ∨
            ∃ below,
              IsGreatest
                  (Format.binary64.values ∩ Set.Iio (max left.value right.value)) below ∧
                max left.value right.value - min left.value right.value - margin.value ≤
                  (max left.value right.value - below) / 2) := by
  refine ⟨_, withinMargin_double left right margin, ?_⟩
  rcases le_total left.value right.value with ascending | descending
  · rw [max_eq_right ascending, min_eq_left ascending]
    exact
      ⟨withinMargin_of_sub_le leftFinite rightFinite marginFinite nonneg ascending,
        sub_le_of_withinMargin leftFinite rightFinite marginFinite nonneg ascending⟩
  · rw [max_eq_left descending, min_eq_right descending, left.withinMargin_comm]
    exact
      ⟨withinMargin_of_sub_le rightFinite leftFinite marginFinite nonneg descending,
        sub_le_of_withinMargin rightFinite leftFinite marginFinite nonneg descending⟩

/-- The largest double and zero differ by the largest double, although its sum with it overflows. -/
theorem withinMargin_exact_up_to_half_gap_of_largest :
    (largest false : Double).isFinite = true ∧
      (zero true : Double).isFinite = true ∧
      0 ≤ (largest false : Double).value ∧
      (largest false + largest false : Double).isInfinite = true ∧
      withinMargin (.leaf (.double (largest false))) (.leaf (.double (zero true)))
        (.leaf (.double (largest false))) = .ok true := by
  have largestFinite : (largest false : Double).isFinite = true := by
    decide
  have zeroFinite : (zero true : Double).isFinite = true := by
    decide
  have nonneg : 0 ≤ (largest false : Double).value := by
    rw [← value_zero true, value_le_iff]
    decide
  obtain ⟨answer, compared, accepted, -⟩ :=
    withinMargin_exact_up_to_half_gap largestFinite zeroFinite largestFinite nonneg
  have near :
      max (largest false : Double).value (zero true : Double).value -
          min (largest false : Double).value (zero true : Double).value ≤
        (largest false : Double).value := by
    rw [value_zero, max_eq_left nonneg, min_eq_right nonneg, sub_zero]
  refine ⟨largestFinite, zeroFinite, nonneg, by decide +kernel, ?_⟩
  rw [compared, accepted near]

end Value

end Closeness
