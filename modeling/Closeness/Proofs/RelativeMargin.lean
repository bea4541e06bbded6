import Closeness.Proofs.Monotonicity
import Closeness.Proofs.Symmetry
import Closeness.Proofs.Validity

/-!
# The margin of a relative policy

The margin is a fraction of the greater magnitude of candidate and target.  If
both are finite it is finite too, since the fraction is below one, and it is
not negative; so nothing overflows.  If one of them is infinite, the product is
infinite and the margin in use is zero, except that a fraction of zero has no
product with infinity: then the margin is NaN, and nothing is within it.
-/

namespace Closeness

open Binary

namespace Binary

variable {format : Format}

theorem zero_atMost_greater_abs
    {left right : Binary format}
    (leftNumber : left.isNaN = false)
    (rightNumber : right.isNaN = false) :
    (zero false).atMost (left.abs.greater right.abs) = true := by
  rcases greater_abs_eq_or left right with first | second
  · rw [first]
    exact zero_atMost_abs leftNumber
  · rw [second]
    exact zero_atMost_abs rightNumber

theorem isFinite_greater_abs
    {left right : Binary format}
    (leftFinite : left.isFinite = true)
    (rightFinite : right.isFinite = true) :
    (left.abs.greater right.abs).isFinite = true := by
  rw [isFinite_iff, code_greater_abs (isNaN_of_isFinite leftFinite) (isNaN_of_isFinite rightFinite)]
  exact max_lt (isFinite_iff.mp leftFinite) (isFinite_iff.mp rightFinite)

theorem isInfinite_greater_abs
    {left right : Binary format}
    (leftNumber : left.isNaN = false)
    (rightNumber : right.isNaN = false)
    (unbounded : left.isInfinite = true ∨ right.isInfinite = true) :
    (left.abs.greater right.abs).isInfinite = true := by
  have leftBound := code_le_infinityCode leftNumber
  have rightBound := code_le_infinityCode rightNumber
  rw [isInfinite_iff, isInfinite_iff] at unbounded
  rw [isInfinite_iff, code_greater_abs leftNumber rightNumber]
  apply le_antisymm
  · exact max_le leftBound rightBound
  · rcases unbounded with leftInfinite | rightInfinite
    · rw [← leftInfinite]
      exact le_max_left _ _
    · rw [← rightInfinite]
      exact le_max_right _ _

end Binary

namespace Tolerance

variable {fraction target candidate : Double}

theorem magnitude_le_unitsOfOne
    (valid : (epsilon fraction).Valid) :
    fraction.magnitude ≤ Format.binary64.unitsOfOne := by
  obtain ⟨-, nonneg, small⟩ := valid_iff_inRange.mp valid
  rw [← abs_of_nonneg nonneg, abs_value, absValue,
    div_lt_one Format.binary64.unitsOfOne_pos_rat] at small
  exact_mod_cast small.le

theorem isFinite_relativeMargin
    (valid : (epsilon fraction).Valid)
    (targetFinite : target.isFinite = true)
    (candidateFinite : candidate.isFinite = true) :
    (relativeMargin fraction target candidate).isFinite = true := by
  have finite := isFinite_greater_abs candidateFinite targetFinite
  have shrinks :=
    code_mul_le (isFinite_of_valid_epsilon valid) finite (magnitude_le_unitsOfOne valid)
  exact isFinite_iff.mpr (shrinks.trans_lt (isFinite_iff.mp finite))

/-- Between finite numbers the margin does not overflow. -/
theorem effectiveMargin_of_isFinite
    (valid : (epsilon fraction).Valid)
    (targetFinite : target.isFinite = true)
    (candidateFinite : candidate.isFinite = true) :
    effectiveMargin fraction target candidate = relativeMargin fraction target candidate := by
  apply if_neg
  rw [isInfinite_of_isFinite (isFinite_relativeMargin valid targetFinite candidateFinite)]
  decide

theorem overflowRecords_of_isFinite
    (valid : (epsilon fraction).Valid)
    (targetFinite : target.isFinite = true)
    (candidateFinite : candidate.isFinite = true) :
    overflowRecords fraction target candidate = [] := by
  apply if_neg
  rw [isInfinite_of_isFinite (isFinite_relativeMargin valid targetFinite candidateFinite)]
  decide

theorem zero_atMost_relativeMargin
    (valid : (epsilon fraction).Valid)
    (targetFinite : target.isFinite = true)
    (candidateFinite : candidate.isFinite = true) :
    (zero false).atMost (relativeMargin fraction target candidate) = true := by
  apply zero_atMost_mul_of_isFinite (isFinite_of_valid_epsilon valid)
  · exact isFinite_greater_abs candidateFinite targetFinite
  · exact valid.1
  · exact zero_atMost_greater_abs
      (isNaN_of_isFinite candidateFinite) (isNaN_of_isFinite targetFinite)

section Overflow

variable
    (fractionNumber : fraction.isNaN = false)
    (away : fraction.isZero = false)
    (targetNumber : target.isNaN = false)
    (candidateNumber : candidate.isNaN = false)
    (unbounded : candidate.isInfinite = true ∨ target.isInfinite = true)

include fractionNumber away targetNumber candidateNumber unbounded

theorem isInfinite_relativeMargin :
    (relativeMargin fraction target candidate).isInfinite = true :=
  isInfinite_mul_of_infinite fractionNumber away
    (isInfinite_greater_abs candidateNumber targetNumber unbounded)

/-- Next to an infinity the margin overflows, and zero takes its place. -/
theorem effectiveMargin_of_isInfinite :
    effectiveMargin fraction target candidate = .zero false :=
  if_pos (isInfinite_relativeMargin fractionNumber away targetNumber candidateNumber unbounded)

/-- The overflow is recorded once. -/
theorem overflowRecords_of_isInfinite :
    overflowRecords fraction target candidate = [.overflowed candidate target] :=
  if_pos (isInfinite_relativeMargin fractionNumber away targetNumber candidateNumber unbounded)

end Overflow

/-- Next to an infinity a fraction of zero has no margin. -/
theorem isNaN_effectiveMargin
    (isZero : fraction.isZero = true)
    (targetNumber : target.isNaN = false)
    (candidateNumber : candidate.isNaN = false)
    (unbounded : candidate.isInfinite = true ∨ target.isInfinite = true) :
    (effectiveMargin fraction target candidate).isNaN = true := by
  have noProduct : (relativeMargin fraction target candidate).isNaN = true :=
    isNaN_mul_of_zero_of_infinite isZero
      (isInfinite_greater_abs candidateNumber targetNumber unbounded)
  have notInfinite : (relativeMargin fraction target candidate).isInfinite = false := by
    rw [isInfinite_eq, noProduct, Bool.not_true, Bool.false_and]
  have kept :
      effectiveMargin fraction target candidate = relativeMargin fraction target candidate := by
    apply if_neg
    rw [notInfinite]
    decide
  rw [kept]
  exact noProduct

end Tolerance

end Closeness
