import Closeness.Proofs.CorrectRounding

/-!
# Midpoints

Where a rounded number ends up among the numbers of its format is decided by
the midpoints of neighbours: an exact number below the midpoint goes to the
lower neighbour or further down, one above it to the upper neighbour or further
up, and one on it to the neighbour with the even code.  This follows from
`Rounds` alone, and it holds across zero and up to the overflow threshold.

A conversion is such a rounding, that of the value converted.
-/

namespace Closeness.Binary

variable {format : Format}

/-- A finite value is short of the overflow threshold on either side. -/
theorem abs_value_lt_overflowThreshold
    {number : Binary format}
    (finite : number.isFinite = true) :
    |number.value| < format.overflowThreshold := by
  rw [abs_value]
  exact absValue_lt_overflowThreshold finite

namespace Rounds

variable
    {exact : ℚ}
    {number lower upper : Binary format}

section Neighbours

variable
    (rounded : Rounds exact number)
    (lowerFinite : lower.isFinite = true)
    (upperFinite : upper.isFinite = true)
    (next : upper.position = lower.position + 1)

include rounded lowerFinite upperFinite next

/-- What is rounded to the lower neighbour or below is not above the midpoint. -/
theorem le_midpoint_of_position_le
    (reached : number.position ≤ lower.position) :
    exact ≤ (lower.value + upper.value) / 2 := by
  have apart : lower.value < upper.value := value_lt_iff.mpr (by omega)
  rcases isFinite_or_isInfinite rounded.isNaN_eq with finite | infinite
  · have below := value_le_iff.mpr reached
    have near := rounded.nearest upper finite upperFinite
    by_contra above
    rw [not_le] at above
    rw [abs_of_nonneg (by linarith)] at near
    rcases abs_cases (exact - upper.value) with ⟨distance, -⟩ | ⟨distance, -⟩
    · linarith
    · linarith
  · have large := rounded.isInfinite_iff.mp infinite
    have lowerShort := abs_lt.mp (abs_value_lt_overflowThreshold lowerFinite)
    have upperShort := abs_lt.mp (abs_value_lt_overflowThreshold upperFinite)
    have negative : exact < 0 := by
      by_contra nonneg
      have short := isFinite_iff_position.mp lowerFinite
      rw [rounded.eq_infinity infinite, decide_eq_false nonneg, position_infinity] at reached
      simp only [Bool.false_eq_true, if_false] at reached
      omega
    rw [abs_of_neg negative] at large
    linarith

/-- What is rounded to the upper neighbour or above is not below the midpoint. -/
theorem midpoint_le_of_lt_position
    (passed : lower.position < number.position) :
    (lower.value + upper.value) / 2 ≤ exact := by
  have apart : lower.value < upper.value := value_lt_iff.mpr (by omega)
  have reached : upper.atMost number = true := by
    rw [atMost_iff (isNaN_of_isFinite upperFinite) rounded.isNaN_eq]
    omega
  linarith [rounded.sub_le_half_gap lowerFinite upperFinite apart reached]

/-- What lies on the midpoint is rounded to one of the neighbours, whose code is even. -/
theorem even_of_eq_midpoint
    (onMidpoint : exact = (lower.value + upper.value) / 2) :
    number.code % 2 = 0 ∧
      (number.position = lower.position ∨ number.position = upper.position) := by
  have apart : lower.value < upper.value := value_lt_iff.mpr (by omega)
  have lowerShort := abs_lt.mp (abs_value_lt_overflowThreshold lowerFinite)
  have upperShort := abs_lt.mp (abs_value_lt_overflowThreshold upperFinite)
  have finite : number.isFinite = true := by
    rcases isFinite_or_isInfinite rounded.isNaN_eq with finite | infinite
    · exact finite
    · have large := rounded.isInfinite_iff.mp infinite
      have short : |exact| < format.overflowThreshold :=
        abs_lt.mpr ⟨by linarith, by linarith⟩
      exact absurd short large.not_gt
  have fromLower := rounded.nearest lower finite lowerFinite
  have fromUpper := rounded.nearest upper finite upperFinite
  rw [abs_of_nonneg (by linarith : (0 : ℚ) ≤ exact - lower.value), abs_le] at fromLower
  -- The result lies between the neighbours, and no position is between theirs.
  have atLeast : lower.position ≤ number.position := value_le_iff.mp (by linarith)
  have atMost : number.position ≤ upper.position := value_le_iff.mp (by linarith)
  have tie : |exact - lower.value| = |exact - upper.value| := by
    rw [abs_of_nonneg (by linarith), abs_of_nonpos (by linarith)]
    linarith
  rcases atLeast.eq_or_lt with atLower | above
  · have sameValue : lower.value = number.value := value_eq_iff.mpr atLower
    refine ⟨rounded.even_of_tie upper finite upperFinite ?_ ?_, Or.inl atLower.symm⟩
    · exact sameValue ▸ apart.ne'
    · rw [← sameValue, tie]
  · have atUpper : number.position = upper.position := by
      omega
    have sameValue : upper.value = number.value := value_eq_iff.mpr atUpper.symm
    refine ⟨rounded.even_of_tie lower finite lowerFinite ?_ ?_, Or.inr atUpper⟩
    · exact sameValue ▸ apart.ne
    · rw [← sameValue, tie]

/-- A number is rounded to the lower neighbour or below exactly up to the midpoint. -/
theorem position_le_iff :
    number.position ≤ lower.position ↔
      exact < (lower.value + upper.value) / 2 ∨
        exact = (lower.value + upper.value) / 2 ∧ lower.code % 2 = 0 := by
  rcases lt_trichotomy exact ((lower.value + upper.value) / 2) with below | onMidpoint | above
  · refine iff_of_true ?_ (Or.inl below)
    by_contra passed
    exact
      absurd below
        (rounded.midpoint_le_of_lt_position lowerFinite upperFinite next
          (not_le.mp passed)).not_gt
  · -- The codes of neighbours differ in parity, so the even one tells which of them it is.
    obtain ⟨even, atNeighbour⟩ :=
      rounded.even_of_eq_midpoint lowerFinite upperFinite next onMidpoint
    rw [← natAbs_position] at even
    simp only [onMidpoint, lt_irrefl, true_and, false_or]
    rw [← natAbs_position lower]
    omega
  · refine iff_of_false ?_ ?_
    · intro reached
      exact
        absurd above
          (rounded.le_midpoint_of_position_le lowerFinite upperFinite next reached).not_gt
    · rintro (below | ⟨onMidpoint, -⟩)
      · exact below.not_gt above
      · exact above.ne' onMidpoint

end Neighbours

end Rounds

/-- A finite number is converted to its value, rounded to the target. -/
theorem rounds_convert
    (target : Format)
    {source : Format}
    {number : Binary source}
    (finite : number.isFinite = true) :
    Rounds number.value (number.convert target) := by
  have exact :
      ratioValue target number.negative (number.magnitude * target.unitsOfOne)
          source.unitsOfOne =
        number.value := by
    have unitPositive := target.unitsOfOne_pos_rat
    rw [ratioValue, value_eq, absValue]
    push_cast
    field_simp
  rw [← exact, convert_of_isFinite finite]
  exact rounds_ofRatio _ _ source.unitsOfOne_pos

end Closeness.Binary
