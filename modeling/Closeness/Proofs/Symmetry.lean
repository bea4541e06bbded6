import Closeness.Policy.Candidates

/-!
# Symmetry of policies

Two numbers are close to one another in either order.  The two sums of a
margin comparison change places, and so do the ends of a distance.  A relative
policy multiplies its epsilon with the greater of two magnitudes, and of two
magnitudes of one size it takes the candidate's: between numbers these are the
same, so the order does not show.  Only NaN makes the greater magnitude depend
on the order, and NaN is close to nothing.
-/

namespace Closeness

open Binary

namespace Binary

variable {format : Format}

theorem equals_comm
    (left right : Binary format) :
    left.equals right = right.equals left := by
  rw [equals, equals, Bool.and_comm (!left.isNaN), Bool.beq_comm]

theorem withinUlps_comm
    (limit : Nat)
    (left right : Binary format) :
    left.withinUlps limit right = right.withinUlps limit left := by
  rw [withinUlps, withinUlps, Bool.and_comm]
  split
  · next finites =>
    rw [Bool.and_eq_true] at finites
    rw [distance_swap finites.1 finites.2, Int.natAbs_neg]
  · exact equals_comm left right

/-- Whatever the margin, nothing is within it of NaN. -/
theorem withinMargin_eq_false
    {left right : Binary format}
    (noNumber : left.isNaN = true ∨ right.isNaN = true)
    (margin : Binary format) :
    left.withinMargin right margin = false := by
  rcases noNumber with leftNoNumber | rightNoNumber
  · simp [withinMargin, atMost, leftNoNumber]
  · simp [withinMargin, atMost, rightNoNumber]

@[simp]
theorem position_abs
    (number : Binary format) :
    number.abs.position = number.code :=
  rfl

theorem greater_abs_eq_or
    (left right : Binary format) :
    left.abs.greater right.abs = left.abs ∨ left.abs.greater right.abs = right.abs := by
  rw [greater]
  split
  · exact Or.inr rfl
  · exact Or.inl rfl

theorem negative_greater_abs
    (left right : Binary format) :
    (left.abs.greater right.abs).negative = false := by
  rcases greater_abs_eq_or left right with first | second
  · rw [first]
    rfl
  · rw [second]
    rfl

/-- The greater magnitude of two numbers has the greater of their codes. -/
theorem code_greater_abs
    {left right : Binary format}
    (leftNumber : left.isNaN = false)
    (rightNumber : right.isNaN = false) :
    (left.abs.greater right.abs).code = max left.code right.code := by
  have leftMagnitude : left.abs.isNaN = false := leftNumber
  have rightMagnitude : right.abs.isNaN = false := rightNumber
  have rises : left.abs.below right.abs = true ↔ left.code < right.code := by
    rw [below_iff leftMagnitude rightMagnitude, position_abs, position_abs, Int.ofNat_lt]
  rw [greater]
  split
  · next below =>
    exact (Nat.max_eq_right (Nat.le_of_lt (rises.mp below))).symm
  · next notBelow =>
    rw [rises, Nat.not_lt] at notBelow
    exact (Nat.max_eq_left notBelow).symm

/-- The greater magnitude does not depend on the order of the two numbers. -/
theorem greater_abs_comm
    {left right : Binary format}
    (leftNumber : left.isNaN = false)
    (rightNumber : right.isNaN = false) :
    left.abs.greater right.abs = right.abs.greater left.abs := by
  apply Binary.ext
  · rw [negative_greater_abs, negative_greater_abs]
  · rw [code_greater_abs leftNumber rightNumber, code_greater_abs rightNumber leftNumber,
      Nat.max_comm]

end Binary

theorem Width.withinUlps_comm
    (width : Width)
    (limit : Nat)
    (left right : Double) :
    width.withinUlps limit left right = width.withinUlps limit right left :=
  Binary.withinUlps_comm limit (width.round left) (width.round right)

namespace Tolerance

/-- Between numbers the margin in use does not depend on which one is the target. -/
theorem effectiveMargin_comm
    (fraction : Double)
    {left right : Double}
    (leftNumber : left.isNaN = false)
    (rightNumber : right.isNaN = false) :
    effectiveMargin fraction left right = effectiveMargin fraction right left := by
  rw [effectiveMargin, effectiveMargin, relativeMargin, relativeMargin,
    greater_abs_comm leftNumber rightNumber]

end Tolerance

namespace Policy

theorem accepts_comm
    (tolerance : Tolerance)
    (left right : Double) :
    accepts ⟨left, tolerance⟩ right = accepts ⟨right, tolerance⟩ left := by
  cases tolerance with
  | margin bound =>
    exact withinMargin_comm right left bound
  | epsilon fraction =>
    show right.withinMargin left (Tolerance.effectiveMargin fraction left right) =
      left.withinMargin right (Tolerance.effectiveMargin fraction right left)
    rcases Bool.eq_false_or_eq_true left.isNaN with leftNoNumber | leftNumber
    · rw [withinMargin_eq_false (Or.inr leftNoNumber), withinMargin_eq_false (Or.inl leftNoNumber)]
    · rcases Bool.eq_false_or_eq_true right.isNaN with rightNoNumber | rightNumber
      · rw [withinMargin_eq_false (Or.inl rightNoNumber),
          withinMargin_eq_false (Or.inr rightNoNumber)]
      · rw [Tolerance.effectiveMargin_comm fraction leftNumber rightNumber]
        exact withinMargin_comm right left _
  | ulps count width =>
    exact width.withinUlps_comm count right left

/--
Of two policies with one tolerance, each gives the same answer to the target
of the other, whatever the targets are.
-/
theorem accepts_symmetric
    {left right : Policy}
    (same : left.tolerance = right.tolerance) :
    ∃ answer,
      (left.acceptsValue (.leaf (.double right.target))).outcome = .ok answer ∧
        (right.acceptsValue (.leaf (.double left.target))).outcome = .ok answer := by
  obtain ⟨leftTarget, tolerance⟩ := left
  obtain ⟨rightTarget, _⟩ := right
  cases same
  refine ⟨accepts ⟨leftTarget, tolerance⟩ rightTarget, rfl, ?_⟩
  rw [accepts_comm]
  rfl

/-- Infinity and NaN under a relative policy, for which the order of the magnitudes matters. -/
theorem accepts_symmetric_of_nan :
    tolerance ⟨infinity false, .epsilon (least false)⟩ =
        tolerance ⟨nan false, .epsilon (least false)⟩ ∧
      ∃ answer,
        (acceptsValue ⟨infinity false, .epsilon (least false)⟩
            (.leaf (.double (nan false)))).outcome = .ok answer ∧
          (acceptsValue ⟨nan false, .epsilon (least false)⟩
            (.leaf (.double (infinity false)))).outcome = .ok answer :=
  ⟨rfl,
    @accepts_symmetric ⟨infinity false, .epsilon (least false)⟩
      ⟨nan false, .epsilon (least false)⟩ rfl⟩

end Policy

end Closeness
