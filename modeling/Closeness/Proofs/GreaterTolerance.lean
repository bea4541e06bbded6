import Closeness.Proofs.Acceptance
import Closeness.Proofs.RelativeMargin

/-!
# Greater tolerances accept more

Of two policies with one target, the one with the greater tolerance accepts
whatever the other one accepts.  A greater margin adds to greater sums, and
more steps reach further.

For a relative policy the margin in use has to grow with its fraction.
Between finite numbers it does, since products are rounded monotonically and
none of them overflows.  Next to an infinity it is zero for all positive
fractions, and a fraction of zero accepts nothing there.
-/

namespace Closeness

open Binary

namespace Tolerance

/--
One tolerance is at most another of its form and width.  Margins have to be
finite.
-/
inductive AtMost : Tolerance → Tolerance → Prop where
  | margin {less more : Double}
      (finite : more.isFinite = true)
      (ordered : less.atMost more = true) :
      AtMost (.margin less) (.margin more)
  | epsilon {less more : Double}
      (ordered : less.atMost more = true) :
      AtMost (.epsilon less) (.epsilon more)
  | ulps {less more : Nat} {width : Width}
      (ordered : less ≤ more) :
      AtMost (.ulps less width) (.ulps more width)

end Tolerance

namespace Binary

variable {format : Format}

/-- What is within a margin is within a greater finite margin. -/
theorem withinMargin_of_atMost
    {left right less more : Binary format}
    (ordered : less.atMost more = true)
    (finite : more.isFinite = true)
    (within : left.withinMargin right less = true) :
    left.withinMargin right more = true := by
  rw [withinMargin, Bool.and_eq_true] at within ⊢
  obtain ⟨rightReached, leftReached⟩ := within
  constructor
  · apply atMost_trans rightReached
    exact add_atMost_add_left ordered finite (isNaN_of_atMost rightReached).2
  · apply atMost_trans leftReached
    exact add_atMost_add_left ordered finite (isNaN_of_atMost leftReached).2

theorem isNaN_of_withinMargin
    {left right margin : Binary format}
    (within : left.withinMargin right margin = true) :
    left.isNaN = false ∧ right.isNaN = false := by
  rw [withinMargin, Bool.and_eq_true] at within
  exact ⟨(isNaN_of_atMost within.2).1, (isNaN_of_atMost within.1).1⟩

theorem isFinite_both_or_isInfinite
    {left right : Binary format}
    (leftNumber : left.isNaN = false)
    (rightNumber : right.isNaN = false) :
    left.isFinite = true ∧ right.isFinite = true ∨
      (left.isInfinite = true ∨ right.isInfinite = true) := by
  rcases isFinite_or_isInfinite leftNumber with leftFinite | leftInfinite
  · rcases isFinite_or_isInfinite rightNumber with rightFinite | rightInfinite
    · exact Or.inl ⟨leftFinite, rightFinite⟩
    · exact Or.inr (Or.inr rightInfinite)
  · exact Or.inr (Or.inl leftInfinite)

theorem isZero_of_atMost_isZero
    {less more : Binary format}
    (nonneg : (zero false).atMost less = true)
    (ordered : less.atMost more = true)
    (isZero : more.isZero = true) :
    less.isZero = true := by
  have lower := position_le_of_atMost nonneg
  have upper := position_le_of_atMost ordered
  rw [isZero_iff.mp isZero] at upper
  rw [position_zero] at lower
  exact isZero_iff.mpr (Int.le_antisymm upper lower)

/-- What is within a number of steps is within a greater one. -/
theorem withinUlps_of_le
    {left right : Binary format}
    {less more : Nat}
    (ordered : less ≤ more)
    (within : left.withinUlps less right = true) :
    left.withinUlps more right = true := by
  rw [withinUlps] at within ⊢
  split at within
  · next finites =>
    rw [if_pos finites]
    rw [decide_eq_true_eq] at within ⊢
    exact within.trans ordered
  · next unbounded =>
    rw [if_neg unbounded]
    exact within

end Binary

namespace Tolerance

/-- Between finite numbers a greater fraction has a greater margin. -/
theorem relativeMargin_atMost
    {less more target candidate : Double}
    (lessValid : (epsilon less).Valid)
    (moreValid : (epsilon more).Valid)
    (ordered : less.atMost more = true)
    (targetFinite : target.isFinite = true)
    (candidateFinite : candidate.isFinite = true) :
    (relativeMargin less target candidate).atMost (relativeMargin more target candidate) =
      true := by
  apply mul_atMost_mul ordered lessValid.1 (isFinite_of_valid_epsilon moreValid)
  · exact zero_atMost_greater_abs
      (isNaN_of_isFinite candidateFinite) (isNaN_of_isFinite targetFinite)
  · exact isFinite_greater_abs candidateFinite targetFinite

/-- What is within the margin of a fraction is within the margin of a greater one. -/
theorem withinMargin_effectiveMargin_of_atMost
    {less more target candidate : Double}
    (lessValid : (epsilon less).Valid)
    (moreValid : (epsilon more).Valid)
    (ordered : less.atMost more = true)
    (within :
      candidate.withinMargin target (effectiveMargin less target candidate) = true) :
    candidate.withinMargin target (effectiveMargin more target candidate) = true := by
  obtain ⟨candidateNumber, targetNumber⟩ := isNaN_of_withinMargin within
  rcases isFinite_both_or_isInfinite candidateNumber targetNumber with
    ⟨candidateFinite, targetFinite⟩ | unbounded
  · rw [effectiveMargin_of_isFinite lessValid targetFinite candidateFinite] at within
    rw [effectiveMargin_of_isFinite moreValid targetFinite candidateFinite]
    apply withinMargin_of_atMost _ _ within
    · exact relativeMargin_atMost lessValid moreValid ordered targetFinite candidateFinite
    · exact isFinite_relativeMargin moreValid targetFinite candidateFinite
  · -- The margin in use is zero on both sides, unless the smaller fraction is zero.
    by_cases lessZero : less.isZero = true
    · rw [withinMargin_of_isNaN _ _
        (isNaN_effectiveMargin lessZero targetNumber candidateNumber unbounded)] at within
      cases within
    · have moreAway : more.isZero = false := by
        rw [← Bool.not_eq_true]
        intro moreZero
        exact lessZero (isZero_of_atMost_isZero lessValid.1 ordered moreZero)
      rw [Bool.not_eq_true] at lessZero
      rw [effectiveMargin_of_isInfinite (isNaN_of_zero_atMost lessValid.1) lessZero
        targetNumber candidateNumber unbounded] at within
      rw [effectiveMargin_of_isInfinite (isNaN_of_zero_atMost moreValid.1) moreAway
        targetNumber candidateNumber unbounded]
      exact within

end Tolerance

namespace Policy

theorem accepts_of_atMost
    {less more : Tolerance}
    (lessValid : less.Valid)
    (moreValid : more.Valid)
    (ordered : less.AtMost more)
    {target candidate : Double}
    (accepted : accepts ⟨target, less⟩ candidate = true) :
    accepts ⟨target, more⟩ candidate = true := by
  cases ordered with
  | margin finite ordered =>
    exact withinMargin_of_atMost ordered finite accepted
  | epsilon ordered =>
    exact
      Tolerance.withinMargin_effectiveMargin_of_atMost lessValid moreValid ordered accepted
  | ulps ordered =>
    exact withinUlps_of_le ordered accepted

/--
Of two policies that are built with one target, the one with the greater
tolerance accepts every value that the other one accepts.
-/
theorem accepts_of_tolerance_atMost
    {lessRecipe moreRecipe : Recipe}
    {less more : Policy}
    (lessBuilt : lessRecipe.build.outcome = .ok less)
    (moreBuilt : moreRecipe.build.outcome = .ok more)
    (sameTarget : less.target = more.target)
    (ordered : less.tolerance.AtMost more.tolerance)
    {candidate : Value}
    (accepted : (less.acceptsValue candidate).outcome = .ok true) :
    (more.acceptsValue candidate).outcome = .ok true := by
  obtain ⟨number, converts, accepted⟩ := outcome_acceptsValue_eq_ok_iff.mp accepted
  apply outcome_acceptsValue_eq_ok_iff.mpr
  refine ⟨number, converts, ?_⟩
  obtain ⟨target, tolerance⟩ := less
  obtain ⟨_, tolerance'⟩ := more
  cases sameTarget
  exact
    accepts_of_atMost (Recipe.valid_of_build lessBuilt) (Recipe.valid_of_build moreBuilt)
      ordered accepted

/-- At an infinity two positive fractions have the same margin in use, which is zero. -/
theorem accepts_of_tolerance_atMost_of_infinite :
    (Recipe.relative (.leaf (.double (infinity true)))
          (.leaf (.double (least false)))).build.outcome =
        .ok ⟨infinity true, .epsilon (least false)⟩ ∧
      (Recipe.relative (.leaf (.double (infinity true)))
          (.leaf (.double Width.double.epsilon))).build.outcome =
        .ok ⟨infinity true, .epsilon Width.double.epsilon⟩ ∧
      (Tolerance.epsilon (least false)).AtMost (.epsilon Width.double.epsilon) ∧
      (acceptsValue ⟨infinity true, .epsilon (least false)⟩
          (.leaf (.double (infinity true)))).outcome = .ok true ∧
      (acceptsValue ⟨infinity true, .epsilon Width.double.epsilon⟩
          (.leaf (.double (infinity true)))).outcome = .ok true := by
  have lessBuilt :
      (Recipe.relative (.leaf (.double (infinity true)))
            (.leaf (.double (least false)))).build.outcome =
        .ok ⟨infinity true, .epsilon (least false)⟩ := by
    decide +kernel
  have moreBuilt :
      (Recipe.relative (.leaf (.double (infinity true)))
            (.leaf (.double Width.double.epsilon))).build.outcome =
        .ok ⟨infinity true, .epsilon Width.double.epsilon⟩ := by
    decide +kernel
  have ordered : (Tolerance.epsilon (least false)).AtMost (.epsilon Width.double.epsilon) :=
    .epsilon (by decide +kernel)
  have accepted :
      (acceptsValue ⟨infinity true, .epsilon (least false)⟩
          (.leaf (.double (infinity true)))).outcome = .ok true := by
    decide +kernel
  exact
    ⟨lessBuilt, moreBuilt, ordered, accepted,
      accepts_of_tolerance_atMost lessBuilt moreBuilt rfl ordered accepted⟩

end Policy

end Closeness
