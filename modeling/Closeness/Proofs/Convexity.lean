import Closeness.Proofs.Acceptance
import Closeness.Proofs.Monotonicity
import Closeness.Proofs.Validity

/-!
# Accepted numbers form an interval

A policy on a margin or on steps that accepts two numbers accepts all numbers
between them.  For a margin this is monotone addition: the sum with the lower
number reaches the target, so the sum with any greater one does, and the sum
with the target reaches the upper number.  For steps it is the order of
positions, which rounding to the width keeps.

The infinities need no exception.  The sum of `-∞` and an infinite margin is
NaN, so nothing that adds to it is accepted at all; and a number between two
that are both the same infinity is that infinity.
-/

namespace Closeness

open Binary

namespace Binary

variable {format : Format}

theorem withinMargin_between
    {lower middle upper target margin : Binary format}
    (below : lower.atMost middle = true)
    (above : middle.atMost upper = true)
    (nonneg : (zero false).atMost margin = true)
    (lowerWithin : lower.withinMargin target margin = true)
    (upperWithin : upper.withinMargin target margin = true) :
    middle.withinMargin target margin = true := by
  rw [withinMargin, Bool.and_eq_true] at lowerWithin upperWithin ⊢
  constructor
  · apply atMost_trans lowerWithin.1
    exact add_atMost_add_right below nonneg (isNaN_of_atMost lowerWithin.1).2
  · exact atMost_trans above upperWithin.2

/-- No infinity is close to a finite number. -/
theorem isFinite_of_withinUlps
    {limit : Nat}
    {left right : Binary format}
    (rightFinite : right.isFinite = true)
    (within : left.withinUlps limit right = true) :
    left.isFinite = true := by
  by_contra unbounded
  have apart : ¬ (left.isFinite = true ∧ right.isFinite = true) := by
    intro finites
    exact unbounded finites.1
  rw [withinUlps_of_unbounded limit apart] at within
  rw [isFinite_iff_position, ← position_eq_of_equals within, ← isFinite_iff_position] at rightFinite
  exact unbounded rightFinite

theorem isFinite_between
    {lower middle upper : Binary format}
    (below : lower.atMost middle = true)
    (above : middle.atMost upper = true)
    (lowerFinite : lower.isFinite = true)
    (upperFinite : upper.isFinite = true) :
    middle.isFinite = true := by
  have belowPosition := position_le_of_atMost below
  have abovePosition := position_le_of_atMost above
  rw [isFinite_iff_position] at lowerFinite upperFinite ⊢
  omega

theorem withinUlps_between
    {limit : Nat}
    {lower middle upper target : Binary format}
    (below : lower.atMost middle = true)
    (above : middle.atMost upper = true)
    (lowerWithin : lower.withinUlps limit target = true)
    (upperWithin : upper.withinUlps limit target = true) :
    middle.withinUlps limit target = true := by
  have belowPosition := position_le_of_atMost below
  have abovePosition := position_le_of_atMost above
  by_cases targetFinite : target.isFinite = true
  · have lowerFinite := isFinite_of_withinUlps targetFinite lowerWithin
    have upperFinite := isFinite_of_withinUlps targetFinite upperWithin
    have middleFinite := isFinite_between below above lowerFinite upperFinite
    rw [withinUlps_of_isFinite limit lowerFinite targetFinite] at lowerWithin
    rw [withinUlps_of_isFinite limit upperFinite targetFinite] at upperWithin
    rw [withinUlps_of_isFinite limit middleFinite targetFinite]
    omega
  · -- Only the target itself is close to an infinity, and nothing to NaN.
    have apart : ∀ number : Binary format,
        ¬ (number.isFinite = true ∧ target.isFinite = true) := by
      intro number finites
      exact targetFinite finites.2
    rw [withinUlps_of_unbounded limit (apart _),
      equals_eq_atMost_and_atMost, Bool.and_eq_true] at lowerWithin upperWithin ⊢
    constructor
    · exact atMost_trans above upperWithin.1
    · exact atMost_trans lowerWithin.2 below

end Binary

namespace Policy

theorem accepts_between_of_valid
    {policy : Policy}
    (valid : policy.tolerance.Valid)
    (notRelative : policy.form ≠ .relative)
    {lower middle upper : Double}
    (below : lower.atMost middle = true)
    (above : middle.atMost upper = true)
    (lowerAccepted : policy.accepts lower = true)
    (upperAccepted : policy.accepts upper = true) :
    policy.accepts middle = true := by
  obtain ⟨target, tolerance⟩ := policy
  cases tolerance with
  | margin bound =>
    exact withinMargin_between below above valid lowerAccepted upperAccepted
  | epsilon fraction =>
    exact absurd rfl notRelative
  | ulps count width =>
    apply withinUlps_between _ _ lowerAccepted upperAccepted
    · exact width.round_atMost_round below
    · exact width.round_atMost_round above

/--
If a policy on a margin or on steps is built and accepts two numbers, it
accepts every number between them.
-/
theorem accepts_between
    {recipe : Recipe}
    {policy : Policy}
    (built : recipe.build.outcome = .ok policy)
    (notRelative : policy.form ≠ .relative)
    {lower middle upper : Double}
    (below : lower.atMost middle = true)
    (above : middle.atMost upper = true)
    (lowerAccepted : (policy.acceptsValue (.leaf (.double lower))).outcome = .ok true)
    (upperAccepted : (policy.acceptsValue (.leaf (.double upper))).outcome = .ok true) :
    (policy.acceptsValue (.leaf (.double middle))).outcome = .ok true := by
  rw [outcome_acceptsValue_double, Except.ok.injEq] at lowerAccepted upperAccepted ⊢
  exact
    accepts_between_of_valid (Recipe.valid_of_build built) notRelative below above
      lowerAccepted upperAccepted

/-- Doubles beyond the narrower width are infinite there, so they lie between infinities. -/
theorem accepts_between_of_large :
    (Recipe.ulps (.leaf (.double (infinity false))) (.leaf (.integer 3))
          (.given .single)).build.outcome =
        .ok ⟨infinity false, .ulps 3 .single⟩ ∧
      form ⟨infinity false, .ulps 3 .single⟩ ≠ .relative ∧
      (ofInt (2 ^ 128) : Double).atMost (largest false) = true ∧
      (largest false : Double).atMost (infinity false) = true ∧
      (acceptsValue ⟨infinity false, .ulps 3 .single⟩
          (.leaf (.double (ofInt (2 ^ 128))))).outcome = .ok true ∧
      (acceptsValue ⟨infinity false, .ulps 3 .single⟩
          (.leaf (.double (infinity false)))).outcome = .ok true ∧
      (acceptsValue ⟨infinity false, .ulps 3 .single⟩
          (.leaf (.double (largest false)))).outcome = .ok true := by
  have built :
      (Recipe.ulps (.leaf (.double (infinity false))) (.leaf (.integer 3))
            (.given .single)).build.outcome =
          .ok ⟨infinity false, .ulps 3 .single⟩ := by
    decide +kernel
  have notRelative : form ⟨infinity false, .ulps 3 .single⟩ ≠ .relative := by
    decide
  have below : (ofInt (2 ^ 128) : Double).atMost (largest false) = true := by
    decide +kernel
  have above : (largest false : Double).atMost (infinity false) = true := by
    decide +kernel
  have lowerAccepted :
      (acceptsValue ⟨infinity false, .ulps 3 .single⟩
          (.leaf (.double (ofInt (2 ^ 128))))).outcome = .ok true := by
    decide +kernel
  have upperAccepted :
      (acceptsValue ⟨infinity false, .ulps 3 .single⟩
          (.leaf (.double (infinity false)))).outcome = .ok true := by
    decide +kernel
  exact
    ⟨built, notRelative, below, above, lowerAccepted, upperAccepted,
      accepts_between built notRelative below above lowerAccepted upperAccepted⟩

end Policy

end Closeness
