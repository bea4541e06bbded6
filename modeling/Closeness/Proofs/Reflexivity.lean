import Closeness.Proofs.Endpoints
import Closeness.Proofs.RelativeMargin

/-!
# Which policies accept their own target

The distance of a target from itself is zero, so a policy on steps accepts its
target.  A policy on margins adds a margin that is not negative, so it accepts
its target too, as long as target and margin have a sum: `-∞` and an infinite
margin have none.  A relative policy multiplies first, and infinity has no
product with an epsilon of zero.

Apart from these two cases, which the constructors let pass, every policy that
is built accepts its target, unless the target is NaN.
-/

namespace Closeness

open Binary

namespace Tolerance

/-- Comparing a target with itself leads to `∞ - ∞` or to `0 * ∞`. -/
def Indeterminate (target : Double) : Tolerance → Prop
  | margin bound => bound.isInfinite = true ∧ target = .infinity true
  | epsilon fraction => fraction.isZero = true ∧ target.isInfinite = true
  | ulps _ _ => False

end Tolerance

namespace Policy

theorem accepts_target_iff_of_epsilon
    {fraction target : Double}
    (valid : (Tolerance.epsilon fraction).Valid)
    (targetNumber : target.isNaN = false) :
    accepts ⟨target, .epsilon fraction⟩ target = true ↔
      ¬ (Tolerance.epsilon fraction).Indeterminate target := by
  show target.withinMargin target (Tolerance.effectiveMargin fraction target target) = true ↔
    ¬ (fraction.isZero = true ∧ target.isInfinite = true)
  rcases isFinite_or_isInfinite targetNumber with targetFinite | targetInfinite
  · have nonneg := Tolerance.zero_atMost_relativeMargin valid targetFinite targetFinite
    have finite := Tolerance.isFinite_relativeMargin valid targetFinite targetFinite
    rw [Tolerance.effectiveMargin_of_isFinite valid targetFinite targetFinite,
      withinMargin_self_iff targetNumber nonneg, isInfinite_of_isFinite finite,
      isInfinite_of_isFinite targetFinite]
    simp
  · rcases Bool.eq_false_or_eq_true fraction.isZero with isZero | away
    · rw [withinMargin_of_isNaN _ _
        (Tolerance.isNaN_effectiveMargin isZero targetNumber targetNumber (Or.inl targetInfinite))]
      simp [isZero, targetInfinite]
    · rw [Tolerance.effectiveMargin_of_isInfinite (isNaN_of_zero_atMost valid.1) away
          targetNumber targetNumber (Or.inl targetInfinite),
        withinMargin_self_iff targetNumber (by decide)]
      have bounded : (zero false : Double).isInfinite = false := by
        decide
      simp [away, bounded]

/-- A policy with a valid tolerance accepts its target, unless the comparison is indeterminate. -/
theorem accepts_target_iff_of_valid
    {policy : Policy}
    (valid : policy.tolerance.Valid)
    (targetNumber : policy.target.isNaN = false) :
    policy.accepts policy.target = true ↔ ¬ policy.tolerance.Indeterminate policy.target := by
  obtain ⟨target, tolerance⟩ := policy
  cases tolerance with
  | margin bound =>
    exact withinMargin_self_iff targetNumber valid
  | epsilon fraction =>
    exact accepts_target_iff_of_epsilon valid targetNumber
  | ulps count width =>
    have roundNumber : (width.round target).isNaN = false := by
      rw [width.isNaN_round]
      exact targetNumber
    have near :
        ((width.round target).position - (width.round target).position).natAbs ≤ count := by
      rw [Int.sub_self]
      exact Nat.zero_le _
    have accepted : accepts ⟨target, .ulps count width⟩ target = true :=
      (withinUlps_iff_of_le roundNumber roundNumber near).mpr (Or.inr rfl)
    simp [accepted, Tolerance.Indeterminate]

/--
Every policy that is built, with a target other than NaN, accepts its target
if and only if the comparison is not indeterminate.
-/
theorem accepts_target_iff
    {recipe : Recipe}
    {policy : Policy}
    (built : recipe.build.outcome = .ok policy)
    (targetNumber : policy.target.isNaN = false) :
    ∃ answer,
      (policy.acceptsValue (.leaf (.double policy.target))).outcome = .ok answer ∧
        (answer = true ↔ ¬ policy.tolerance.Indeterminate policy.target) :=
  ⟨policy.accepts policy.target, rfl,
    accepts_target_iff_of_valid (Recipe.valid_of_build built) targetNumber⟩

theorem accepts_target_iff_of_infinite :
    (Recipe.relative (.leaf (.double (infinity true)))
          (.leaf (.double Width.double.epsilon))).build.outcome =
        .ok ⟨infinity true, .epsilon Width.double.epsilon⟩ ∧
      (infinity true : Double).isNaN = false ∧
      ∃ answer,
        (acceptsValue ⟨infinity true, .epsilon Width.double.epsilon⟩
            (.leaf (.double (infinity true)))).outcome = .ok answer ∧
          (answer = true ↔
            ¬ (Tolerance.epsilon Width.double.epsilon).Indeterminate (infinity true)) := by
  have built :
      (Recipe.relative (.leaf (.double (infinity true)))
            (.leaf (.double Width.double.epsilon))).build.outcome =
        .ok ⟨infinity true, .epsilon Width.double.epsilon⟩ := by
    decide +kernel
  have targetNumber : (infinity true : Double).isNaN = false := by
    decide
  exact ⟨built, targetNumber, accepts_target_iff built targetNumber⟩

/--
Two policies that are built and refuse their own target: an infinite margin
around `-∞`, and an epsilon of zero at `∞`.
-/
theorem target_refused_of_indeterminate :
    (Recipe.absolute (.leaf (.double (infinity true)))
          (.leaf (.double (infinity false)))).build.outcome =
        .ok ⟨infinity true, .margin (infinity false)⟩ ∧
      (acceptsValue ⟨infinity true, .margin (infinity false)⟩
          (.leaf (.double (infinity true)))).outcome = .ok false ∧
      (Recipe.relative (.leaf (.double (infinity false)))
          (.leaf (.double (zero false)))).build.outcome =
        .ok ⟨infinity false, .epsilon (zero false)⟩ ∧
      (acceptsValue ⟨infinity false, .epsilon (zero false)⟩
          (.leaf (.double (infinity false)))).outcome = .ok false :=
  ⟨by decide +kernel, by decide +kernel, by decide +kernel, by decide +kernel⟩

end Policy

end Closeness
