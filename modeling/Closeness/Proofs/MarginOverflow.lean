import Closeness.Proofs.CorrectRounding
import Closeness.Proofs.Symmetry
import Closeness.Session
import Closeness.Value.Arithmetic

/-!
# Margins next to infinities

An infinity stays what it is when a finite margin is added, so two infinities
are within it exactly if they are equal, and no finite number is within it of
`-∞`.  For `∞` this is not so.  A finite number is within a finite margin of
`∞` if its own sum with the margin is rounded to `∞`.  For doubles that happens
from the exact sum `2 ^ 1024 - 2 ^ 970` on, which is half a gap above the
largest double.

A policy on a finite margin therefore accepts for an infinite target that
infinity and, if it is `∞`, the finite numbers whose sum overflows; and for a
finite target whose sum overflows it accepts `∞`.
-/

namespace Closeness

open Binary

/-- Sums of doubles overflow from here on. -/
theorem Format.overflowThreshold_binary64 :
    binary64.overflowThreshold = 2 ^ 1024 - 2 ^ 970 := by
  have exponents : Nat.pow 2 (binary64.exponentBits - 1) = 1024 := by
    decide
  have fits :
      Nat.pow 2 (binary64.exponentBits - 1) = 970 + 2 + binary64.fractionBits := by
    decide
  rw [binary64.overflowThreshold_eq fits, exponents]

namespace Binary

variable {format : Format}

/-- A finite margin does not move an infinity. -/
theorem infinity_add_of_isFinite
    (negative : Bool)
    {margin : Binary format}
    (marginFinite : margin.isFinite = true) :
    infinity negative + margin = infinity negative := by
  apply add_of_isInfinite_left (isInfinite_infinity negative) (isNaN_of_isFinite marginFinite)
  intro marginInfinite
  rw [isInfinite_of_isFinite marginFinite] at marginInfinite
  cases marginInfinite

/-- A finite number is within a margin of `∞` exactly if its sum with it overflows. -/
theorem withinMargin_infinity_iff
    {number margin : Binary format}
    (finite : number.isFinite = true)
    (marginFinite : margin.isFinite = true) :
    number.withinMargin (infinity false) margin = true ↔
      format.overflowThreshold ≤ number.value + margin.value := by
  rw [withinMargin, infinity_add_of_isFinite false marginFinite, Bool.and_eq_true,
    ← (rounds_add finite marginFinite).eq_infinity_iff]
  constructor
  · rintro ⟨reached, -⟩
    exact eq_infinity_of_infinity_atMost reached
  · intro overflows
    rw [overflows]
    exact
      ⟨atMost_self (isNaN_of_isInfinite (isInfinite_infinity false)),
        atMost_infinity (isNaN_of_isFinite finite)⟩

/-- No finite number is within a finite margin of `-∞`. -/
theorem withinMargin_neg_infinity
    {number margin : Binary format}
    (finite : number.isFinite = true)
    (marginFinite : margin.isFinite = true) :
    number.withinMargin (infinity true) margin = false := by
  rw [withinMargin, infinity_add_of_isFinite true marginFinite, ← Bool.not_eq_true,
    Bool.and_eq_true]
  rintro ⟨-, below⟩
  rw [eq_infinity_of_atMost_infinity below,
    isFinite_of_isInfinite (isInfinite_infinity true)] at finite
  cases finite

/-- Of an infinity, infinities are within a finite margin exactly if they are equal to it. -/
theorem withinMargin_of_isInfinite
    {left right margin : Binary format}
    (leftInfinite : left.isInfinite = true)
    (rightInfinite : right.isInfinite = true)
    (marginFinite : margin.isFinite = true) :
    left.withinMargin right margin = left.equals right := by
  rw [← infinity_of_isInfinite leftInfinite, ← infinity_of_isInfinite rightInfinite,
    withinMargin, infinity_add_of_isFinite _ marginFinite, infinity_add_of_isFinite _ marginFinite,
    equals_eq_atMost_and_atMost, Bool.and_comm]

/-- A finite number is within a finite margin of an infinity only by an overflow to `∞`. -/
theorem withinMargin_iff_of_isFinite_of_isInfinite
    {left right margin : Binary format}
    (leftFinite : left.isFinite = true)
    (rightInfinite : right.isInfinite = true)
    (marginFinite : margin.isFinite = true) :
    left.withinMargin right margin = true ↔
      right = infinity false ∧ format.overflowThreshold ≤ left.value + margin.value := by
  have same := infinity_of_isInfinite rightInfinite
  cases sign : right.negative with
  | false =>
      rw [sign] at same
      rw [← same, withinMargin_infinity_iff leftFinite marginFinite]
      simp
  | true =>
      rw [sign] at same
      rw [← same, withinMargin_neg_infinity leftFinite marginFinite]
      simp [infinity]

/-- A finite number is not equal to an infinity. -/
theorem equals_eq_false_of_isFinite_of_isInfinite
    {left right : Binary format}
    (leftFinite : left.isFinite = true)
    (rightInfinite : right.isInfinite = true) :
    left.equals right = false := by
  rw [← Bool.not_eq_true]
  intro equal
  have positions := position_eq_of_equals equal
  have short := isFinite_iff.mp leftFinite
  have code := isInfinite_iff.mp rightInfinite
  rw [← natAbs_position] at short code
  omega

/-- The exact sum of a finite double and a margin is so large that it is rounded to `∞`. -/
def OverflowsWith (number margin : Double) : Prop :=
  number.isFinite = true ∧ 2 ^ 1024 - 2 ^ 970 ≤ number.value + margin.value

theorem not_overflowsWith_of_isInfinite
    {number : Double}
    (infinite : number.isInfinite = true)
    (margin : Double) :
    ¬ number.OverflowsWith margin := by
  rintro ⟨finite, -⟩
  rw [isFinite_of_isInfinite infinite] at finite
  cases finite

theorem withinMargin_iff_overflowsWith
    {left right margin : Double}
    (leftFinite : left.isFinite = true)
    (rightInfinite : right.isInfinite = true)
    (marginFinite : margin.isFinite = true) :
    left.withinMargin right margin = true ↔
      right = infinity false ∧ left.OverflowsWith margin := by
  rw [withinMargin_iff_of_isFinite_of_isInfinite leftFinite rightInfinite marginFinite,
    Format.overflowThreshold_binary64, OverflowsWith, and_iff_right leftFinite]

/--
If one of two doubles is infinite, they are within a finite margin exactly if
they are equal or the sum with the finite one overflows and the other is `∞`.
-/
theorem withinMargin_iff_of_isInfinite
    {left right margin : Double}
    (leftNumber : left.isNaN = false)
    (rightNumber : right.isNaN = false)
    (unbounded : left.isInfinite = true ∨ right.isInfinite = true)
    (marginFinite : margin.isFinite = true) :
    left.withinMargin right margin = true ↔
      left.equals right = true ∨
        right = infinity false ∧ left.OverflowsWith margin ∨
        left = infinity false ∧ right.OverflowsWith margin := by
  rcases isFinite_or_isInfinite leftNumber with leftFinite | leftInfinite
  · have rightInfinite : right.isInfinite = true := by
      rw [isInfinite_of_isFinite leftFinite] at unbounded
      exact unbounded.resolve_left Bool.false_ne_true
    rw [withinMargin_iff_overflowsWith leftFinite rightInfinite marginFinite,
      equals_eq_false_of_isFinite_of_isInfinite leftFinite rightInfinite]
    simp [not_overflowsWith_of_isInfinite rightInfinite]
  · rcases isFinite_or_isInfinite rightNumber with rightFinite | rightInfinite
    · rw [left.withinMargin_comm,
        withinMargin_iff_overflowsWith rightFinite leftInfinite marginFinite, left.equals_comm,
        equals_eq_false_of_isFinite_of_isInfinite rightFinite leftInfinite]
      simp [not_overflowsWith_of_isInfinite leftInfinite]
    · rw [withinMargin_of_isInfinite leftInfinite rightInfinite marginFinite]
      simp [not_overflowsWith_of_isInfinite leftInfinite,
        not_overflowsWith_of_isInfinite rightInfinite]

end Binary

namespace Policy

variable
    {policy : Policy}
    {bound number : Double}
    (absolute : policy.tolerance = .margin bound)
    (boundFinite : bound.isFinite = true)

include absolute boundFinite

/-- What a policy on a finite margin accepts for an infinite target. -/
theorem accepts_iff_of_isInfinite_target
    (targetInfinite : policy.target.isInfinite = true)
    (someNumber : number.isNaN = false) :
    policy.accepts number = true ↔
      number.equals policy.target = true ∨
        policy.target = infinity false ∧ number.OverflowsWith bound := by
  have compared :=
    withinMargin_iff_of_isInfinite someNumber (isNaN_of_isInfinite targetInfinite)
      (Or.inr targetInfinite) boundFinite
  rw [accepts, absolute]
  simpa only [not_overflowsWith_of_isInfinite targetInfinite, and_false, or_false] using compared

/-- Which infinities a policy on a finite margin accepts for a finite target. -/
theorem accepts_iff_of_isFinite_target
    (targetFinite : policy.target.isFinite = true)
    (infinite : number.isInfinite = true) :
    policy.accepts number = true ↔
      number = infinity false ∧ policy.target.OverflowsWith bound := by
  rw [accepts, absolute]
  show number.withinMargin policy.target bound = true ↔ _
  rw [number.withinMargin_comm]
  exact withinMargin_iff_overflowsWith targetFinite infinite boundFinite

end Policy

namespace Value

/--
Next to an infinity a finite margin holds exactly between equal doubles, and
between `∞` and the finite doubles whose sum with it overflows.  So a policy on
a finite margin accepts for an infinite target that infinity and, if it is `∞`,
the finite numbers whose sum overflows; and for a finite target it accepts an
infinity exactly if that is `∞` and the sum with the target overflows.
-/
theorem withinMargin_infinite_iff
    {margin : Double}
    (marginFinite : margin.isFinite = true) :
    (∀ {left right : Double},
      left.isNaN = false →
      right.isNaN = false →
      (left.isInfinite = true ∨ right.isInfinite = true) →
        ∃ answer,
          withinMargin (.leaf (.double left)) (.leaf (.double right)) (.leaf (.double margin)) =
              .ok answer ∧
            (answer = true ↔
              left.equals right = true ∨
                right = infinity false ∧ left.OverflowsWith margin ∨
                left = infinity false ∧ right.OverflowsWith margin)) ∧
      ∀ {policy : Policy} {candidate : Value} {number : Double},
        policy.tolerance = .margin margin →
        candidate.toDouble = .ok number →
        number.isNaN = false →
          ∃ answer,
            (policy.acceptsValue candidate).outcome = .ok answer ∧
              (policy.target.isInfinite = true →
                (answer = true ↔
                  number.equals policy.target = true ∨
                    policy.target = infinity false ∧ number.OverflowsWith margin)) ∧
              (policy.target.isFinite = true →
                number.isInfinite = true →
                  (answer = true ↔
                    number = infinity false ∧ policy.target.OverflowsWith margin)) := by
  constructor
  · intro left right leftNumber rightNumber unbounded
    exact
      ⟨_, withinMargin_double left right margin,
        withinMargin_iff_of_isInfinite leftNumber rightNumber unbounded marginFinite⟩
  · intro policy candidate number absolute converts someNumber
    refine ⟨policy.accepts number, ?_, ?_, ?_⟩
    · exact Policy.outcome_acceptsValue_eq_ok_iff.mpr ⟨number, converts, rfl⟩
    · intro targetInfinite
      exact
        Policy.accepts_iff_of_isInfinite_target absolute marginFinite targetInfinite someNumber
    · intro targetFinite infinite
      exact Policy.accepts_iff_of_isFinite_target absolute marginFinite targetFinite infinite

/-- The largest double and half a gap above it, next to `∞`, as numbers and as a policy. -/
theorem withinMargin_infinite_iff_of_largest :
    (largest false : Double).isNaN = false ∧
      (infinity false : Double).isNaN = false ∧
      (infinity false : Double).isInfinite = true ∧
      (ofInt (2 ^ 970) : Double).isFinite = true ∧
      (∃ answer,
        withinMargin (.leaf (.double (largest false))) (.leaf (.double (infinity false)))
            (.leaf (.double (ofInt (2 ^ 970)))) =
            .ok answer ∧
          (answer = true ↔
            (largest false : Double).equals (infinity false) = true ∨
              (infinity false : Double) = infinity false ∧
                (largest false : Double).OverflowsWith (ofInt (2 ^ 970)) ∨
              (largest false : Double) = infinity false ∧
                (infinity false : Double).OverflowsWith (ofInt (2 ^ 970)))) ∧
      ∃ answer,
        (Policy.acceptsValue ⟨infinity false, .margin (ofInt (2 ^ 970))⟩
            (.leaf (.double (largest false)))).outcome = .ok answer ∧
          (answer = true ↔
            (largest false : Double).equals (infinity false) = true ∨
              (infinity false : Double) = infinity false ∧
                (largest false : Double).OverflowsWith (ofInt (2 ^ 970))) := by
  have largestNumber : (largest false : Double).isNaN = false := by
    decide
  have endNumber : (infinity false : Double).isNaN = false := by
    decide
  have infinite : (infinity false : Double).isInfinite = true := by
    decide
  have marginFinite : (ofInt (2 ^ 970) : Double).isFinite = true := by
    decide +kernel
  obtain ⟨answer, outcome, forInfinite, -⟩ :=
    @(withinMargin_infinite_iff marginFinite).2 ⟨infinity false, .margin (ofInt (2 ^ 970))⟩
      (.leaf (.double (largest false))) (largest false) rfl rfl largestNumber
  exact
    ⟨largestNumber, endNumber, infinite, marginFinite,
      (withinMargin_infinite_iff marginFinite).1 largestNumber endNumber (Or.inr infinite),
      answer, outcome, forInfinite infinite⟩

/--
The largest double is within half its gap of `∞`, although the two are not
equal.  The policy on that margin is built around either of them and accepts
the other.
-/
theorem infinity_within_margin_of_largest :
    (largest false : Double).isFinite = true ∧
      (ofInt (2 ^ 970) : Double).isFinite = true ∧
      (zero false).atMost (ofInt (2 ^ 970) : Double) = true ∧
      (largest false : Double).equals (infinity false) = false ∧
      withinMargin (.leaf (.double (largest false))) (.leaf (.double (infinity false)))
          (.leaf (.double (ofInt (2 ^ 970)))) =
        .ok true ∧
      (Recipe.absolute (.leaf (.double (infinity false)))
          (.leaf (.double (ofInt (2 ^ 970))))).build.outcome =
        .ok ⟨infinity false, .margin (ofInt (2 ^ 970))⟩ ∧
      (Policy.acceptsValue ⟨infinity false, .margin (ofInt (2 ^ 970))⟩
          (.leaf (.double (largest false)))).outcome = .ok true ∧
      (Recipe.absolute (.leaf (.double (largest false)))
          (.leaf (.double (ofInt (2 ^ 970))))).build.outcome =
        .ok ⟨largest false, .margin (ofInt (2 ^ 970))⟩ ∧
      (Policy.acceptsValue ⟨largest false, .margin (ofInt (2 ^ 970))⟩
          (.leaf (.double (infinity false)))).outcome = .ok true :=
  ⟨by decide, by decide +kernel, by decide +kernel, by decide +kernel, by decide +kernel,
    by decide +kernel, by decide +kernel, by decide +kernel, by decide +kernel⟩

end Value

end Closeness
