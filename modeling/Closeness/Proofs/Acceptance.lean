import Mathlib.Algebra.Order.Group.Unbundled.Int
import Closeness.Policy.Construction
import Closeness.Policy.Description
import Closeness.Proofs.Counting
import Closeness.Proofs.Walk

/-!
# What policies on steps accept

A policy on steps compares a distance with its count, and it bounds what it
accepts by walks of that count from its target.  Between finite numbers both
speak of positions: the distance is a difference of positions, and the walks
end a count of positions below and above the target.  So below the limit on
distances a number is accepted exactly when it lies within the bounds.

Distances beyond the limit are not told apart, so a policy whose count reaches
the limit accepts every finite number.  Up to there, a policy accepts a number
exactly when at most its count of values separate it from the target.
-/

namespace Closeness

open Binary

/-- Between finite numbers a limit on steps limits the difference of positions. -/
theorem Binary.withinUlps_of_isFinite
    {format : Format}
    (limit : Nat)
    {left right : Binary format}
    (leftFinite : left.isFinite = true)
    (rightFinite : right.isFinite = true) :
    left.withinUlps limit right = true ↔
      (right.position - left.position).natAbs ≤ limit ∨ farthest ≤ limit := by
  simp only [withinUlps, leftFinite, rightFinite, Bool.and_self, if_true, decide_eq_true_eq,
    distance_of_isFinite leftFinite rightFinite]
  omega

/-- Unless both are finite, only numbers that are equal are within a limit on steps. -/
theorem Binary.withinUlps_of_unbounded
    {format : Format}
    (limit : Nat)
    {left right : Binary format}
    (unbounded : ¬ (left.isFinite = true ∧ right.isFinite = true)) :
    left.withinUlps limit right = left.equals right := by
  rw [← Bool.and_eq_true] at unbounded
  exact if_neg unbounded

namespace Width

theorem round_infinity
    (width : Width)
    (negative : Bool) :
    width.round (.infinity negative) = .infinity negative := by
  cases width with
  | single => exact convert_of_isInfinite (isInfinite_infinity negative)
  | double => rfl

theorem step_eq
    (width : Width)
    {start direction : Double}
    (startNumber : start.isNaN = false)
    (directionNumber : direction.isNaN = false)
    (count : Nat) :
    width.step start direction count =
      width.widen ((width.round direction).walk count (width.round start)) := by
  simp [step, startNumber, directionNumber]

theorem withinUlps_of_isNaN
    (width : Width)
    (limit : Nat)
    {left : Double}
    (right : Double)
    (noNumber : left.isNaN = true) :
    width.withinUlps limit left right = false := by
  simp [withinUlps, Binary.withinUlps, isFinite_eq, Binary.equals, noNumber]

theorem withinUlps_of_isFinite
    (width : Width)
    (limit : Nat)
    {left right : Double}
    (leftFinite : (width.round left).isFinite = true)
    (rightFinite : (width.round right).isFinite = true) :
    width.withinUlps limit left right = true ↔
      ((width.round right).position - (width.round left).position).natAbs ≤ limit ∨
        farthest ≤ limit :=
  Binary.withinUlps_of_isFinite limit leftFinite rightFinite

/-- Where a walk of a count of steps towards an infinity ends. -/
theorem position_step_infinity
    (width : Width)
    (count : Nat)
    {target : Double}
    (targetNumber : (width.round target).isNaN = false)
    (negative : Bool) :
    ∃ reached : Binary width.format,
      reached.isNaN = false ∧
        width.step target (.infinity negative) count = width.widen reached ∧
        reached.position =
          positionToward (infinity negative : Binary width.format).position count
            (width.round target).position := by
  have startNumber : target.isNaN = false := by
    rw [← width.isNaN_round, targetNumber]
  have infinityNumber : ∀ {format : Format},
      (infinity negative : Binary format).isNaN = false :=
    isNaN_of_isInfinite (isInfinite_infinity negative)
  refine ⟨_, isNaN_walk _ count targetNumber,
    width.step_eq startNumber infinityNumber count, ?_⟩
  rw [round_infinity]
  exact position_walk infinityNumber count targetNumber

/-- A finite number lies between the ends of two walks if its position does. -/
theorem between_bounds_iff
    (width : Width)
    (count : Nat)
    {target candidate : Double}
    (targetFinite : (width.round target).isFinite = true)
    (candidateFinite : (width.round candidate).isFinite = true) :
    ((width.bounds target count).1.atMost (width.narrow candidate) = true ∧
        (width.narrow candidate).atMost (width.bounds target count).2 = true) ↔
      ((width.round target).position - (width.round candidate).position).natAbs ≤
        count := by
  have targetNumber := isNaN_of_isFinite targetFinite
  obtain ⟨lower, lowerNumber, lowerReached, lowerPosition⟩ :=
    width.position_step_infinity count targetNumber true
  obtain ⟨upper, upperNumber, upperReached, upperPosition⟩ :=
    width.position_step_infinity count targetNumber false
  have candidateNumber := isNaN_of_isFinite candidateFinite
  have targetShort := isFinite_iff.mp targetFinite
  have candidateShort := isFinite_iff.mp candidateFinite
  rw [← natAbs_position] at targetShort candidateShort
  rw [position_infinity, if_pos rfl, positionToward_of_ge (by omega)] at lowerPosition
  rw [position_infinity, if_neg (by decide), positionToward_of_le (by omega)]
    at upperPosition
  rw [bounds, lowerReached, upperReached, narrow, atMost_widen, atMost_widen,
    atMost_iff lowerNumber candidateNumber, atMost_iff candidateNumber upperNumber,
    lowerPosition, upperPosition]
  omega

end Width

namespace Policy

/--
A policy on steps, of a count below the limit on distances and with a target
that is finite in the width, accepts exactly the numbers within its bounds.
-/
theorem accepts_iff_within_bounds
    {policy : Policy}
    {count : Nat}
    {width : Width}
    (steps : policy.tolerance = .ulps count width)
    (belowLimit : count < 2 ^ 63 - 1)
    (targetFinite : (width.narrow policy.target).isFinite = true)
    {candidate : Double}
    (notInfinite : (width.narrow candidate).isInfinite = false) :
    ∃ lower upper,
      policy.bounds? = some (lower, upper) ∧
        (policy.accepts candidate = true ↔
          lower.atMost (width.narrow candidate) = true ∧
            (width.narrow candidate).atMost upper = true) := by
  refine ⟨_, _, by rw [bounds?, steps], ?_⟩
  rw [Width.isFinite_narrow] at targetFinite
  simp only [accepts, steps]
  rcases Bool.eq_false_or_eq_true candidate.isNaN with noNumber | someNumber
  · have narrowNoNumber : (width.narrow candidate).isNaN = true := by
      rw [Width.isNaN_narrow, noNumber]
    simp [width.withinUlps_of_isNaN count policy.target noNumber, atMost,
      narrowNoNumber]
  · have candidateFinite : (width.round candidate).isFinite = true := by
      rw [Width.isInfinite_narrow, isInfinite_eq, Width.isNaN_round, someNumber]
        at notInfinite
      simpa using notInfinite
    have limit : farthest = 2 ^ 63 - 1 := by
      decide
    rw [width.withinUlps_of_isFinite count candidateFinite targetFinite,
      width.between_bounds_iff count targetFinite candidateFinite]
    omega

theorem accepts_iff_within_bounds_of_zero :
    (Width.single.narrow (zero true)).isFinite = true ∧
      (Width.single.narrow Width.single.least).isInfinite = false ∧
      ∃ lower upper,
        bounds? ⟨zero true, .ulps 3 .single⟩ = some (lower, upper) ∧
          (accepts ⟨zero true, .ulps 3 .single⟩ Width.single.least = true ↔
            lower.atMost (Width.single.narrow Width.single.least) = true ∧
              (Width.single.narrow Width.single.least).atMost upper = true) :=
  ⟨by decide +kernel, by decide +kernel,
    accepts_iff_within_bounds rfl
      (by decide) (by decide +kernel) (by decide +kernel)⟩

/--
A policy on steps accepts a finite number exactly when its count is enough for
the values between number and target, or reaches the limit on distances.
-/
theorem accepts_iff_separation_le_or_limit_le
    {policy : Policy}
    {count : Nat}
    {width : Width}
    (steps : policy.tolerance = .ulps count width)
    (targetFinite : (width.narrow policy.target).isFinite = true)
    {candidate : Double}
    (candidateFinite : (width.narrow candidate).isFinite = true) :
    policy.accepts candidate = true ↔
      width.format.separation
          (width.narrow candidate).value (width.narrow policy.target).value ≤ count ∨
        2 ^ 63 - 1 ≤ count := by
  have limit : farthest = 2 ^ 63 - 1 := by
    decide
  rw [width.value_narrow targetFinite, width.value_narrow candidateFinite]
  rw [Width.isFinite_narrow] at targetFinite candidateFinite
  simp only [accepts, steps]
  rw [Format.separation_eq candidateFinite targetFinite,
    width.withinUlps_of_isFinite count candidateFinite targetFinite, limit]

theorem accepts_iff_separation_le_of_range :
    (Width.double.narrow (largest false)).isFinite = true ∧
      (Width.double.narrow (largest true)).isFinite = true ∧
      (accepts ⟨largest false, .ulps 9223372036854775806 .double⟩ (largest true) = true ↔
        Format.binary64.separation
            (Width.double.narrow (largest true)).value
            (Width.double.narrow (largest false)).value ≤ 9223372036854775806 ∨
          2 ^ 63 - 1 ≤ 9223372036854775806) :=
  ⟨by decide, by decide,
    @accepts_iff_separation_le_or_limit_le
      ⟨largest false, .ulps 9223372036854775806 .double⟩ _ .double rfl
      (by decide) (largest true) (by decide)⟩

/--
A policy whose count is the limit is constructed, and accepts the one end of
the range of doubles for the other, although more values than its count
separate them.
-/
theorem accepts_of_limit_lt_separation :
    (ulps (.leaf (.double (largest false))) (.leaf (.integer (2 ^ 63 - 1)))
        (.given .double)).outcome =
          .ok ⟨largest false, .ulps (2 ^ 63 - 1) .double⟩ ∧
      accepts ⟨largest false, .ulps (2 ^ 63 - 1) .double⟩ (largest true) = true ∧
      2 ^ 63 - 1 <
        Format.binary64.separation
          (Width.double.narrow (largest true)).value
          (Width.double.narrow (largest false)).value := by
  refine ⟨by rfl, by decide, ?_⟩
  have leftFinite : (largest true : Double).isFinite = true := by
    decide
  have rightFinite : (largest false : Double).isFinite = true := by
    decide
  rw [Width.narrow_double, Width.narrow_double,
    Format.separation_eq leftFinite rightFinite]
  decide

end Policy

end Closeness
