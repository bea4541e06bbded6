import Closeness.Proofs.Acceptance

/-!
# Which bounds are accepted

The bounds of a policy on steps are the ends of two walks from its target.
Neither end is further from the target than the count, but a walk may leave
the finite numbers, or start outside them, and an infinity is close to itself
only.

From a finite target a bound is accepted exactly if it is finite, and it is
finite exactly if the count is at most the number of values between the target
and the end of the range.  The walk of one step up from the largest number ends
at infinity, which is not accepted.  From an infinite target a bound is accepted
exactly if the walk stays at the target.
-/

namespace Closeness

open Binary

namespace Binary

variable {format : Format}

theorem isFinite_largest
    (negative : Bool) :
    (largest negative : Binary format).isFinite = true :=
  isFinite_iff.mpr (Nat.sub_lt format.infinityCode_pos Nat.one_pos)

theorem position_largest
    (negative : Bool) :
    (largest negative : Binary format).position =
      if negative then -((format.infinityCode : Int) - 1) else format.infinityCode - 1 := by
  have positive := format.infinityCode_pos
  have code : (format.largestCode : Int) = format.infinityCode - 1 := by
    rw [Format.largestCode]
    omega
  rw [position, largest, code]

/-- Numbers no further apart than a limit are within it if both are finite, or at one position. -/
theorem withinUlps_iff_of_le
    {left right : Binary format}
    (leftNumber : left.isNaN = false)
    (rightNumber : right.isNaN = false)
    {limit : Nat}
    (near : (right.position - left.position).natAbs ≤ limit) :
    left.withinUlps limit right = true ↔
      left.isFinite = true ∧ right.isFinite = true ∨ left.position = right.position := by
  rw [withinUlps]
  split
  · next finites =>
    rw [Bool.and_eq_true] at finites
    rw [decide_eq_true_eq, distance_of_isFinite finites.1 finites.2]
    constructor
    · intro _
      exact Or.inl finites
    · intro _
      omega
  · next unbounded =>
    rw [Bool.and_eq_true] at unbounded
    rw [equals_iff leftNumber rightNumber]
    constructor
    · exact Or.inr
    · rintro (finites | same)
      · exact absurd finites unbounded
      · exact same

end Binary

namespace Width

variable (width : Width) (count : Nat) {target : Double} (negative : Bool)

/-- The end of a walk towards an infinity is finite if its position is one of a finite number. -/
theorem isFinite_step_infinity_iff
    (targetNumber : (width.round target).isNaN = false) :
    (width.step target (.infinity negative) count).isFinite = true ↔
      (positionToward (infinity negative : Binary width.format).position count
          (width.round target).position).natAbs <
        width.format.infinityCode := by
  obtain ⟨stop, -, walked, position⟩ := width.position_step_infinity count targetNumber negative
  rw [walked, isFinite_widen, isFinite_iff_position, position]

/-- The end of a walk towards an infinity is accepted if it rests, or if no infinity is involved. -/
theorem withinUlps_step_infinity_iff
    (targetNumber : (width.round target).isNaN = false) :
    width.withinUlps count (width.step target (.infinity negative) count) target = true ↔
      (width.step target (.infinity negative) count).isFinite = true ∧
          (width.round target).isFinite = true ∨
        positionToward (infinity negative : Binary width.format).position count
            (width.round target).position =
          (width.round target).position := by
  obtain ⟨stop, stopNumber, walked, position⟩ :=
    width.position_step_infinity count targetNumber negative
  have near : ((width.round target).position - stop.position).natAbs ≤ count := by
    rw [position, positionToward]
    split <;> omega
  rw [withinUlps, walked, width.round_widen stopNumber, isFinite_widen,
    withinUlps_iff_of_le stopNumber targetNumber near, position]

section FiniteTarget

variable (targetFinite : (width.round target).isFinite = true)

include targetFinite

/-- From a finite target the end is accepted if it is finite. -/
theorem withinUlps_step_infinity_of_isFinite :
    width.withinUlps count (width.step target (.infinity negative) count) target = true ↔
      (width.step target (.infinity negative) count).isFinite = true := by
  have targetNumber := isNaN_of_isFinite targetFinite
  rw [withinUlps_step_infinity_iff width count negative targetNumber]
  constructor
  · rintro (⟨finite, -⟩ | rests)
    · exact finite
    · rw [isFinite_step_infinity_iff width count negative targetNumber, rests]
      exact isFinite_iff_position.mp targetFinite
  · intro finite
    exact Or.inl ⟨finite, targetFinite⟩

/-- From a finite target the end is finite while there are values left for all steps. -/
theorem isFinite_step_infinity_iff_le_separation :
    (width.step target (.infinity negative) count).isFinite = true ↔
      count ≤
        width.format.separation
          (width.round target).value (largest negative : Binary width.format).value := by
  have short := isFinite_iff_position.mp targetFinite
  rw [isFinite_step_infinity_iff width count negative (isNaN_of_isFinite targetFinite),
    Format.separation_eq targetFinite (isFinite_largest negative), position_largest,
    position_infinity]
  cases negative with
  | true =>
      rw [if_pos rfl, if_pos rfl, positionToward_of_ge (by omega)]
      omega
  | false =>
      rw [if_neg (by decide), if_neg (by decide), positionToward_of_le (by omega)]
      omega

end FiniteTarget

/-- From an infinite target the end is accepted only if the walk stays at the target. -/
theorem withinUlps_step_infinity_of_isInfinite
    (targetInfinite : (width.round target).isInfinite = true) :
    width.withinUlps count (width.step target (.infinity negative) count) target = true ↔
      count = 0 ∨ (width.round target).negative = negative := by
  have targetNumber := isNaN_of_isInfinite targetInfinite
  have unbounded := isFinite_of_isInfinite targetInfinite
  have positive := width.format.infinityCode_pos
  rw [withinUlps_step_infinity_iff width count negative targetNumber, unbounded,
    position_of_isInfinite targetInfinite, position_infinity, positionToward]
  cases negative <;> cases (width.round target).negative <;>
    simp only [Bool.false_eq_true, if_false, if_true, and_false, false_or, or_true,
      or_false, reduceCtorEq, iff_true] <;>
    omega

end Width

namespace Policy

variable {policy : Policy} {count : Nat} {width : Width}

/--
A bound of a policy on steps whose target is finite in the width is accepted
exactly if it is finite, so if the walk to it has not left the range.  That is
so if the count is at most the number of values between the target and the end
of the range on the side of the bound.
-/
theorem accepts_bounds_iff
    (steps : policy.tolerance = .ulps count width)
    (targetFinite : (width.narrow policy.target).isFinite = true) :
    ∃ lower upper,
      policy.bounds? = some (lower, upper) ∧
        (policy.accepts lower = true ↔ lower.isFinite = true) ∧
        (lower.isFinite = true ↔
          count ≤
            width.format.separation
              (width.narrow policy.target).value
              (largest true : Binary width.format).value) ∧
        (policy.accepts upper = true ↔ upper.isFinite = true) ∧
        (upper.isFinite = true ↔
          count ≤
            width.format.separation
              (width.narrow policy.target).value
              (largest false : Binary width.format).value) := by
  refine ⟨_, _, by rw [bounds?, steps], ?_⟩
  rw [width.value_narrow targetFinite]
  rw [Width.isFinite_narrow] at targetFinite
  simp only [accepts, steps]
  exact
    ⟨width.withinUlps_step_infinity_of_isFinite count true targetFinite,
      width.isFinite_step_infinity_iff_le_separation count true targetFinite,
      width.withinUlps_step_infinity_of_isFinite count false targetFinite,
      width.isFinite_step_infinity_iff_le_separation count false targetFinite⟩

theorem accepts_bounds_iff_of_least :
    (Width.single.narrow Width.single.least).isFinite = true ∧
      ∃ lower upper,
        bounds? ⟨Width.single.least, .ulps 2 .single⟩ = some (lower, upper) ∧
          (accepts ⟨Width.single.least, .ulps 2 .single⟩ lower = true ↔ lower.isFinite = true) ∧
          (upper.isFinite = true ↔
            2 ≤
              Format.binary32.separation
                (Width.single.narrow Width.single.least).value
                (largest false : Single).value) := by
  have targetFinite : (Width.single.narrow Width.single.least).isFinite = true := by
    decide +kernel
  obtain ⟨lower, upper, bounds, accepted, -, -, finite⟩ :=
    @accepts_bounds_iff ⟨Width.single.least, .ulps 2 .single⟩ 2 .single rfl targetFinite
  exact ⟨targetFinite, lower, upper, bounds, accepted, finite⟩

/-- One step up from the largest double is infinity, a bound that is not accepted. -/
theorem bound_not_accepted_of_largest :
    (ulps (.leaf (.double (largest false))) (.leaf (.integer 1)) (.given .double)).outcome =
        .ok ⟨largest false, .ulps 1 .double⟩ ∧
      (bounds? ⟨largest false, .ulps 1 .double⟩).map Prod.snd = some (infinity false) ∧
      accepts ⟨largest false, .ulps 1 .double⟩ (infinity false) = false :=
  ⟨by rfl, by decide, by decide⟩

/--
A bound of a policy on steps whose target is infinite in the width is accepted
exactly if the count is zero or the bound is on the outer side of the target.
-/
theorem accepts_bounds_iff_of_isInfinite
    (steps : policy.tolerance = .ulps count width)
    (targetInfinite : (width.narrow policy.target).isInfinite = true) :
    ∃ lower upper,
      policy.bounds? = some (lower, upper) ∧
        (policy.accepts lower = true ↔
          count = 0 ∨ (width.narrow policy.target).negative = true) ∧
        (policy.accepts upper = true ↔
          count = 0 ∨ (width.narrow policy.target).negative = false) := by
  refine ⟨_, _, by rw [bounds?, steps], ?_⟩
  rw [width.negative_narrow]
  rw [Width.isInfinite_narrow] at targetInfinite
  simp only [accepts, steps]
  exact
    ⟨width.withinUlps_step_infinity_of_isInfinite count true targetInfinite,
      width.withinUlps_step_infinity_of_isInfinite count false targetInfinite⟩

/-- One step down from infinity is the largest double, which is not accepted for infinity. -/
example :
    (bounds? ⟨infinity false, .ulps 1 .double⟩).map Prod.fst = some (largest false) ∧
      accepts ⟨infinity false, .ulps 1 .double⟩ (largest false) = false := by
  decide

end Policy

end Closeness
