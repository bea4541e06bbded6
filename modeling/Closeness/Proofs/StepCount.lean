import Mathlib.Order.Bounds.Defs
import Closeness.Proofs.Acceptance
import Closeness.Value.Operations

/-!
# Counted walks and distances

A distance is computed from bit patterns in one expression, and a walk goes
from neighbour to neighbour.  Both are differences of positions: between
finite numbers a walk towards a target is there exactly when its count is at
least the distance, and until then the distance it has covered is its count.
So the distance is the least number of steps that lead from one number to the
other, as long as it is below the limit from which on distances are not told
apart.
-/

namespace Closeness

open Binary

namespace Binary

variable {format : Format}

theorem farthest_eq :
    farthest = 2 ^ 63 - 1 := by
  decide

theorem positionToward_eq_target_iff
    {target start : Int}
    {count : Nat} :
    positionToward target count start = target ↔ (target - start).natAbs ≤ count := by
  rw [positionToward]
  split <;> omega

/-- A walk goes its count or, if that is less, the whole way, in the direction of the target. -/
theorem positionToward_eq_add
    (target start : Int)
    (count : Nat) :
    positionToward target count start =
      start + (target - start).sign * (min count (target - start).natAbs : Nat) := by
  rcases Int.lt_trichotomy start target with upward | same | downward
  · rw [positionToward_of_le (Int.le_of_lt upward),
      Int.sign_eq_one_of_pos (Int.sub_pos_of_lt upward)]
    omega
  · rw [positionToward_of_le (Int.le_of_eq same), same, Int.sub_self, Int.sign_zero]
    omega
  · rw [positionToward_of_ge (Int.le_of_lt downward),
      Int.sign_eq_neg_one_of_neg (Int.sub_neg_of_lt downward)]
    omega

/-- Short of its target a walk has gone its count. -/
theorem positionToward_sub
    {target start : Int}
    {count : Nat}
    (short : count ≤ (target - start).natAbs) :
    positionToward target count start - start = (target - start).sign * count := by
  rw [positionToward_eq_add, Nat.min_eq_left short]
  omega

/-- Between finite numbers a walk stays finite. -/
theorem isFinite_walk
    {target number : Binary format}
    (targetFinite : target.isFinite = true)
    (finite : number.isFinite = true)
    (count : Nat) :
    (walk target count number).isFinite = true := by
  have targetShort := isFinite_iff_position.mp targetFinite
  have short := isFinite_iff_position.mp finite
  rw [isFinite_iff_position,
    position_walk (isNaN_of_isFinite targetFinite) count (isNaN_of_isFinite finite),
    positionToward]
  split <;> omega

/-- Below the limit a distance is the difference of the positions. -/
theorem distance_eq_sub
    {start stop : Binary format}
    (startFinite : start.isFinite = true)
    (stopFinite : stop.isFinite = true)
    (apart : (start.distance stop).natAbs < farthest) :
    start.distance stop = stop.position - start.position := by
  rw [distance_of_isFinite startFinite stopFinite] at apart ⊢
  omega

theorem equals_walk_iff
    {start stop : Binary format}
    (startFinite : start.isFinite = true)
    (stopFinite : stop.isFinite = true)
    (apart : (start.distance stop).natAbs < farthest)
    (count : Nat) :
    (walk stop count start).equals stop = true ↔ (start.distance stop).natAbs ≤ count := by
  have startNumber := isNaN_of_isFinite startFinite
  have stopNumber := isNaN_of_isFinite stopFinite
  rw [equals_iff (isNaN_walk stop count startNumber) stopNumber,
    position_walk stopNumber count startNumber, positionToward_eq_target_iff,
    distance_eq_sub startFinite stopFinite apart]

/-- The distance covered by a walk that is not longer than needed is its count. -/
theorem distance_walk
    {start stop : Binary format}
    (startFinite : start.isFinite = true)
    (stopFinite : stop.isFinite = true)
    (apart : (start.distance stop).natAbs < farthest)
    {count : Nat}
    (short : count ≤ (start.distance stop).natAbs) :
    start.distance (walk stop count start) = (start.distance stop).sign * count := by
  have covered :
      (walk stop count start).position - start.position =
        (start.distance stop).sign * count := by
    rw [position_walk (isNaN_of_isFinite stopFinite) count (isNaN_of_isFinite startFinite)]
    rw [distance_eq_sub startFinite stopFinite apart] at short ⊢
    exact positionToward_sub short
  have sign : ((start.distance stop).sign * (count : Int)).natAbs ≤ count := by
    rw [Int.natAbs_mul, Int.natAbs_natCast, Int.natAbs_sign]
    split <;> omega
  rw [distance_of_isFinite startFinite (isFinite_walk stopFinite startFinite count), covered]
  omega

end Binary

namespace Width

variable (width : Width)

theorem isNaN_of_isFinite_narrow
    {number : Double}
    (finite : (width.narrow number).isFinite = true) :
    number.isNaN = false := by
  rw [← width.isNaN_narrow, isNaN_of_isFinite finite]

/-- A walk is at its end exactly when its count is at least the distance. -/
theorem equals_step_iff
    {start stop : Double}
    (startFinite : (width.narrow start).isFinite = true)
    (stopFinite : (width.narrow stop).isFinite = true)
    (apart : (width.distance start stop).natAbs < 2 ^ 63 - 1)
    (count : Nat) :
    (width.step start stop count).equals (width.narrow stop) = true ↔
      (width.distance start stop).natAbs ≤ count := by
  have startNumber := width.isNaN_of_isFinite_narrow startFinite
  have stopNumber := width.isNaN_of_isFinite_narrow stopFinite
  rw [isFinite_narrow] at startFinite stopFinite
  rw [← farthest_eq] at apart
  rw [width.step_eq startNumber stopNumber, narrow, width.equals_widen]
  exact equals_walk_iff startFinite stopFinite apart count

/-- Until its end a walk has covered its count, in the direction of its end. -/
theorem distance_step
    {start stop : Double}
    (startFinite : (width.narrow start).isFinite = true)
    (stopFinite : (width.narrow stop).isFinite = true)
    (apart : (width.distance start stop).natAbs < 2 ^ 63 - 1)
    {count : Nat}
    (short : count ≤ (width.distance start stop).natAbs) :
    width.distance start (width.step start stop count) =
      (width.distance start stop).sign * count := by
  have startNumber := width.isNaN_of_isFinite_narrow startFinite
  have stopNumber := width.isNaN_of_isFinite_narrow stopFinite
  rw [isFinite_narrow] at startFinite stopFinite
  rw [← farthest_eq] at apart
  have reachedNumber := isNaN_of_isFinite (isFinite_walk stopFinite startFinite count)
  rw [distance, width.step_eq startNumber stopNumber, width.round_widen reachedNumber]
  exact distance_walk startFinite stopFinite apart short

end Width

namespace Value

/-- A natural number of steps is taken as it is, from any value that converts to any other. -/
theorem step_of_converts
    (width : Width)
    {start direction : Value}
    {origin goal : Double}
    (startConverts : start.toDouble = .ok origin)
    (directionConverts : direction.toDouble = .ok goal)
    (originNumber : origin.isNaN = false)
    (goalNumber : goal.isNaN = false)
    (count : Nat) :
    step start direction (.leaf (.integer count)) width = .ok (width.step origin goal count) := by
  have notNegative : refuseNegative (.leaf (.integer count)) = .ok () := by
    simp [refuseNegative, Number.ofValue?, Number.ofScalar?, Number.exactlyAtMost]
  rw [step, notNegative, startConverts, directionConverts]
  show (if origin.isNaN || goal.isNaN then _ else _) = _
  rw [originNumber, goalNumber]
  rfl

theorem step_natural
    (width : Width)
    {start direction : Double}
    (startNumber : start.isNaN = false)
    (directionNumber : direction.isNaN = false)
    (count : Nat) :
    step (.leaf (.double start)) (.leaf (.double direction)) (.leaf (.integer count)) width =
      .ok (width.step start direction count) :=
  step_of_converts width rfl rfl startNumber directionNumber count

/--
Between doubles that are finite in a width, and nearer than the limit on
distances, a walk of a count of steps is at its end exactly when the count is
at least the distance, and up to there the distance it covers is its count.
So the distance is the least count of steps that leads to the end.
-/
theorem step_reaches_iff_distance_le
    (width : Width)
    {start stop : Double}
    (startFinite : (width.narrow start).isFinite = true)
    (stopFinite : (width.narrow stop).isFinite = true)
    (apart : (width.distance start stop).natAbs < 2 ^ 63 - 1) :
    (∀ count : Nat,
      ∃ reached,
        step (.leaf (.double start)) (.leaf (.double stop)) (.leaf (.integer count)) width =
            .ok reached ∧
          (reached.equals (width.narrow stop) = true ↔
            (width.distance start stop).natAbs ≤ count) ∧
          (count ≤ (width.distance start stop).natAbs →
            distance (.leaf (.double start)) (.leaf (.double reached)) width =
              .ok ((width.distance start stop).sign * count))) ∧
      IsLeast
        { count : Nat |
          ∃ reached,
            step (.leaf (.double start)) (.leaf (.double stop)) (.leaf (.integer count)) width =
                .ok reached ∧
              reached.equals (width.narrow stop) = true }
        (width.distance start stop).natAbs := by
  have startNumber := width.isNaN_of_isFinite_narrow startFinite
  have stopNumber := width.isNaN_of_isFinite_narrow stopFinite
  have walked := step_natural width startNumber stopNumber
  have arrives := width.equals_step_iff startFinite stopFinite apart
  constructor
  · intro count
    refine ⟨_, walked count, arrives count, ?_⟩
    intro short
    show Except.ok (width.distance _ _) = _
    rw [width.distance_step startFinite stopFinite apart short]
  · constructor
    · exact ⟨_, walked _, (arrives _).mpr (Nat.le_refl _)⟩
    · rintro count ⟨reached, taken, arrived⟩
      rw [walked count] at taken
      cases taken
      exact (arrives count).mp arrived

/-- Across zero, from the greatest negative number to the least positive one. -/
theorem step_reaches_iff_distance_le_of_least :
    (Width.single.narrow (Width.single.widen (least true))).isFinite = true ∧
      (Width.single.narrow Width.single.least).isFinite = true ∧
      (Width.single.distance (Width.single.widen (least true)) Width.single.least).natAbs <
        2 ^ 63 - 1 ∧
      IsLeast
        { count : Nat |
          ∃ reached,
            step (.leaf (.double (Width.single.widen (least true))))
                (.leaf (.double Width.single.least)) (.leaf (.integer count)) .single =
                .ok reached ∧
              reached.equals (Width.single.narrow Width.single.least) = true }
        (Width.single.distance (Width.single.widen (least true)) Width.single.least).natAbs := by
  have startFinite :
      (Width.single.narrow (Width.single.widen (least true))).isFinite = true := by
    decide +kernel
  have stopFinite : (Width.single.narrow Width.single.least).isFinite = true := by
    decide +kernel
  have apart :
      (Width.single.distance (Width.single.widen (least true)) Width.single.least).natAbs <
        2 ^ 63 - 1 := by
    decide +kernel
  exact
    ⟨startFinite, stopFinite, apart,
      (step_reaches_iff_distance_le .single startFinite stopFinite apart).2⟩

end Value

end Closeness
