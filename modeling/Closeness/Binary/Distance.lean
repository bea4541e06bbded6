import Closeness.Binary.Pattern

/-!
# Distance in representable steps

The distance from one finite number to another counts the representable steps
between them, and is read off bit patterns.  Patterns of positive numbers grow
with the numbers, one by one.  Negative numbers are as far apart as their
magnitudes, and the way from a zero, or across zero, leads over the least
numbers of either sign.  The two zeros are no step apart.

Distances that do not fit 63 bits, and distances that involve an infinity or
NaN, are given as the greatest magnitude that does.  `distance_of_isFinite`
is the closed form: up to that limit, the difference of the positions.
-/

namespace Closeness.Binary

variable {format : Format}

/-- The greatest distance that is told apart, `2 ^ 63 - 1`. -/
def farthest : Nat :=
  Nat.pow 2 63 - 1

/-- The steps between a number and the least one of its sign. -/
def stepsFromLeast (number : Binary format) : Int :=
  number.abs.toPattern - (least false : Binary format).toPattern

/-- The steps from a finite number up to another that is not below it. -/
def stepsUp (lower upper : Binary format) : Int :=
  if lower.equals upper then
    0
  else if lower.isZero then
    1 + upper.stepsFromLeast
  else if upper.isZero then
    1 + lower.stepsFromLeast
  else if lower.below (zero false) != upper.below (zero false) then
    2 + lower.stepsFromLeast + upper.stepsFromLeast
  else if lower.below (zero false) then
    (-lower).toPattern - (-upper).toPattern
  else
    upper.toPattern - lower.toPattern

/-- The signed number of steps from one number to another. -/
def distance (start stop : Binary format) : Int :=
  if start.isNaN || stop.isNaN then
    farthest
  else if start.isInfinite || stop.isInfinite then
    farthest
  else if stop.below start then
    -min (stop.stepsUp start) farthest
  else
    min (start.stepsUp stop) farthest

/--
At most a given number of steps apart.  An infinity is close to itself only
and NaN to nothing, whatever the number of steps.
-/
def withinUlps (limit : Nat) (left right : Binary format) : Bool :=
  if left.isFinite && right.isFinite then
    (left.distance right).natAbs ≤ limit
  else
    left.equals right

/-- From the least number on, the code counts the steps. -/
theorem stepsFromLeast_eq
    (number : Binary format) :
    number.stepsFromLeast = (number.position.natAbs : Int) - 1 := by
  simp [stepsFromLeast, toPattern, abs, least]

/-- From a finite number up to another, the steps are the difference of the positions. -/
theorem stepsUp_eq
    {lower upper : Binary format}
    (lowerFinite : lower.isFinite = true)
    (upperFinite : upper.isFinite = true)
    (ordered : lower.position ≤ upper.position) :
    lower.stepsUp upper = upper.position - lower.position := by
  have lowerNumber := isNaN_of_isFinite lowerFinite
  have upperNumber := isNaN_of_isFinite upperFinite
  rw [stepsUp]
  split
  · next same =>
    rw [equals_iff lowerNumber upperNumber] at same
    omega
  split
  · next lowerZero =>
    rw [isZero_iff] at lowerZero
    rw [stepsFromLeast_eq]
    omega
  split
  · next upperZero =>
    rw [isZero_iff] at upperZero
    rw [stepsFromLeast_eq]
    omega
  rw [isZero_iff] at *
  have lowerSign := below_zero_iff lowerNumber
  have upperSign := below_zero_iff upperNumber
  split
  · next crossing =>
    have differ : ¬(lower.position < 0 ↔ upper.position < 0) := by
      rw [← lowerSign, ← upperSign, ← Bool.eq_iff_iff]
      exact bne_iff_ne.mp crossing
    rw [stepsFromLeast_eq, stepsFromLeast_eq]
    omega
  · next alike =>
    have agree : lower.position < 0 ↔ upper.position < 0 := by
      rw [← lowerSign, ← upperSign, ← Bool.eq_iff_iff]
      simpa using alike
    split
    · next negative =>
      rw [lowerSign] at negative
      rw [toPattern_neg_of_position_neg negative,
        toPattern_neg_of_position_neg (agree.mp negative)]
      omega
    · next positive =>
      rw [lowerSign] at positive
      have lowerPositive : 0 < lower.position := by omega
      have upperPositive : 0 < upper.position := by omega
      rw [toPattern_of_position_pos lowerPositive, toPattern_of_position_pos upperPositive]

/-- Between finite numbers the distance is the difference of the positions, up to the limit. -/
theorem distance_of_isFinite
    {start stop : Binary format}
    (startFinite : start.isFinite = true)
    (stopFinite : stop.isFinite = true) :
    start.distance stop =
      max (-(farthest : Int)) (min (stop.position - start.position) farthest) := by
  have startNumber := isNaN_of_isFinite startFinite
  have stopNumber := isNaN_of_isFinite stopFinite
  have descending := below_iff stopNumber startNumber
  simp only [distance, startNumber, stopNumber, isInfinite_of_isFinite startFinite,
    isInfinite_of_isFinite stopFinite, Bool.or_self, Bool.false_eq_true, if_false]
  split
  · next backward =>
    rw [descending] at backward
    rw [stepsUp_eq stopFinite startFinite (Int.le_of_lt backward)]
    omega
  · next forward =>
    rw [descending, Int.not_lt] at forward
    rw [stepsUp_eq startFinite stopFinite forward]
    omega

/-- An infinity or NaN is as far as can be told from everything. -/
theorem distance_of_not_isFinite
    {start stop : Binary format}
    (unbounded : start.isFinite = false ∨ stop.isFinite = false) :
    start.distance stop = farthest := by
  simp only [isFinite_eq] at unbounded
  rw [distance]
  split
  · rfl
  · split
    · rfl
    · next numbers finites => simp_all

/-- Going back costs the same number of steps in the other direction. -/
theorem distance_swap
    {start stop : Binary format}
    (startFinite : start.isFinite = true)
    (stopFinite : stop.isFinite = true) :
    stop.distance start = -start.distance stop := by
  rw [distance_of_isFinite startFinite stopFinite, distance_of_isFinite stopFinite startFinite]
  omega

end Closeness.Binary
