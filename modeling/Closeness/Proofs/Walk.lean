import Closeness.Binary.Neighbour

/-!
# Positions along a walk

One step up or down a format moves the position by one, across zero and onto
the infinities as well.  By induction on the count, a walk moves the position
by its count towards that of the target, and no further than the target.
-/

namespace Closeness.Binary

variable {format : Format}

/-- The position that is a count of steps from another towards a target, or the target. -/
def positionToward (target : Int) (count : Nat) (start : Int) : Int :=
  if start ≤ target then
    min (start + count) target
  else
    max (start - count) target

theorem positionToward_of_le
    {target start : Int}
    (upward : start ≤ target)
    (count : Nat) :
    positionToward target count start = min (start + count) target :=
  if_pos upward

theorem positionToward_of_ge
    {target start : Int}
    (downward : target ≤ start)
    (count : Nat) :
    positionToward target count start = max (start - count) target := by
  rw [positionToward]
  split <;> omega

theorem positionToward_succ
    (target start : Int)
    (count : Nat) :
    positionToward target count (positionToward target 1 start) =
      positionToward target (count + 1) start := by
  rcases Int.le_total start target with upward | downward
  · have next : min (start + (1 : Nat)) target ≤ target := Int.min_le_right _ _
    rw [positionToward_of_le upward, positionToward_of_le upward,
      positionToward_of_le next]
    omega
  · have next : target ≤ max (start - (1 : Nat)) target := Int.le_max_right _ _
    rw [positionToward_of_ge downward, positionToward_of_ge downward,
      positionToward_of_ge next]
    omega

theorem code_le_infinityCode
    {number : Binary format}
    (someNumber : number.isNaN = false) :
    number.code ≤ format.infinityCode :=
  Nat.le_of_not_lt (decide_eq_false_iff_not.mp someNumber)

/-- A step up moves by one position, unless positive infinity is reached already. -/
theorem position_nextUp
    {number : Binary format}
    (someNumber : number.isNaN = false)
    (below : number.position < format.infinityCode) :
    number.nextUp.position = number.position + 1 := by
  have bound := code_le_infinityCode someNumber
  simp only [nextUp, someNumber, Bool.false_eq_true, if_false]
  split
  · next atZero =>
    rw [isZero_iff] at atZero
    rw [atZero]
    simp [position, least]
  · next away =>
    rw [isZero_iff] at away
    cases sign : number.negative with
    | true =>
        simp [position, sign, closerToZero] at away ⊢
        omega
    | false =>
        simp [position, sign, fartherFromZero] at below ⊢
        omega

theorem isNaN_nextUp
    {number : Binary format}
    (someNumber : number.isNaN = false) :
    number.nextUp.isNaN = false := by
  have bound := code_le_infinityCode someNumber
  have room := format.infinityCode_pos
  simp only [nextUp, someNumber, Bool.false_eq_true, if_false]
  split
  · exact decide_eq_false (by simp only [least]; omega)
  · split
    · exact decide_eq_false (by simp only [closerToZero]; omega)
    · exact decide_eq_false (by simp only [fartherFromZero]; omega)

/-- A step down mirrors a step up. -/
theorem nextDown_eq_neg
    (number : Binary format) :
    number.nextDown = -(-number).nextUp := by
  obtain ⟨negative, code, fits⟩ := number
  by_cases noNumber : format.infinityCode < code
  · simp [nextDown, nextUp, isNaN, noNumber, Neg.neg, neg]
  · by_cases atZero : code = 0
    · simp [nextDown, nextUp, isNaN, isZero, atZero, least, Neg.neg, neg]
    · cases negative <;>
        simp [nextDown, nextUp, isNaN, isZero, noNumber, atZero,
          closerToZero, fartherFromZero, Neg.neg, neg]

@[simp]
theorem isNaN_neg
    (number : Binary format) :
    (-number).isNaN = number.isNaN :=
  rfl

/-- A step down moves by one position, unless negative infinity is reached already. -/
theorem position_nextDown
    {number : Binary format}
    (someNumber : number.isNaN = false)
    (above : -(format.infinityCode : Int) < number.position) :
    number.nextDown.position = number.position - 1 := by
  have mirrored : (-number).position < format.infinityCode := by
    rw [position_neg]
    omega
  have mirroredNumber : (-number).isNaN = false := someNumber
  rw [nextDown_eq_neg, position_neg, position_nextUp mirroredNumber mirrored, position_neg]
  omega

theorem isNaN_nextDown
    {number : Binary format}
    (someNumber : number.isNaN = false) :
    number.nextDown.isNaN = false := by
  rw [nextDown_eq_neg, isNaN_neg]
  exact isNaN_nextUp someNumber

theorem position_le_infinityCode
    {number : Binary format}
    (someNumber : number.isNaN = false) :
    number.position.natAbs ≤ format.infinityCode := by
  rw [natAbs_position]
  exact code_le_infinityCode someNumber

/-- Numbers are finite short of the position of infinity. -/
theorem isFinite_iff_position
    {number : Binary format} :
    number.isFinite = true ↔ number.position.natAbs < format.infinityCode := by
  rw [natAbs_position, isFinite_iff]

theorem isNaN_walk
    (target : Binary format)
    (count : Nat)
    {number : Binary format}
    (someNumber : number.isNaN = false) :
    (walk target count number).isNaN = false := by
  induction count generalizing number with
  | zero => exact someNumber
  | succ count ih =>
      rw [walk]
      split
      · exact someNumber
      · apply ih
        rw [nextToward]
        split
        · exact isNaN_nextUp someNumber
        · exact isNaN_nextDown someNumber

/-- One step towards another number moves by one position towards it. -/
theorem position_nextToward
    {target number : Binary format}
    (targetNumber : target.isNaN = false)
    (someNumber : number.isNaN = false)
    (away : number.equals target = false) :
    (nextToward target number).position =
      positionToward target.position 1 number.position := by
  have targetBound := position_le_infinityCode targetNumber
  have differ : number.position ≠ target.position := by
    rw [Ne, ← equals_iff someNumber targetNumber, away]
    decide
  have direction := below_iff someNumber targetNumber
  rw [nextToward]
  split
  · next upward =>
    rw [direction] at upward
    rw [position_nextUp someNumber (by omega),
      positionToward_of_le (Int.le_of_lt upward)]
    omega
  · next downward =>
    rw [direction] at downward
    rw [position_nextDown someNumber (by omega),
      positionToward_of_ge (by omega)]
    omega

/-- A walk moves the position by its count, and no further than its target. -/
theorem position_walk
    {target : Binary format}
    (targetNumber : target.isNaN = false)
    (count : Nat)
    {number : Binary format}
    (someNumber : number.isNaN = false) :
    (walk target count number).position =
      positionToward target.position count number.position := by
  induction count generalizing number with
  | zero =>
      rw [walk_zero, positionToward]
      split <;> omega
  | succ count ih =>
      rw [walk]
      split
      · next arrived =>
        have same := (equals_iff someNumber targetNumber).mp arrived
        rw [same, positionToward_of_le (Int.le_refl _)]
        omega
      · next away =>
        rw [Bool.not_eq_true] at away
        have nextNumber : (nextToward target number).isNaN = false := by
          simpa [walk, away] using isNaN_walk target 1 someNumber
        rw [ih nextNumber, position_nextToward targetNumber someNumber away,
          positionToward_succ]

end Closeness.Binary
