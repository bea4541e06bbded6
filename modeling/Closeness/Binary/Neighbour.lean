import Closeness.Binary.Basic

/-!
# Neighbours and walks

`nextUp` and `nextDown` are the neighbours of a number among the numbers of
its format, infinities included.  Leaving a zero leads to the least number of
the sign of the direction; arriving at zero keeps the sign of the side the
walk comes from.  `walk` takes a given number of such steps towards a target
and rests once it is numerically equal to the target.
-/

namespace Closeness.Binary

variable {format : Format}

/-- The number whose code is one less, or zero. -/
def closerToZero (number : Binary format) : Binary format :=
  ⟨number.negative, number.code - 1, Nat.lt_of_le_of_lt (Nat.sub_le _ _) number.code_lt⟩

/-- The number whose code is one more; infinity stays infinity. -/
def fartherFromZero (number : Binary format) : Binary format :=
  ⟨number.negative, min (number.code + 1) format.infinityCode,
    Nat.lt_of_le_of_lt (Nat.min_le_right _ _) format.infinityCode_lt_codeCount⟩

/-- The least number above a number; positive infinity and NaN are their own. -/
def nextUp (number : Binary format) : Binary format :=
  if number.isNaN then number
  else if number.isZero then least false
  else if number.negative then number.closerToZero
  else number.fartherFromZero

/-- The greatest number below a number; negative infinity and NaN are their own. -/
def nextDown (number : Binary format) : Binary format :=
  if number.isNaN then number
  else if number.isZero then least true
  else if number.negative then number.fartherFromZero
  else number.closerToZero

/-- The neighbour on the side of a target that differs from the number. -/
def nextToward (target number : Binary format) : Binary format :=
  if number.below target then number.nextUp else number.nextDown

/-- The number reached after a count of steps towards a target, or the target earlier. -/
def walk (target : Binary format) : Nat → Binary format → Binary format
  | 0, number => number
  | count + 1, number =>
    if number.equals target then number else walk target count (nextToward target number)

@[simp]
theorem walk_zero
    (target number : Binary format) :
    walk target 0 number = number :=
  rfl

/-- A walk rests at its target. -/
theorem walk_of_equals
    {target number : Binary format}
    (arrived : number.equals target = true)
    (count : Nat) :
    walk target count number = number := by
  cases count <;> simp [walk, arrived]

end Closeness.Binary
