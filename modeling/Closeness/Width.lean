import Closeness.Binary.Arithmetic
import Closeness.Binary.Conversion
import Closeness.Binary.Distance
import Closeness.Binary.Neighbour
import Closeness.Binary.Pattern
import Closeness.Decimal.Scientific

/-!
# Widths

Callers hold doubles and name a width in which to compare them.  A width
rounds a double to its format and widens it back; `narrow` does both.  The
operations below answer questions about doubles through the format of a
width: patterns, distances in units in the last place, walks, and texts.

The scientific text of a width has as many significant digits as tell all its
numbers apart.  Texts of the single width end in `f`, those of NaN and the
infinities included.
-/

namespace Closeness

/-- The width in which numbers are compared. -/
inductive Width where
  | single
  | double
deriving DecidableEq, Inhabited

namespace Width

/-- The layout of a width. -/
def format : Width → Format
  | single => .binary32
  | double => .binary64

/-- Number of bits of a pattern. -/
def bits (width : Width) : Nat :=
  width.format.bits

/-- Significant decimal digits that tell all numbers of a width apart. -/
def roundTripDigits : Width → Nat
  | single => 9
  | double => 17

/-- The largest count of steps a tolerance may have: the largest unsigned integer of the width. -/
def ulpsLimit (width : Width) : Nat :=
  Nat.pow 2 width.bits - 1

/-- The number of a width nearest to a double. -/
def round : (width : Width) → Double → Binary width.format
  | single, number => number.convert .binary32
  | double, number => number

/-- The double equal to a number of a width. -/
def widen : (width : Width) → Binary width.format → Double
  | single, number => Binary.convert .binary64 number
  | double, number => number

/-- A double rounded to a width. -/
def narrow (width : Width) (number : Double) : Double :=
  width.widen (width.round number)

/-- The least positive number of a width. -/
def least (width : Width) : Double :=
  width.widen (.least false)

/-- The gap between one and the next number of a width. -/
def epsilon (width : Width) : Double :=
  width.widen (.ofRatio false width.format.unitsOfOne width.format.hidden)

/-- The bit pattern of a double in a width. -/
def toPattern (width : Width) (number : Double) : Int :=
  (width.round number).toPattern

/-- The double with a given pattern in a width, if the integer fits. -/
def ofPattern? (width : Width) (pattern : Int) : Option Double :=
  (Binary.ofPattern? pattern).map width.widen

/-- The signed number of steps of a width from one double to another. -/
def distance (width : Width) (start stop : Double) : Int :=
  (width.round start).distance (width.round stop)

/-- At most a given number of steps of a width apart. -/
def withinUlps (width : Width) (limit : Nat) (left right : Double) : Bool :=
  (width.round left).withinUlps limit (width.round right)

/-- The double reached by a count of steps of a width from a start in a direction. -/
def step (width : Width) (start direction : Double) (count : Nat) : Double :=
  let start := width.round start
  let direction := width.round direction
  if start.isNaN || direction.isNaN then
    .nan false
  else
    width.widen (direction.walk count start)

/-- What texts of a width end in. -/
def mark : Width → List Char
  | single => ['f']
  | double => []

/-- The scientific text of a double in a width. -/
def scientific (width : Width) (number : Double) : List Char :=
  (width.narrow number).scientific width.roundTripDigits ++ width.mark

@[simp]
theorem narrow_double
    (number : Double) :
    double.narrow number = number :=
  rfl

/-- Rounding to a width keeps NaN apart from numbers. -/
@[simp]
theorem isNaN_round
    (width : Width)
    (number : Double) :
    (width.round number).isNaN = number.isNaN := by
  cases width
  · exact Binary.isNaN_convert ..
  · rfl

@[simp]
theorem isNaN_narrow
    (width : Width)
    (number : Double) :
    (width.narrow number).isNaN = number.isNaN := by
  cases width
  · exact (Binary.isNaN_convert ..).trans (Binary.isNaN_convert ..)
  · rfl

end Width

end Closeness
