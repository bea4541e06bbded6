import Closeness.Binary.Rounding

/-!
# Sums, products and margins

Sum and product compute the exact result on integers and round it once.  The
exact sum of two finite numbers is a whole multiple of the least positive
number; the exact product is such a multiple divided by `unitsOfOne`.  Whether
two numbers are within a margin is decided by rounded sums.
-/

namespace Closeness.Binary

variable {format : Format}

/--
The number nearest to a whole number of units.  A zero result takes the given
sign.
-/
def ofUnits (units : Int) (zeroSign : Bool) : Binary format :=
  ofRatio (if units = 0 then zeroSign else units < 0) units.natAbs 1

/--
The rounded sum.  Opposite infinities and NaN operands give NaN; a zero sum is
negative only if both operands are.
-/
def add (left right : Binary format) : Binary format :=
  if left.isNaN || right.isNaN then
    nan false
  else if left.isInfinite then
    if right.isInfinite && left.negative != right.negative then nan false else left
  else if right.isInfinite then
    right
  else
    ofUnits (left.units + right.units) (left.negative && right.negative)

/--
The rounded product.  Zero times infinity and NaN operands give NaN; the sign
is the exclusive or of the signs.
-/
def mul (left right : Binary format) : Binary format :=
  let negative := left.negative != right.negative
  if left.isNaN || right.isNaN then
    nan false
  else if left.isInfinite || right.isInfinite then
    if left.isZero || right.isZero then nan false else infinity negative
  else
    ofRatio negative (left.magnitude * right.magnitude) format.unitsOfOne

instance : Add (Binary format) :=
  ⟨add⟩

instance : Mul (Binary format) :=
  ⟨mul⟩

/--
Within a margin: each number plus the margin is at least the other.  No
difference is formed, so an infinity is within any finite margin of itself.
-/
def withinMargin (left right margin : Binary format) : Bool :=
  right.atMost (left + margin) && left.atMost (right + margin)

/-- The order of the two numbers does not matter. -/
theorem withinMargin_comm
    (left right margin : Binary format) :
    left.withinMargin right margin = right.withinMargin left margin := by
  simp [withinMargin, Bool.and_comm]

end Closeness.Binary
