import Closeness.Value.Conversion

/-!
# Mixed arithmetic

Sums and comparisons of integers and binary numbers as they are.  Two integers
add exactly, and an integer next to a double is converted first.  Comparisons
never round: an integer is compared with the exact value of a double.

Some numbers keep a width: a single is one, and so is a number of a list that
is taken element by element.  Numbers next to one that keeps a width are
rounded to it first, the wider of two such widths being the one that counts.
-/

namespace Closeness

/-- An integer or a double. -/
inductive Number where
  | integer (value : Int)
  /-- A double, with the width that it keeps if it does not adapt to its neighbour. -/
  | real (kept : Option Width) (number : Double)
deriving DecidableEq

namespace Number

/-- The kind of a number. -/
def kind : Number → Kind
  | integer _ => .integer
  | real _ _ => .double

/-- The width that a number keeps. -/
def kept : Number → Option Width
  | integer _ => none
  | real width _ => width

/-- A single as a number that keeps its width. -/
def ofSingle (number : Single) : Number :=
  real (some .single) (number.convert .binary64)

/-- The number that a scalar is, truth values as integers; texts are not read. -/
def ofScalar? : Scalar → Option Number
  | .double number => some (real none number)
  | .single number => some (ofSingle number)
  | .integer value => some (integer value)
  | .boolean value => some (integer (if value then 1 else 0))
  | _ => none

/-- The number that a value is. -/
def ofValue? : Value → Option Number
  | .leaf scalar => ofScalar? scalar
  | .node _ => none

/-- The double nearest to a number. -/
def toDouble : Number → Except Fault Double
  | integer value => Scalar.integerToDouble value
  | real _ number => .ok number

/-- The wider of the widths that two numbers keep. -/
def commonWidth (left right : Number) : Option Width :=
  match left.kept, right.kept with
  | some .double, _ => some .double
  | _, some .double => some .double
  | some .single, _ => some .single
  | _, some .single => some .single
  | none, none => none

/-- A number rounded to a width, which it then keeps. -/
def roundTo (number : Number) (width : Width) : Except Fault Number :=
  number.toDouble.map fun value => real (some width) (width.narrow value)

/-- Two numbers, both rounded to the width that one of them keeps. -/
def align (left right : Number) : Except Fault (Number × Number) :=
  match commonWidth left right with
  | none => .ok (left, right)
  | some width => do
    let left ← left.roundTo width
    let right ← right.roundTo width
    return (left, right)

/--
The sum, exact between integers and rounded otherwise.  The double nearest to
the sum of two singles is close enough to be rounded once more.
-/
def add (left right : Number) : Except Fault Number := do
  match ← align left right with
  | (integer left, integer right) => return integer (left + right)
  | (left, right) =>
    let sum := (← left.toDouble) + (← right.toDouble)
    match commonWidth left right with
    | none => return real none sum
    | some width => return real (some width) (width.narrow sum)

/-- Exact `≤` between an integer and a double, false on NaN. -/
def integerAtMost (value : Int) (number : Double) : Bool :=
  if number.isFinite then value * Format.binary64.unitsOfOne ≤ number.units
  else number.isInfinite && !number.negative

/-- Exact `≥` between an integer and a double, false on NaN. -/
def integerAtLeast (value : Int) (number : Double) : Bool :=
  if number.isFinite then number.units ≤ value * Format.binary64.unitsOfOne
  else number.isInfinite && number.negative

/-- Exact `≤`, false on NaN. -/
def exactlyAtMost : Number → Number → Bool
  | integer left, integer right => left ≤ right
  | integer left, real _ right => integerAtMost left right
  | real _ left, integer right => integerAtLeast right left
  | real _ left, real _ right => left.atMost right

/-- The order of two numbers in the width that one of them keeps, false on NaN. -/
def atMost (left right : Number) : Except Fault Bool :=
  (align left right).map fun (left, right) => left.exactlyAtMost right

/-- Two numbers are each at most the other. -/
def equals (left right : Number) : Except Fault Bool :=
  (align left right).map fun (left, right) =>
    left.exactlyAtMost right && right.exactlyAtMost left

end Number

end Closeness
