import Closeness.Decimal.Style
import Closeness.Value.Arithmetic
import Closeness.Value.Conversion

/-!
# Operations on values

The operations of the library on loosely typed values.  Each converts its
operands in a fixed order, so the first one that does not convert determines
the fault, and then answers through the operation on doubles.
-/

namespace Closeness.Value

/-- A value rounded to a width. -/
def narrow (value : Value) (width : Width) : Except Fault Double :=
  value.toDouble.map width.narrow

/-- The bit pattern of a value in a width. -/
def toPattern (value : Value) (width : Width) : Except Fault Int :=
  value.toDouble.map width.toPattern

/-- The double with the pattern that a scalar is truncated to. -/
def scalarOfPattern (scalar : Scalar) (width : Width) : Except Fault Double := do
  let pattern ← scalar.truncate
  match width.ofPattern? pattern with
  | some number => return number
  | none => throw (.patternOutOfRange width pattern)

/--
The double with the pattern that a value gives.  A list gives none, but it is
refused only after its shape and each of its elements have been looked at.
-/
def ofPattern (value : Value) (width : Width) : Except Fault Double :=
  match value with
  | .leaf scalar => scalarOfPattern scalar width
  | .node _ => do
    let _ ← regularShape (.node [value])
    let _ ← value.traverse (scalarOfPattern · width)
    throw .notSingle

/-- The signed number of steps of a width from one value to another. -/
def distance (start stop : Value) (width : Width) : Except Fault Int := do
  let start ← start.toDouble
  let stop ← stop.toDouble
  return width.distance start stop

/-- A count of steps is at most a limit, which has to be a number. -/
def stepsAtMost (steps : Nat) (limit : Value) : Except Fault Bool :=
  match Number.ofValue? limit with
  | some limit => (Number.integer steps).atMost limit
  | none => .error (.incomparable .atMost .integer limit.kind)

/--
Two values are at most a limit of steps of a width apart.  The limit is looked
at only between finite numbers.
-/
def withinUlps (left right limit : Value) (width : Width) : Except Fault Bool := do
  let left ← left.toDouble
  let right ← right.toDouble
  if (width.round left).isFinite && (width.round right).isFinite then
    stepsAtMost (width.distance left right).natAbs limit
  else
    return (width.round left).equals (width.round right)

/-- Refuses counts of steps below zero and values that are not ordered with it. -/
def refuseNegative (count : Value) : Except Fault Unit :=
  match Number.ofValue? count with
  | none => .error (.incomparable .less count.kind .integer)
  | some number =>
    let zero := Number.integer 0
    if number.exactlyAtMost zero && !zero.exactlyAtMost number then do
      let text ← count.display
      throw (.negativeCount text)
    else
      .ok ()

/--
The double reached by a count of steps of a width in a direction.  A negative
count is refused before the other operands are converted; whether the count is
whole matters only between numbers.
-/
def step (start direction count : Value) (width : Width) : Except Fault Double := do
  refuseNegative count
  let start ← start.toDouble
  let direction ← direction.toDouble
  if start.isNaN || direction.isNaN then
    return .nan false
  else
    let count ← count.toInteger
    return width.step start direction count.toNat

/-- The style that a value denotes: a count of places, or what its display says. -/
def toStyle (value : Value) : Except Fault Decimal.Style := do
  let text ← value.display
  let style :=
    match value with
    | .leaf (.integer count) => Decimal.Style.ofCount count
    | _ => Decimal.Style.read text.toList
  style.mapError (.style text)

/-- A value in trimmed fixed notation of a style.  The style does not matter for NaN. -/
def trimmed (value style : Value) : Except Fault String := do
  let number ← value.toDouble
  if number.isNaN then
    return .ofList (number.trimmed 0)
  else
    let style ← style.toStyle
    return .ofList (number.trimmedIn style)

/-- A value in the general form. -/
def general (value : Value) : Except Fault String :=
  value.toDouble.map fun number => .ofList number.general

/-- A value in the scientific text of a width. -/
def scientific (value : Value) (width : Width) : Except Fault String :=
  value.toDouble.map fun number => .ofList (width.scientific number)

end Closeness.Value
