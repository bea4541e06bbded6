import Closeness.Fault
import Closeness.Nest.Shape

/-!
# Shapes of values

A nest of values that is taken element by element has to be regular, and its
levels are limited.
-/

namespace Closeness

/-- The levels of nesting that are entered. -/
def levelLimit : Nat :=
  64

namespace Value

/-- The shape of a regular nest of values. -/
def regularShape (values : Value) : Except Fault (List Nat) :=
  let shape := values.commonShape levelLimit
  if values.hasShape shape then .ok shape
  else if shape.length = levelLimit then .error (.tooDeep levelLimit)
  else .error (.irregular shape)

/-- Single values are regular. -/
@[simp]
theorem regularShape_leaf
    (scalar : Scalar) :
    regularShape (.leaf scalar) = .ok [] :=
  rfl

end Value

end Closeness
