import Closeness.Binary.Arithmetic
import Closeness.Value.Number
import Closeness.Value.Shape

/-!
# Sums and order of values

Numbers add and compare as numbers, texts and lists as sequences: their sum is
the one followed by the other, and the first difference decides their order.
Next to a number that keeps its width, a list is taken element by element, so
it has to have exactly one element for a comparison to have one answer.
-/

namespace Closeness.Value

/-- What two values add to. -/
inductive Sum where
  | number (number : Number)
  /-- A text or a list. -/
  | sequence (value : Value)

/-- The width that an element keeps in a list that is taken element by element. -/
def elementWidth : Scalar → Width
  | .boolean _ => .single
  | .single _ => .single
  | _ => .double

/-- The only element of a list as a number that keeps a width; others are refused. -/
def soleNumber (list : Value) (refusal : Value → Fault) : Except Fault Number := do
  let _ ← list.regularShape
  match list.elements with
  | [element] =>
    match Number.ofScalar? element with
    | some number => number.roundTo (elementWidth element)
    | none => throw (refusal (.leaf element))
  | elements => throw (.notOneAnswer elements.length)

/-- Why two values have no sum. -/
def sumRefusal (left right : Value) : Fault :=
  match left, right with
  | .node _, _ => .notJoinable .list right.kind
  | .leaf (.text _), _ => .notJoinable .text right.kind
  | .leaf (.single _), .leaf (.text content) => .singleAndText content.length
  | _, _ => .notAddable left.kind.computed right.kind.computed

/-- The sum of two values. -/
def add (left right : Value) : Except Fault Sum :=
  match left, right with
  | .leaf (.text first), .leaf (.text second) => .ok (.sequence (.leaf (.text (first ++ second))))
  | .node first, .node second => .ok (.sequence (.node (first ++ second)))
  | .leaf (.single number), .node _ => do
    let element ← right.soleNumber (sumRefusal left)
    Sum.number <$> (Number.ofSingle number).add element
  | .node _, .leaf (.single number) => do
    let element ← left.soleNumber (sumRefusal · right)
    Sum.number <$> element.add (Number.ofSingle number)
  | _, _ =>
    match Number.ofValue? left, Number.ofValue? right with
    | some left, some right => Sum.number <$> left.add right
    | _, _ => .error (sumRefusal left right)

/-- Why a value that is no number has no order with another one.  A single is asked instead. -/
def orderRefusal (left right : Value) : Fault :=
  match left, right with
  | .leaf (.text _), .leaf (.single _) => .singleBesideText .atMost
  | _, .leaf (.single _) => .incomparable .atMost .double left.kind
  | _, _ => .incomparable .atLeast left.kind right.kind

/-- A number of a kind is at least a value. -/
def numberAtLeast (left : Number) (kind : Kind) (right : Value) : Except Fault Bool :=
  match Number.ofValue? right, left.kept, right with
  | some right, _, _ => right.atMost left
  | none, some _, .node _ => do
    let element ← right.soleNumber fun element => .incomparable .atLeast kind element.kind
    element.atMost left
  | none, some _, .leaf (.text _) => .error (.singleBesideText .atLeast)
  | none, _, _ => .error (.incomparable .atLeast kind right.kind)

/-- Two values are equal. -/
def equals : Value → Value → Except Fault Bool
  | .node left, .node right => if left.length = right.length then all left right else .ok false
  | .leaf left, .leaf right =>
    match Number.ofScalar? left, Number.ofScalar? right with
    | some left, some right => left.equals right
    | _, _ => .ok (left = right)
  | _, _ => .ok false
where
  /-- Values are equal one by one, as far as there are two of them. -/
  all : List Value → List Value → Except Fault Bool
    | left :: leftRest, right :: rightRest => do
      if ← equals left right then all leftRest rightRest else return false
    | _, _ => .ok true

/-- A value is at least another one. -/
def atLeast : Value → Value → Except Fault Bool
  | .node left, .node right => all left right
  | .node left, .leaf (.single number) => do
    let right := Number.ofSingle number
    let element ← soleNumber (.node left) fun element =>
      .incomparable .atMost .double element.kind
    right.atMost element
  | .leaf (.text left), .leaf (.text right) => .ok (right ≤ left)
  | .leaf left, right =>
    match Number.ofScalar? left with
    | some number => numberAtLeast number left.kind.computed right
    | none => .error (orderRefusal (.leaf left) right)
  | .node left, right => .error (orderRefusal (.node left) right)
where
  /-- The first difference decides, or else the length. -/
  all : List Value → List Value → Except Fault Bool
    | [], right => .ok right.isEmpty
    | _ :: _, [] => .ok true
    | left :: leftRest, right :: rightRest => do
      if ← left.equals right then all leftRest rightRest else atLeast left right

namespace Sum

/-- A sum is at least a value. -/
def atLeast : Sum → Value → Except Fault Bool
  | number left, right => numberAtLeast left left.kind right
  | sequence left, right => left.atLeast right

end Sum

/--
Each of two values is at least the other less a margin.  The second sum is
formed only if the first comparison holds.
-/
def withinMargin (left right margin : Value) : Except Fault Bool := do
  let leftSum ← left.add margin
  if ← leftSum.atLeast right then
    let rightSum ← right.add margin
    rightSum.atLeast left
  else
    return false

/-- Between doubles, the margin is the one of binary numbers. -/
theorem withinMargin_double
    (left right margin : Double) :
    withinMargin (.leaf (.double left)) (.leaf (.double right)) (.leaf (.double margin)) =
      .ok (left.withinMargin right margin) := by
  have step : withinMargin (.leaf (.double left)) (.leaf (.double right))
      (.leaf (.double margin)) =
      if right.atMost (left + margin) then .ok (left.atMost (right + margin)) else .ok false :=
    rfl
  rw [step, Binary.withinMargin]
  cases right.atMost (left + margin) <;> rfl

end Closeness.Value
