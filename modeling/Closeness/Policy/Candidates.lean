import Closeness.Policy.Basic
import Closeness.Value.Conversion
import Closeness.Value.Shape

/-!
# Candidates

A policy is put to one value, to a list of values one after the other, or to a
nest of values as a whole.  A nest has to be regular, and all its elements are
converted before any of them is compared, so a fault leaves no records.  In a
nest, nothing counts as NaN.
-/

namespace Closeness

/-- The answers for a nest of values, with its shape. -/
structure Mask where
  /-- The lengths of the lists, level by level. -/
  shape : List Nat
  /-- The answers, nested like the values. -/
  answers : Nest Bool

/-- How many values a policy accepts and how many not. -/
structure Tally where
  /-- The number of values accepted. -/
  matched : Nat
  /-- The number of values not accepted. -/
  mismatched : Nat
  /-- The number of values. -/
  total : Nat
deriving DecidableEq

namespace Tally

/-- The tally of a list of answers.  What is not accepted is what remains of all answers. -/
def ofAnswers (answers : List Bool) : Tally :=
  let matched := answers.count true
  { matched, mismatched := answers.length - matched, total := answers.length }

end Tally

/-- The levels of nesting on which elements can be visited. -/
def visitLimit : Nat :=
  32

namespace Value

/-- The double that an element of a nest converts to. -/
def elementToDouble : Scalar → Except Fault Double
  | .nothing => .ok (.nan false)
  | scalar => scalar.toDouble

/-- The shape of a regular nest of values, and its elements as doubles. -/
def toDoubles (values : Value) : Except Fault (List Nat × Nest Double) := do
  let shape ← values.regularShape
  let numbers ← values.traverse elementToDouble
  if visitLimit < shape.length then
    throw (.tooManyLevels visitLimit shape.length)
  else
    return (shape, numbers)

end Value

namespace Policy

/-- The answer for a number, with its records. -/
def verdict (policy : Policy) (candidate : Double) : Logged Bool :=
  ⟨policy.records candidate, .ok (policy.accepts candidate)⟩

/-- The answer for a value. -/
def acceptsValue (policy : Policy) (candidate : Value) : Logged Bool := do
  let number ← candidate.toDouble
  policy.verdict number

/-- A value that converts is answered, and recorded, like the number it converts to. -/
theorem acceptsValue_eq_verdict
    (policy : Policy)
    {candidate : Value}
    {number : Double}
    (converts : candidate.toDouble = .ok number) :
    policy.acceptsValue candidate = policy.verdict number := by
  rw [acceptsValue, converts]
  rfl

/-- A value is answered like the number it converts to, or it does not convert. -/
theorem outcome_acceptsValue
    (policy : Policy)
    (candidate : Value) :
    (policy.acceptsValue candidate).outcome = candidate.toDouble.map policy.accepts := by
  rw [acceptsValue]
  cases candidate.toDouble with
  | ok number => rfl
  | error fault => rfl

theorem outcome_acceptsValue_double
    (policy : Policy)
    (candidate : Double) :
    (policy.acceptsValue (.leaf (.double candidate))).outcome = .ok (policy.accepts candidate) :=
  rfl

theorem outcome_acceptsValue_eq_ok_iff
    {policy : Policy}
    {candidate : Value}
    {answer : Bool} :
    (policy.acceptsValue candidate).outcome = .ok answer ↔
      ∃ number, candidate.toDouble = .ok number ∧ policy.accepts number = answer := by
  rw [outcome_acceptsValue]
  cases candidate.toDouble with
  | ok number => simp [Except.map]
  | error fault => simp [Except.map]

/-- The answers for several values, up to the first that does not convert. -/
def acceptsEach (policy : Policy) : List Value → Logged (List Bool)
  | [] => pure []
  | candidate :: rest => do
    let answer ← policy.acceptsValue candidate
    let answers ← policy.acceptsEach rest
    return answer :: answers

/-- The answers for a nest of values. -/
def acceptsNest (policy : Policy) (values : Value) : Logged Mask := do
  let (shape, numbers) ← values.toDoubles
  ⟨numbers.elements.flatMap policy.records, .ok ⟨shape, numbers.map policy.accepts⟩⟩

/-- How many values of a nest are accepted. -/
def tally (policy : Policy) (values : Value) : Logged Tally := do
  let mask ← policy.acceptsNest values
  return Tally.ofAnswers mask.answers.elements

/-- The margin that a relative policy uses for a value. -/
def effectiveMargin (policy : Policy) (candidate : Value) : Logged Double :=
  match policy.tolerance with
  | .epsilon epsilon => do
    let number ← candidate.toDouble
    ⟨policy.records number, .ok (Tolerance.effectiveMargin epsilon policy.target number)⟩
  | tolerance => .ofExcept (.error (.unanswerable tolerance.form "effective_margin"))

theorem effectiveMargin_of_converts
    {policy : Policy}
    {epsilon : Double}
    (relative : policy.tolerance = .epsilon epsilon)
    {candidate : Value}
    {number : Double}
    (converts : candidate.toDouble = .ok number) :
    policy.effectiveMargin candidate =
      ⟨Tolerance.overflowRecords epsilon policy.target number,
        .ok (Tolerance.effectiveMargin epsilon policy.target number)⟩ := by
  simp only [effectiveMargin, records, relative, converts]
  rfl

end Policy

end Closeness
