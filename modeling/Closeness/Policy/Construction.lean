import Closeness.Policy.Basic
import Closeness.Value.Conversion

/-!
# Construction of policies

Parameters are converted one after the other, then checked; refused
parameters leave a record and no policy.  The message about a count of steps
shows the count, so one too long to be written fails without being refused.

The plain constructors take parameters as they are.  `nearRelative` and
`nearUlps` settle the width first, and `nearRelative` rounds target and epsilon
to it before the check.
-/

namespace Closeness

namespace Tolerance

/-- A margin that is neither negative nor NaN. -/
def ofMargin (margin : Double) : Except Fault Tolerance :=
  if (Binary.zero false).atMost margin then .ok (.margin margin)
  else .error (.rejected (.negativeMargin margin))

/-- A fraction from zero up to one, one excluded. -/
def ofEpsilon (epsilon : Double) : Except Fault Tolerance :=
  if !(Binary.zero false).atMost epsilon then .error (.rejected .negativeEpsilon)
  else if !epsilon.below (.ofInt 1) then .error (.rejected .epsilonTooLarge)
  else .ok (.epsilon epsilon)

/-- The largest count of steps of any width. -/
def ulpsMaximum : Nat :=
  Nat.pow 2 64 - 1

/-- No tolerance, since a count of steps is out of range; the count is shown. -/
def refuseUlps (count : Int) : Except Fault Tolerance := do
  let text ← Scalar.integerToText count
  throw (.rejected (.ulpsOutOfRange text))

/-- A refusal gives no tolerance, whether or not the count can be shown. -/
theorem exists_refuseUlps_eq_error
    (count : Int) :
    ∃ fault, refuseUlps count = .error fault := by
  rw [refuseUlps]
  cases Scalar.integerToText count with
  | error fault => exact ⟨fault, rfl⟩
  | ok text => exact ⟨_, rfl⟩

/-- A count of steps that fits 64 bits and the width. -/
def ofUlps (count : Int) (width : Width) : Except Fault Tolerance :=
  if count < 0 ∨ ulpsMaximum < count then refuseUlps count
  else if width.ulpsLimit < count then .error (.rejected .ulpsTooLarge)
  else .ok (.ulps count.toNat width)

/-- The conditions that the constructors check. -/
def Valid : Tolerance → Prop
  | margin bound => (Binary.zero false).atMost bound = true
  | epsilon fraction =>
    (Binary.zero false).atMost fraction = true ∧ fraction.below (.ofInt 1) = true
  | ulps count width => count ≤ width.ulpsLimit

instance (tolerance : Tolerance) : Decidable tolerance.Valid := by
  cases tolerance <;> unfold Valid <;> infer_instance

end Tolerance

namespace Policy

/-- A policy whose tolerance was checked; a rejection is recorded, and no other fault. -/
def checked (target : Double) : Except Fault Tolerance → Logged Policy
  | .ok tolerance => pure ⟨target, tolerance⟩
  | .error (.rejected reason) => ⟨[.rejected reason], .error (.rejected reason)⟩
  | .error fault => .ofExcept (.error fault)

/-- The outcome is that of the check, recorded or not. -/
theorem outcome_checked
    (target : Double)
    (check : Except Fault Tolerance) :
    (checked target check).outcome = check.map (⟨target, ·⟩) := by
  cases check with
  | ok tolerance => rfl
  | error fault => cases fault <;> rfl

/-- Candidates within a margin of the target. -/
def absolute (target margin : Value) : Logged Policy := do
  let target ← target.toDouble
  let margin ← margin.toDouble
  checked target (Tolerance.ofMargin margin)

/-- Candidates within a fraction of the greater magnitude. -/
def relative (target epsilon : Value) : Logged Policy := do
  let target ← target.toDouble
  let epsilon ← epsilon.toDouble
  checked target (Tolerance.ofEpsilon epsilon)

/-- Candidates at most a count of steps of a width from the target. -/
def ulps (target count : Value) (width : WidthChoice) : Logged Policy := do
  let target ← target.toDouble
  let width ← width.resolve
  let count ← count.toInteger
  checked target (Tolerance.ofUlps count width)

/-- The relative tolerance of a width in which none is given: a hundred times its epsilon. -/
def defaultEpsilon (width : Width) : Double :=
  width.epsilon * .ofInt 100

/-- The relative tolerance that a value gives; nothing selects that of the width. -/
def epsilonOrDefault (epsilon : Value) (width : Width) : Except Fault Double :=
  match epsilon with
  | .leaf .nothing => .ok (defaultEpsilon width)
  | epsilon => epsilon.toDouble

/--
Candidates within a fraction of the greater magnitude, target and fraction
rounded to a width.
-/
def nearRelative (target epsilon : Value) (width : WidthChoice) : Logged Policy := do
  let width ← width.resolve
  let target ← target.toDouble
  let epsilon ← epsilonOrDefault epsilon width
  checked (width.narrow target) (Tolerance.ofEpsilon (width.narrow epsilon))

/-- Candidates at most a count of steps from the target; the width is settled first. -/
def nearUlps (target count : Value) (width : WidthChoice) : Logged Policy := do
  let width ← width.resolve
  ulps target count (.given width)

end Policy

end Closeness
