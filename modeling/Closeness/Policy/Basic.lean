import Closeness.Logged

/-!
# Policies

A policy is a target with a tolerance: a margin, a relative tolerance
(epsilon), or a count of representable steps of a width.  `accepts` decides
whether a candidate is close enough to the target.

The margin of a relative policy is epsilon times the greater magnitude of
candidate and target.  When that product overflows, the two are compared
exactly, and a record says so.
-/

namespace Closeness

/-- How far from its target a policy accepts candidates. -/
inductive Tolerance where
  /-- Within an absolute margin. -/
  | margin (margin : Double)
  /-- Within a fraction of the greater magnitude. -/
  | epsilon (epsilon : Double)
  /-- Within a count of representable steps of a width. -/
  | ulps (count : Nat) (width : Width)
deriving DecidableEq

/-- A target and a tolerance. -/
structure Policy where
  /-- The value that candidates are compared with. -/
  target : Double
  /-- How far from it candidates may be. -/
  tolerance : Tolerance
deriving DecidableEq

namespace Tolerance

/-- The form of policies with a tolerance. -/
def form : Tolerance → Form
  | margin _ => .absolute
  | epsilon _ => .relative
  | ulps _ _ => .ulps

/-- Epsilon times the greater magnitude of candidate and target, as computed. -/
def relativeMargin (epsilon target candidate : Double) : Double :=
  epsilon * candidate.abs.greater target.abs

/-- The margin in use: the relative margin, or zero when it overflows. -/
def effectiveMargin (epsilon target candidate : Double) : Double :=
  let margin := relativeMargin epsilon target candidate
  if margin.isInfinite then .zero false else margin

/-- A record of an overflow, if the relative margin overflows. -/
def overflowRecords (epsilon target candidate : Double) : List Record :=
  if (relativeMargin epsilon target candidate).isInfinite then
    [.overflowed candidate target]
  else
    []

/-- Equality of tolerances, with numbers compared numerically. -/
def equals : Tolerance → Tolerance → Bool
  | margin left, margin right => left.equals right
  | epsilon left, epsilon right => left.equals right
  | ulps left leftWidth, ulps right rightWidth => left == right && leftWidth == rightWidth
  | _, _ => false

end Tolerance

namespace Policy

/-- The form of a policy. -/
def form (policy : Policy) : Form :=
  policy.tolerance.form

/-- The candidate is close enough to the target. -/
def accepts (policy : Policy) (candidate : Double) : Bool :=
  match policy.tolerance with
  | .margin margin => candidate.withinMargin policy.target margin
  | .epsilon epsilon =>
    candidate.withinMargin policy.target
      (Tolerance.effectiveMargin epsilon policy.target candidate)
  | .ulps count width => width.withinUlps count candidate policy.target

/-- What is recorded while a candidate is compared. -/
def records (policy : Policy) (candidate : Double) : List Record :=
  match policy.tolerance with
  | .epsilon epsilon => Tolerance.overflowRecords epsilon policy.target candidate
  | _ => []

/-- Equality of policies: one form, and fields that are numerically equal. -/
def equals (left right : Policy) : Bool :=
  left.target.equals right.target && left.tolerance.equals right.tolerance

end Policy

end Closeness
