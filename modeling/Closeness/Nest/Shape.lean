import Closeness.Nest.Basic

/-!
# Shapes of nests

A shape lists the lengths of the lists of a nest, level by level.  A nest is
regular when all its lists of one level have one length and all its elements
lie at one depth.  Of an irregular nest, the leading levels on which all
branches agree still have a common shape.  Levels beyond a given number are
not entered.
-/

namespace Closeness.Nest

variable {α β : Type}

/-- The longest list with which two lists both start. -/
def commonStart : List Nat → List Nat → List Nat
  | first :: rest, first' :: rest' => if first = first' then first :: commonStart rest rest' else []
  | _, _ => []

/--
The lengths on which all branches agree, of at most a given number of levels.
An empty list has the length `0` and nothing below it.
-/
def commonShape : (levels : Nat) → Nest α → List Nat
  | _, leaf _ => []
  | 0, node _ => []
  | levels + 1, node branches => branches.length :: all levels branches
where
  /-- The lengths on which several nests agree. -/
  all : (levels : Nat) → List (Nest α) → List Nat
    | _, [] => []
    | levels, [last] => commonShape levels last
    | levels, branch :: rest => commonStart (commonShape levels branch) (all levels rest)

/-- All lists have the lengths of a shape, and the elements lie below its last level. -/
def hasShape : List Nat → Nest α → Bool
  | [], leaf _ => true
  | [], node _ => false
  | _ :: _, leaf _ => false
  | length :: rest, node branches => branches.length == length && all rest branches
where
  /-- Several nests all have a shape. -/
  all : List Nat → List (Nest α) → Bool
    | _, [] => true
    | shape, branch :: rest => branch.hasShape shape && all shape rest

/-- An empty list has no levels below it. -/
example : hasShape [2, 0] (node [node [], node []] : Nest Nat) = true := by decide

/-- Branches of different lengths agree on their number only. -/
example : commonShape 64 (node [node [leaf 1], node [leaf 1, leaf 2]] : Nest Nat) = [2] := by
  decide

end Closeness.Nest
