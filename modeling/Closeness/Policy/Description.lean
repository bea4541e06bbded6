import Closeness.Decimal.Fixed
import Closeness.Policy.Basic

/-!
# Descriptions of policies

`describe` says in words what a policy accepts, and `literal` writes its
fields.  The description of a policy on steps shows the least and the greatest
number that are reached by its count of steps from the target.
-/

namespace Closeness

/-- Places after the point in descriptions. -/
def descriptionPlaces : Nat :=
  17

namespace Width

/-- The name of a width. -/
def name : Width → String
  | single => "SINGLE"
  | double => "DOUBLE"

/-- The name of the number type of a width. -/
def typeName : Width → String
  | single => "float32"
  | double => "float64"

/-- The literal form of a width. -/
def literal (width : Width) : String :=
  "<FloatWidth." ++ width.name ++ ": <class 'numpy." ++ width.typeName ++ "'>>"

/-- The numbers reached by a count of steps downwards and upwards. -/
def bounds (width : Width) (target : Double) (count : Nat) : Double × Double :=
  (width.step target (.infinity true) count, width.step target (.infinity false) count)

end Width

namespace Policy

/-- The numbers that bound what a policy on steps accepts. -/
def bounds? (policy : Policy) : Option (Double × Double) :=
  match policy.tolerance with
  | .ulps count width => some (width.bounds policy.target count)
  | _ => none

/-- What a policy accepts, in words. -/
def describe (policy : Policy) : String :=
  match policy.tolerance with
  | .margin margin =>
    "is within " ++ .ofList (margin.trimmed descriptionPlaces) ++ " of " ++
      .ofList (policy.target.trimmed descriptionPlaces)
  | .epsilon epsilon =>
    "and " ++ .ofList policy.target.general ++ " are within " ++
      .ofList (epsilon * .ofInt 100).general ++ "% of each other"
  | .ulps count width =>
    let (lower, upper) := width.bounds policy.target count
    "is within " ++ toString count ++ " ULPs of " ++
      .ofList (width.scientific policy.target) ++ " ([" ++
      .ofList (width.scientific lower) ++ ", " ++ .ofList (width.scientific upper) ++ "])"

/-- The fields of a policy with their names. -/
def fieldTexts (policy : Policy) : List String :=
  ("target=" ++ .ofList policy.target.shortest) ::
    match policy.tolerance with
    | .margin margin => ["margin=" ++ .ofList margin.shortest]
    | .epsilon epsilon => ["epsilon=" ++ .ofList epsilon.shortest]
    | .ulps count width => ["ulps=" ++ toString count, "width=" ++ width.literal]

/-- The literal form of a policy. -/
def literal (policy : Policy) : String :=
  policy.form.name ++ "(" ++ ", ".intercalate policy.fieldTexts ++ ")"

end Policy

end Closeness
