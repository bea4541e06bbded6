import Closeness.Decimal.Shortest
import Closeness.Fault

/-!
# Outcomes with records

An operation on policies either has a result or a fault, and leaves records
either way: one for each refusal of parameters, and one for each relative
margin that overflows.  Operations follow one another until the first fault;
the records of all that ran are kept in order.
-/

namespace Closeness

/-- What happens beside an answer. -/
inductive Record where
  /-- Parameters of a policy were refused. -/
  | rejected (reason : Rejection)
  /-- The margin of a relative policy overflowed. -/
  | overflowed (candidate target : Double)
deriving DecidableEq

namespace Record

/-- The wording of a record. -/
def message : Record → String
  | rejected reason => "Rejected comparison parameters: " ++ reason.message
  | overflowed candidate target =>
    "Relative margin overflowed for " ++ .ofList candidate.shortest ++ " vs " ++
      .ofList target.shortest ++ "; comparing exactly"

end Record

/-- The records that an operation leaves, and its result or fault. -/
structure Logged (α : Type) where
  /-- What was recorded, in order. -/
  records : List Record
  /-- The result, or why there is none. -/
  outcome : Except Fault α

namespace Logged

variable {α β : Type}

/-- A result or fault without records. -/
def ofExcept (outcome : Except Fault α) : Logged α :=
  ⟨[], outcome⟩

/-- A second operation on the result of a first. -/
def andThen (first : Logged α) (second : α → Logged β) : Logged β :=
  match first.outcome with
  | .error fault => ⟨first.records, .error fault⟩
  | .ok value => ⟨first.records ++ (second value).records, (second value).outcome⟩

instance : Monad Logged where
  pure value := ofExcept (.ok value)
  bind := andThen

instance : MonadLift (Except Fault) Logged where
  monadLift := ofExcept

@[simp]
theorem records_pure
    (value : α) :
    (pure value : Logged α).records = [] :=
  rfl

@[simp]
theorem outcome_pure
    (value : α) :
    (pure value : Logged α).outcome = .ok value :=
  rfl

/-- After a fault nothing else runs. -/
theorem bind_of_error
    {first : Logged α}
    {fault : Fault}
    (failed : first.outcome = .error fault)
    (second : α → Logged β) :
    (first >>= second) = ⟨first.records, .error fault⟩ := by
  show andThen first second = _
  simp [andThen, failed]

/-- After a result the second operation adds its records. -/
theorem bind_of_ok
    {first : Logged α}
    {value : α}
    (succeeded : first.outcome = .ok value)
    (second : α → Logged β) :
    (first >>= second) = ⟨first.records ++ (second value).records, (second value).outcome⟩ := by
  show andThen first second = _
  simp [andThen, succeeded]

end Logged

end Closeness
