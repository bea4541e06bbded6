import Closeness.Proofs.Alike
import Closeness.Proofs.NestCandidates

/-!
# Answers for lists

A policy that is put to a list of scalars answers it like its scalars, each
alone: it fails exactly if it fails on one of them, and otherwise gives the list
of its answers.  This holds of all scalars but nothing.  Alone, nothing does not
convert and is a fault; in a list it counts as NaN, which no policy accepts.
-/

namespace Closeness

namespace Nest

variable {α β : Type}

/-- A list of elements. -/
def list (elements : List α) : Nest α :=
  .node (elements.map .leaf)

theorem elements_list
    (elements : List α) :
    (list elements).elements = elements := by
  rw [list, Nest.elements, elements_all, List.flatMap_map]
  exact List.flatMap_singleton' elements

theorem map_list
    (f : α → β)
    (elements : List α) :
    (list elements).map f = list (elements.map f) := by
  rw [list, list, map, map_all, List.map_map, List.map_map]
  rfl

/-- A list of elements is regular, also if it is empty. -/
theorem regular_list
    (elements : List α) :
    Regular [elements.length] (list elements) := by
  rcases eq_or_ne elements [] with rfl | inhabited
  · exact .empty
  · rw [← List.length_map (f := leaf)]
    refine .node (by simpa using inhabited) fun branch member => ?_
    obtain ⟨element, -, rfl⟩ := List.mem_map.mp member
    exact .leaf element

end Nest

namespace Value

open Nest

/-- An element that converts in a nest converts to the number of its scalar, which is NaN for nothing. -/
theorem elementToDouble_eq_number
    {scalar : Scalar}
    (converts : ∃ number, elementToDouble scalar = .ok number) :
    elementToDouble scalar = .ok scalar.number := by
  by_cases noValue : scalar = .nothing
  · rw [noValue]
    rfl
  · rw [elementToDouble_of_ne_nothing noValue] at converts ⊢
    exact Scalar.toDouble_eq_number converts

/-- A list is converted scalar by scalar, or has the fault of one of them. -/
theorem toDoubles_list_cases
    (scalars : List Scalar) :
    (toDoubles (.list scalars) = .ok ([scalars.length], map Scalar.number (.list scalars)) ∧
        ∀ scalar ∈ scalars, ∃ number, elementToDouble scalar = .ok number) ∨
      ∃ fault,
        toDoubles (.list scalars) = .error fault ∧
          ∃ scalar ∈ scalars, elementToDouble scalar = .error fault := by
  have shaped : regularShape (.list scalars) = .ok [scalars.length] :=
    regularShape_eq_ok_iff.mpr ⟨regular_list scalars, Nat.le_of_ble_eq_true rfl⟩
  rw [toDoubles, shaped]
  rcases Nest.traverse_cases elementToDouble (list scalars) with
    ⟨numbers, -, converts⟩ | ⟨fault, failed, inside⟩
  · have converted :=
      Nest.traverse_eq_ok fun scalar member =>
        elementToDouble_eq_number (converts scalar member)
    rw [elements_list] at converts
    refine Or.inl ⟨?_, converts⟩
    rw [converted]
    rfl
  · rw [elements_list] at inside
    refine Or.inr ⟨fault, ?_, inside⟩
    rw [failed]
    rfl

end Value

namespace Policy

variable (policy : Policy)

/-- A scalar other than nothing fails alone exactly if it fails in a nest, and with the same fault. -/
theorem outcome_acceptsValue_eq_error_iff
    {scalar : Scalar}
    {fault : Fault} :
    scalar ≠ .nothing ∧ (policy.acceptsValue (.leaf scalar)).outcome = .error fault ↔
      Value.elementToDouble scalar = .error fault := by
  by_cases noValue : scalar = .nothing
  · rw [noValue]
    exact iff_of_false (fun failed => failed.1 rfl) nofun
  · rw [and_iff_right noValue, Value.elementToDouble_of_ne_nothing noValue,
      outcome_acceptsValue, Value.toDouble]
    cases scalar.toDouble with
    | ok number => exact iff_of_false nofun nofun
    | error failure => simp [Except.map]

/-- The answer that a scalar gets in a list: its answer alone, and no for nothing. -/
def AnswersListed (scalar : Scalar) (answer : Bool) : Prop :=
  if scalar = .nothing then answer = false
  else (policy.acceptsValue (.leaf scalar)).outcome = .ok answer

theorem answersListed_number
    {scalar : Scalar}
    (converts : ∃ number, Value.elementToDouble scalar = .ok number) :
    policy.AnswersListed scalar (policy.accepts scalar.number) := by
  rw [AnswersListed]
  split
  · next noValue =>
    rw [noValue]
    exact accepts_of_isNaN policy rfl
  · next something =>
    rw [Value.elementToDouble_of_ne_nothing something] at converts
    rw [policy.acceptsValue_of_converts converts]

/--
A policy fails on a list of scalars exactly if it fails on one of them alone
that is not nothing.  Otherwise it gives the list of the answers that they get
alone, with no for nothing.
-/
theorem acceptsNest_list
    (scalars : List Scalar) :
    ((∃ fault, (policy.acceptsNest (.list scalars)).outcome = .error fault) ↔
        ∃ scalar ∈ scalars,
          scalar ≠ .nothing ∧
            ∃ fault, (policy.acceptsValue (.leaf scalar)).outcome = .error fault) ∧
      ((∃ fault, (policy.acceptsNest (.list scalars)).outcome = .error fault) ∨
        ∃ answers : List Bool,
          (policy.acceptsNest (.list scalars)).outcome =
              .ok ⟨[scalars.length], .list answers⟩ ∧
            List.Forall₂ policy.AnswersListed scalars answers) := by
  have alone : ∀ {scalar : Scalar},
      (scalar ≠ .nothing ∧
          ∃ fault, (policy.acceptsValue (.leaf scalar)).outcome = .error fault) ↔
        ∃ fault, Value.elementToDouble scalar = .error fault := by
    intro scalar
    rw [← exists_and_left]
    exact exists_congr fun fault => policy.outcome_acceptsValue_eq_error_iff
  simp only [alone]
  rcases Value.toDoubles_list_cases scalars with
    ⟨converted, converts⟩ | ⟨fault, failed, scalar, member, refused⟩
  · have answered := policy.acceptsNest_of_toDoubles converted
    rw [answered]
    refine ⟨iff_of_false nofun ?_, Or.inr ⟨scalars.map (policy.accepts ·.number), ?_, ?_⟩⟩
    · rintro ⟨scalar, member, fault, refused⟩
      obtain ⟨number, passed⟩ := converts scalar member
      rw [refused] at passed
      cases passed
    · rw [Nest.map_list, Nest.map_list, List.map_map]
      rfl
    · rw [List.forall₂_map_right_iff, List.forall₂_same]
      exact fun scalar member => policy.answersListed_number (converts scalar member)
  · rw [policy.acceptsNest_of_error failed]
    exact ⟨iff_of_true ⟨fault, rfl⟩ ⟨scalar, member, fault, refused⟩, Or.inl ⟨fault, rfl⟩⟩

/-- Alone, nothing is a fault; in a list it is answered with no. -/
theorem acceptsNest_list_of_nothing :
    (acceptsValue ⟨.ofInt 1, .margin (.ofInt 1)⟩ (.leaf .nothing)).outcome =
        .error (.notNumeric .nothing) ∧
      (acceptsNest ⟨.ofInt 1, .margin (.ofInt 1)⟩ (.list [.nothing])).outcome =
        .ok ⟨[1], .list [false]⟩ := by
  have refused :
      accepts ⟨.ofInt 1, .margin (.ofInt 1)⟩ (.nan false) = false :=
    accepts_of_isNaN _ rfl
  refine ⟨rfl, ?_⟩
  show Except.ok (⟨[1], .list [accepts ⟨.ofInt 1, .margin (.ofInt 1)⟩ (.nan false)]⟩ : Mask) = _
  rw [refused]

end Policy

end Closeness
