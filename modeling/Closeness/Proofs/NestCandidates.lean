import Mathlib.Data.Bool.Count
import Closeness.Policy.Candidates
import Closeness.Proofs.RegularNest

/-!
# Answers for nests

A policy that is put to a regular nest gives at every index the answer that it
gives to the value there alone.  The records are those of the single answers,
in row-major order, and the tally counts the answers.

All values are converted before any is compared.  So a value that does not
convert is a fault of the whole nest, and leaves no records.  Nothing is the
exception: alone it does not convert, and in a nest it counts as NaN.
-/

namespace Closeness

/-- What remains of the answers when the positive ones are taken away are the negative ones. -/
theorem Tally.mismatched_ofAnswers
    (answers : List Bool) :
    (ofAnswers answers).mismatched = answers.count false := by
  rw [ofAnswers, ← List.count_true_add_count_false answers, Nat.add_sub_cancel_left]

/-- The double that a scalar converts to; NaN stands for none. -/
def Scalar.number (scalar : Scalar) : Double :=
  match scalar.toDouble with
  | .ok number => number
  | .error _ => .nan false

theorem Scalar.toDouble_eq_number
    {scalar : Scalar}
    (converts : ∃ number, scalar.toDouble = .ok number) :
    scalar.toDouble = .ok scalar.number := by
  obtain ⟨number, converted⟩ := converts
  rw [Scalar.number, converted]

namespace Value

/-- In a nest all scalars but nothing convert as they do alone. -/
theorem elementToDouble_of_ne_nothing
    {scalar : Scalar}
    (something : scalar ≠ .nothing) :
    elementToDouble scalar = scalar.toDouble := by
  cases scalar with
  | nothing => exact absurd rfl something
  | _ => rfl

theorem toDoubles_of_regular
    {values : Value}
    {shape : List Nat}
    (regular : Nest.Regular shape values)
    (visited : shape.length ≤ visitLimit)
    (converts : ∀ scalar ∈ values.elements, ∃ number, scalar.toDouble = .ok number) :
    values.toDoubles = .ok (shape, values.map Scalar.number) := by
  have entered : shape.length ≤ levelLimit :=
    Nat.le_trans visited (by decide)
  have checked := regularShape_eq_ok_iff.mpr ⟨regular, entered⟩
  have converted : values.traverse elementToDouble = .ok (values.map Scalar.number) := by
    apply Nest.traverse_eq_ok
    intro scalar member
    have converted := Scalar.toDouble_eq_number (converts scalar member)
    have something : scalar ≠ .nothing := by
      rintro rfl
      cases converted
    rw [elementToDouble_of_ne_nothing something, converted]
  rw [toDoubles, checked, converted]
  exact if_neg (Nat.not_lt.mpr visited)

/-- A scalar that does not convert keeps the whole nest from being converted. -/
theorem exists_toDoubles_eq_error
    {values : Value}
    {shape : List Nat}
    (regular : Nest.Regular shape values)
    (entered : shape.length ≤ levelLimit)
    {scalar : Scalar}
    (member : scalar ∈ values.elements)
    (something : scalar ≠ .nothing)
    {fault : Fault}
    (refused : scalar.toDouble = .error fault) :
    ∃ fault, values.toDoubles = .error fault := by
  have checked := regularShape_eq_ok_iff.mpr ⟨regular, entered⟩
  rw [toDoubles, checked]
  rcases Nest.traverse_cases elementToDouble values with
    ⟨numbers, -, converts⟩ | ⟨failure, failed, -⟩
  · obtain ⟨number, converted⟩ := converts scalar member
    rw [elementToDouble_of_ne_nothing something, refused] at converted
    cases converted
  · refine ⟨failure, ?_⟩
    rw [failed]
    rfl

end Value

namespace Policy

variable (policy : Policy)

theorem acceptsValue_of_converts
    {scalar : Scalar}
    (converts : ∃ number, scalar.toDouble = .ok number) :
    policy.acceptsValue (.leaf scalar) =
      ⟨policy.records scalar.number, .ok (policy.accepts scalar.number)⟩ :=
  policy.acceptsValue_eq_verdict (Scalar.toDouble_eq_number converts)

theorem acceptsNest_of_toDoubles
    {values : Value}
    {shape : List Nat}
    {numbers : Nest Double}
    (converts : values.toDoubles = .ok (shape, numbers)) :
    policy.acceptsNest values =
      ⟨numbers.elements.flatMap policy.records, .ok ⟨shape, numbers.map policy.accepts⟩⟩ := by
  rw [acceptsNest, converts]
  rfl

theorem acceptsNest_of_error
    {values : Value}
    {fault : Fault}
    (refused : values.toDoubles = .error fault) :
    policy.acceptsNest values = ⟨[], .error fault⟩ := by
  rw [acceptsNest, refused]
  rfl

theorem tally_of_mask
    {values : Value}
    {mask : Mask}
    (answered : (policy.acceptsNest values).outcome = .ok mask) :
    (policy.tally values).outcome = .ok (Tally.ofAnswers mask.answers.elements) := by
  rw [tally, Logged.bind_of_ok answered]
  rfl

theorem tally_of_error
    {values : Value}
    {fault : Fault}
    (refused : policy.acceptsNest values = ⟨[], .error fault⟩) :
    policy.tally values = ⟨[], .error fault⟩ := by
  have failed : (policy.acceptsNest values).outcome = .error fault := by
    rw [refused]
  rw [tally, Logged.bind_of_error failed, refused]

section Converted

variable
  {values : Value}
  (converts : ∀ scalar ∈ values.elements, ∃ number, scalar.toDouble = .ok number)

include converts

/-- At the index of a scalar stands the answer that it gets alone. -/
theorem exists_answer_of_get?
    {index : List Nat}
    {scalar : Scalar}
    (found : values.get? index = some scalar) :
    ∃ answer,
      ((values.map Scalar.number).map policy.accepts).get? index = some answer ∧
        (policy.acceptsValue (.leaf scalar)).outcome = .ok answer := by
  refine ⟨policy.accepts scalar.number, ?_, ?_⟩
  · rw [Nest.get?_map, Nest.get?_map, found]
    rfl
  · rw [policy.acceptsValue_of_converts (converts scalar (Nest.mem_elements_of_get? found))]

/-- The records for the doubles of a nest are those for its scalars, each alone. -/
theorem flatMap_records :
    (values.map Scalar.number).elements.flatMap policy.records =
      values.elements.flatMap fun scalar => (policy.acceptsValue (.leaf scalar)).records := by
  rw [Nest.elements_map, List.flatMap_map]
  refine List.flatMap_congr fun scalar member => ?_
  rw [policy.acceptsValue_of_converts (converts scalar member)]

/-- An answer is given as often as scalars get it alone. -/
theorem count_answers
    (answer : Bool) :
    ((values.map Scalar.number).map policy.accepts).elements.count answer =
      values.elements.countP
        (fun scalar => (policy.acceptsValue (.leaf scalar)).outcome = .ok answer) := by
  rw [Nest.elements_map, Nest.elements_map, List.count_eq_countP, List.countP_map,
    List.countP_map]
  refine List.countP_congr fun scalar member => ?_
  simp [policy.acceptsValue_of_converts (converts scalar member)]

end Converted

/-- What the elements of a regular nest leave is what is left at its indices in row-major order. -/
theorem flatMap_rowMajor
    {α β : Type}
    {shape : List Nat}
    {nest : Nest α}
    (regular : Nest.Regular shape nest)
    (f : α → List β) :
    ((Nest.rowMajor shape).flatMap fun index => (nest.get? index).elim [] f) =
      nest.elements.flatMap f := by
  have indexed := congrArg (List.flatMap (Option.elim · [] f)) regular.map_get?_rowMajor
  rw [List.flatMap_map, List.flatMap_map] at indexed
  exact indexed

/--
A regular nest of at most 32 levels, all of whose values convert, is answered
value by value: the answers have its shape, each is the one that its value
gets alone, the records are those of the single answers in row-major order,
and the tally counts the answers.  If some value of a regular nest of at most
64 levels does not convert, the outcome is a fault without records.
-/
theorem acceptsNest_of_regular
    {values : Value}
    {shape : List Nat}
    (regular : Nest.Regular shape values) :
    (shape.length ≤ 32 →
      (∀ scalar ∈ values.elements, ∃ number, scalar.toDouble = .ok number) →
      ∃ mask tally,
        (policy.acceptsNest values).outcome = .ok mask ∧
          mask.shape = shape ∧
          Nest.Regular shape mask.answers ∧
          (∀ index scalar, values.get? index = some scalar →
            ∃ answer,
              mask.answers.get? index = some answer ∧
                (policy.acceptsValue (.leaf scalar)).outcome = .ok answer) ∧
          (policy.acceptsNest values).records =
            ((Nest.rowMajor shape).flatMap fun index =>
              (values.get? index).elim [] fun scalar =>
                (policy.acceptsValue (.leaf scalar)).records) ∧
          (policy.tally values).outcome = .ok tally ∧
          tally.total = values.elements.length ∧
          tally.matched =
            values.elements.countP
              (fun scalar => (policy.acceptsValue (.leaf scalar)).outcome = .ok true) ∧
          tally.mismatched = tally.total - tally.matched ∧
          tally.mismatched =
            values.elements.countP
              (fun scalar => (policy.acceptsValue (.leaf scalar)).outcome = .ok false)) ∧
      (shape.length ≤ 64 →
        (∃ scalar ∈ values.elements,
          scalar ≠ .nothing ∧ ∃ fault, scalar.toDouble = .error fault) →
        ∃ fault,
          policy.acceptsNest values = ⟨[], .error fault⟩ ∧
            policy.tally values = ⟨[], .error fault⟩) := by
  constructor
  · intro visited converts
    have answered :=
      policy.acceptsNest_of_toDoubles (Value.toDoubles_of_regular regular visited converts)
    refine
      ⟨⟨shape, (values.map Scalar.number).map policy.accepts⟩, _, by rw [answered], rfl,
        (regular.map _).map _, ?_, ?_, policy.tally_of_mask (by rw [answered]), ?_, ?_, rfl, ?_⟩
    · intro index scalar found
      exact policy.exists_answer_of_get? converts found
    · rw [flatMap_rowMajor regular, answered, policy.flatMap_records converts]
    · rw [Tally.ofAnswers, Nest.elements_map, Nest.elements_map, List.length_map,
        List.length_map]
    · exact policy.count_answers converts true
    · rw [Tally.mismatched_ofAnswers]
      exact policy.count_answers converts false
  · rintro entered ⟨scalar, member, something, fault, refused⟩
    obtain ⟨fault, failed⟩ :=
      Value.exists_toDoubles_eq_error regular entered member something refused
    have noAnswer := policy.acceptsNest_of_error failed
    exact ⟨fault, noAnswer, policy.tally_of_error noAnswer⟩

/-- A text and a truth value in two rows of one, and a list with a dictionary. -/
theorem acceptsNest_of_regular_of_rows :
    Nest.Regular [2, 1]
        (.node [.node [.leaf (.text "inf")], .node [.leaf (.boolean true)]] : Value) ∧
      (∃ mask tally,
        (acceptsNest ⟨.zero true, .epsilon Width.double.epsilon⟩
            (.node [.node [.leaf (.text "inf")], .node [.leaf (.boolean true)]])).outcome =
            .ok mask ∧
          mask.shape = [2, 1] ∧
          (Policy.tally ⟨.zero true, .epsilon Width.double.epsilon⟩
            (.node [.node [.leaf (.text "inf")], .node [.leaf (.boolean true)]])).outcome =
            .ok tally ∧
          tally.total = 2) ∧
      ∃ fault,
        acceptsNest ⟨.zero true, .epsilon Width.double.epsilon⟩
            (.node [.leaf (.text "inf"), .leaf .dictionary]) =
          ⟨[], .error fault⟩ := by
  have rows :
      Nest.Regular [2, 1]
        (.node [.node [.leaf (.text "inf")], .node [.leaf (.boolean true)]] : Value) :=
    (Value.regularShape_eq_ok_iff.mp rfl).1
  have row :
      Nest.Regular [2] (.node [.leaf (.text "inf"), .leaf .dictionary] : Value) :=
    (Value.regularShape_eq_ok_iff.mp rfl).1
  have converts :
      ∀ scalar ∈ (.node [.node [.leaf (.text "inf")], .node [.leaf (.boolean true)]] :
          Value).elements,
        ∃ number, scalar.toDouble = .ok number := by
    intro scalar member
    simp only [Nest.elements, Nest.elements.all, List.append_nil, List.cons_append,
      List.nil_append, List.mem_cons, List.not_mem_nil, or_false] at member
    rcases member with rfl | rfl
    · exact ⟨.infinity false, by decide +kernel⟩
    · exact ⟨_, rfl⟩
  obtain ⟨mask, tally, answered, shape, -, -, -, counted, total, -, -⟩ :=
    (acceptsNest_of_regular ⟨.zero true, .epsilon Width.double.epsilon⟩ rows).1
      (by decide) converts
  obtain ⟨fault, refused, -⟩ :=
    (acceptsNest_of_regular ⟨.zero true, .epsilon Width.double.epsilon⟩ row).2 (by decide)
      ⟨.dictionary, by simp [Nest.elements, Nest.elements.all], by decide, _, rfl⟩
  exact ⟨rows, ⟨mask, tally, answered, shape, counted, total⟩, fault, refused⟩

end Policy

end Closeness
