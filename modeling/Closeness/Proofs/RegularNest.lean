import Mathlib.Data.List.Basic
import Closeness.Value.Shape

/-!
# Regular nests

A nest is regular when its lists of one level have one length and its elements
lie at one depth.  `Regular` says so level by level and names the shape; below
an empty list there are no levels.  The check of shapes passes exactly the
regular nests whose levels are all entered, and mapping keeps their shape.

The elements of a regular nest from left to right are those at the indices of
its shape in row-major order.
-/

namespace Closeness

namespace Nest

variable {α β : Type}

/-- What holds of a list of nests if it holds of its branches, and of elements, holds of nests. -/
@[elab_as_elim, induction_eliminator]
theorem induction
    {motive : Nest α → Prop}
    (leaf : ∀ element, motive (leaf element))
    (node : ∀ branches, (∀ branch ∈ branches, motive branch) → motive (node branches))
    (nest : Nest α) :
    motive nest :=
  match nest with
  | .leaf element => leaf element
  | .node branches => node branches fun branch _ => induction leaf node branch

/-- A nest is regular and has a shape. -/
inductive Regular : List Nat → Nest α → Prop
  /-- An element has no levels. -/
  | leaf (element : α) : Regular [] (leaf element)
  /-- An empty list has one level. -/
  | empty : Regular [0] (node [])
  /-- The branches of any other list share one shape. -/
  | node {rest : List Nat} {branches : List (Nest α)} (inhabited : branches ≠ [])
      (alike : ∀ branch ∈ branches, Regular rest branch) :
      Regular (branches.length :: rest) (node branches)

/-! ## Functions on several nests, by those on lists -/

theorem elements_all
    (branches : List (Nest α)) :
    elements.all branches = branches.flatMap elements := by
  induction branches with
  | nil => rfl
  | cons branch rest ih => rw [elements.all, ih, List.flatMap_cons]

theorem map_all
    (f : α → β)
    (branches : List (Nest α)) :
    map.all f branches = branches.map (map f) := by
  induction branches with
  | nil => rfl
  | cons branch rest ih => rw [map.all, ih, List.map_cons]

theorem hasShape_all
    (shape : List Nat)
    (branches : List (Nest α)) :
    hasShape.all shape branches = true ↔ ∀ branch ∈ branches, branch.hasShape shape = true := by
  induction branches with
  | nil => simp [hasShape.all]
  | cons branch rest ih => simp [hasShape.all, ih]

/-! ## The check of shapes -/

theorem commonStart_isPrefix
    (left right : List Nat) :
    commonStart left right <+: left ∧ commonStart left right <+: right := by
  induction left generalizing right with
  | nil => simp [commonStart]
  | cons first rest ih =>
    cases right with
    | nil => simp [commonStart]
    | cons first' rest' =>
      rw [commonStart]
      split
      · next same =>
        simp [same, ih rest']
      · simp

theorem commonShape_all_cons_cons
    (levels : Nat)
    (first next : Nest α)
    (others : List (Nest α)) :
    commonShape.all levels (first :: next :: others) =
      commonStart (first.commonShape levels) (commonShape.all levels (next :: others)) :=
  rfl

/-- What several nests agree on starts the shape of each. -/
theorem commonShape_all_isPrefix
    (levels : Nat)
    {branches : List (Nest α)}
    {branch : Nest α}
    (member : branch ∈ branches) :
    commonShape.all levels branches <+: branch.commonShape levels := by
  induction branches with
  | nil => exact absurd member List.not_mem_nil
  | cons first rest ih =>
    cases rest with
    | nil =>
      rw [List.mem_singleton.mp member]
      exact List.prefix_refl _
    | cons next others =>
      have starts :=
        commonStart_isPrefix (first.commonShape levels) (commonShape.all levels (next :: others))
      rw [commonShape_all_cons_cons]
      rcases List.mem_cons.mp member with rfl | later
      · exact starts.1
      · exact starts.2.trans (ih later)

theorem commonStart_self
    (shape : List Nat) :
    commonStart shape shape = shape := by
  induction shape with
  | nil => rfl
  | cons length rest ih => rw [commonStart, if_pos rfl, ih]

/-- Branches of one shape agree on it. -/
theorem commonShape_all_of_alike
    {levels : Nat}
    {shape : List Nat}
    {branches : List (Nest α)}
    (inhabited : branches ≠ [])
    (alike : ∀ branch ∈ branches, branch.commonShape levels = shape) :
    commonShape.all levels branches = shape := by
  induction branches with
  | nil => exact absurd rfl inhabited
  | cons first rest ih =>
    have ofFirst := alike first List.mem_cons_self
    cases rest with
    | nil => exact ofFirst
    | cons next others =>
      have ofRest : commonShape.all levels (next :: others) = shape :=
        ih (List.cons_ne_nil _ _) fun branch member =>
          alike branch (List.mem_cons_of_mem _ member)
      rw [commonShape_all_cons_cons, ofFirst, ofRest, commonStart_self]

namespace Regular

variable {shape : List Nat} {nest : Nest α}

theorem commonShape_eq
    (regular : Regular shape nest)
    {levels : Nat}
    (entered : shape.length ≤ levels) :
    nest.commonShape levels = shape := by
  induction regular generalizing levels with
  | leaf element => cases levels <;> rfl
  | empty =>
    cases levels with
    | zero => exact absurd entered (by decide)
    | succ levels => rfl
  | @node rest branches inhabited alike ih =>
    cases levels with
    | zero => exact absurd entered (Nat.not_succ_le_zero _)
    | succ levels =>
      have agreed : commonShape.all levels branches = rest :=
        commonShape_all_of_alike inhabited fun branch member =>
          ih branch member (Nat.le_of_succ_le_succ entered)
      rw [commonShape, agreed]

theorem hasShape_eq_true
    (regular : Regular shape nest) :
    nest.hasShape shape = true := by
  induction regular with
  | leaf element => rfl
  | empty => rfl
  | @node rest branches inhabited alike ih =>
    rw [hasShape, beq_self_eq_true, Bool.true_and, hasShape_all]
    exact ih

end Regular

/--
A nest that has a shape is regular, if the shape goes no deeper than what its
branches agree on.  Without that an empty list would have many shapes.
-/
theorem regular_of_hasShape
    {shape : List Nat}
    {nest : Nest α}
    {levels : Nat}
    (shaped : nest.hasShape shape = true)
    (agreed : shape <+: nest.commonShape levels) :
    Regular shape nest := by
  induction shape generalizing nest levels with
  | nil =>
    cases nest with
    | leaf element => exact .leaf element
    | node branches => cases shaped
  | cons length rest ih =>
    cases nest with
    | leaf element => cases shaped
    | node branches =>
      cases levels with
      | zero => exact absurd agreed (by simp [commonShape])
      | succ levels =>
        rw [hasShape, Bool.and_eq_true, beq_iff_eq, hasShape_all] at shaped
        obtain ⟨rfl, alike⟩ := shaped
        rw [commonShape, List.cons_prefix_cons] at agreed
        rcases eq_or_ne branches [] with rfl | inhabited
        · rw [List.prefix_nil.mp agreed.2]
          exact .empty
        · refine .node inhabited fun branch member => ?_
          exact ih (alike branch member)
            (agreed.2.trans (commonShape_all_isPrefix levels member))

theorem length_commonShape_le
    (levels : Nat)
    (nest : Nest α) :
    (nest.commonShape levels).length ≤ levels := by
  induction levels generalizing nest with
  | zero => cases nest <;> exact Nat.le_refl 0
  | succ levels ih =>
    match nest with
    | .leaf element => exact Nat.zero_le _
    | .node [] =>
      rw [commonShape, commonShape.all]
      exact Nat.succ_le_succ (Nat.zero_le _)
    | .node (first :: rest) =>
      have starts := commonShape_all_isPrefix levels (List.mem_cons_self : first ∈ first :: rest)
      exact Nat.succ_le_succ (Nat.le_trans starts.length_le (ih first))

/-! ## Mapping and indices -/

theorem Regular.map
    {shape : List Nat}
    {nest : Nest α}
    (regular : Regular shape nest)
    (f : α → β) :
    Regular shape (nest.map f) := by
  induction regular with
  | leaf element => exact .leaf (f element)
  | empty => exact .empty
  | @node rest branches inhabited alike ih =>
    rw [Nest.map, map_all, ← List.length_map (f := Nest.map f)]
    refine .node (by simpa using inhabited) fun branch member => ?_
    obtain ⟨original, originalMember, rfl⟩ := List.mem_map.mp member
    exact ih original originalMember

/-- The element at an index of a mapped nest is the image of the one there before. -/
theorem get?_map
    (f : α → β)
    (nest : Nest α)
    (index : List Nat) :
    (nest.map f).get? index = (nest.get? index).map f := by
  induction index generalizing nest with
  | nil => cases nest <;> rfl
  | cons position rest ih =>
    cases nest with
    | leaf element => rfl
    | node branches =>
      rw [Nest.map, map_all, get?, get?, List.getElem?_map, Option.bind_map, Option.map_bind]
      simp only [Function.comp_def, ih]

theorem mem_elements_of_get?
    {nest : Nest α}
    {index : List Nat}
    {element : α}
    (found : nest.get? index = some element) :
    element ∈ nest.elements := by
  induction index generalizing nest with
  | nil =>
    cases nest with
    | leaf only =>
      rw [Option.some.inj found]
      exact List.mem_singleton.mpr rfl
    | node branches => cases found
  | cons position rest ih =>
    cases nest with
    | leaf only => cases found
    | node branches =>
      obtain ⟨branch, reached, inside⟩ := Option.bind_eq_some_iff.mp found
      rw [elements, elements_all]
      exact List.mem_flatMap.mpr ⟨branch, List.mem_of_getElem? reached, ih inside⟩

/-- The indices of a shape, the last level running fastest. -/
def rowMajor : List Nat → List (List Nat)
  | [] => [[]]
  | length :: rest =>
    (List.range length).flatMap fun position => (rowMajor rest).map (position :: ·)

/-- The places of a list in order hold its elements in order. -/
theorem flatMap_range_getElem?
    {γ : Type}
    (elements : List β)
    (f : Option β → List γ) :
    ((List.range elements.length).flatMap fun position => f elements[position]?) =
      elements.flatMap fun element => f (some element) := by
  induction elements with
  | nil => rfl
  | cons element rest ih =>
    rw [List.length_cons, List.range_succ_eq_map, List.flatMap_cons, List.flatMap_cons,
      List.flatMap_map, List.getElem?_cons_zero]
    simp only [List.getElem?_cons_succ]
    rw [ih]

/-- From left to right the elements are those at the indices of the shape in row-major order. -/
theorem Regular.map_get?_rowMajor
    {shape : List Nat}
    {nest : Nest α}
    (regular : Regular shape nest) :
    (rowMajor shape).map nest.get? = nest.elements.map some := by
  induction regular with
  | leaf element => rfl
  | empty => rfl
  | @node rest branches inhabited alike ih =>
    calc
      (rowMajor (branches.length :: rest)).map (Nest.node branches).get?
          = (List.range branches.length).flatMap fun position =>
              (rowMajor rest).map fun index => branches[position]?.bind (·.get? index) := by
        rw [rowMajor, List.map_flatMap]
        simp only [List.map_map]
        rfl
      _ = branches.flatMap fun branch => (rowMajor rest).map branch.get? :=
        flatMap_range_getElem? branches fun branch =>
          (rowMajor rest).map fun index => branch.bind (·.get? index)
      _ = branches.flatMap fun branch => branch.elements.map some :=
        List.flatMap_congr ih
      _ = (Nest.node branches).elements.map some := by
        rw [elements, elements_all, List.map_flatMap]

/-! ## Functions that may fail -/

section Traverse

variable {ε : Type} {f : α → Except ε β}

theorem traverse_all_eq_ok
    {g : α → β}
    {branches : List (Nest α)}
    (succeeded : ∀ branch ∈ branches, branch.traverse f = .ok (branch.map g)) :
    traverse.all f branches = .ok (map.all g branches) := by
  induction branches with
  | nil => rfl
  | cons first rest ih =>
    rw [traverse.all, succeeded first List.mem_cons_self,
      ih fun branch member => succeeded branch (List.mem_cons_of_mem _ member), map.all]
    rfl

/-- If the function has a result on every element, it has one on the nest. -/
theorem traverse_eq_ok
    {g : α → β}
    {nest : Nest α}
    (succeeded : ∀ element ∈ nest.elements, f element = .ok (g element)) :
    nest.traverse f = .ok (nest.map g) := by
  induction nest with
  | leaf element =>
    rw [traverse, succeeded element (List.mem_singleton.mpr rfl), map]
    rfl
  | node branches ih =>
    rw [elements, elements_all] at succeeded
    have onBranches : traverse.all f branches = .ok (map.all g branches) :=
      traverse_all_eq_ok fun branch member =>
        ih branch member fun element inside =>
          succeeded element (List.mem_flatMap.mpr ⟨branch, member, inside⟩)
    rw [traverse, onBranches, map]
    rfl

theorem traverse_all_cases
    {branches : List (Nest α)}
    (cases_branch :
      ∀ branch ∈ branches,
        (∃ result, branch.traverse f = .ok result ∧
          ∀ element ∈ branch.elements, ∃ value, f element = .ok value) ∨
        ∃ failure, branch.traverse f = .error failure ∧
          ∃ element ∈ branch.elements, f element = .error failure) :
    (∃ results, traverse.all f branches = .ok results ∧
      ∀ element ∈ branches.flatMap elements, ∃ value, f element = .ok value) ∨
    ∃ failure, traverse.all f branches = .error failure ∧
      ∃ element ∈ branches.flatMap elements, f element = .error failure := by
  induction branches with
  | nil => exact Or.inl ⟨[], rfl, by simp⟩
  | cons first rest ih =>
    rw [traverse.all, List.flatMap_cons]
    rcases cases_branch first List.mem_cons_self with
      ⟨result, onFirst, valuesFirst⟩ | ⟨failure, onFirst, element, member, failed⟩
    · rw [onFirst]
      rcases ih fun branch member => cases_branch branch (List.mem_cons_of_mem _ member) with
        ⟨results, onRest, valuesRest⟩ | ⟨failure, onRest, element, member, failed⟩
      · refine Or.inl ⟨result :: results, by rw [onRest]; rfl, fun element member => ?_⟩
        exact (List.mem_append.mp member).elim (valuesFirst element) (valuesRest element)
      · refine Or.inr ⟨failure, by rw [onRest]; rfl, element, ?_, failed⟩
        exact List.mem_append_right _ member
    · rw [onFirst]
      exact Or.inr ⟨failure, rfl, element, List.mem_append_left _ member, failed⟩

/-- A function has a result on a nest and on all elements, or one failure on both. -/
theorem traverse_cases
    (f : α → Except ε β)
    (nest : Nest α) :
    (∃ result, nest.traverse f = .ok result ∧
      ∀ element ∈ nest.elements, ∃ value, f element = .ok value) ∨
    ∃ failure, nest.traverse f = .error failure ∧
      ∃ element ∈ nest.elements, f element = .error failure := by
  induction nest with
  | leaf element =>
    rw [traverse, elements]
    simp only [List.mem_singleton, forall_eq, exists_eq_left]
    cases f element with
    | ok value => exact Or.inl ⟨leaf value, rfl, value, rfl⟩
    | error failure => exact Or.inr ⟨failure, rfl, rfl⟩
  | node branches ih =>
    rw [traverse, elements, elements_all]
    rcases traverse_all_cases ih with ⟨results, succeeded, values⟩ | ⟨failure, failed, inside⟩
    · exact Or.inl ⟨node results, by rw [succeeded]; rfl, values⟩
    · exact Or.inr ⟨failure, by rw [failed]; rfl, inside⟩

end Traverse

end Nest

namespace Value

/-- The check of shapes passes the regular nests whose levels are all entered. -/
theorem regularShape_eq_ok_iff
    {values : Value}
    {shape : List Nat} :
    values.regularShape = .ok shape ↔
      Nest.Regular shape values ∧ shape.length ≤ levelLimit := by
  constructor
  · intro passed
    unfold regularShape at passed
    dsimp only at passed
    split at passed
    · next shaped =>
      cases passed
      exact
        ⟨Nest.regular_of_hasShape shaped (List.prefix_refl _),
          Nest.length_commonShape_le levelLimit values⟩
    · split at passed <;> cases passed
  · rintro ⟨regular, entered⟩
    rw [regularShape, regular.commonShape_eq entered]
    exact if_pos regular.hasShape_eq_true

end Value

end Closeness
