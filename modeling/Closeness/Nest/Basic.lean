/-!
# Nests

A nest is a single element or a list of nests.  Its elements are counted from
left to right, the order in which they appear when the nest is written out.
-/

namespace Closeness

/-- An element, or a list of nests. -/
inductive Nest (α : Type) where
  /-- A single element. -/
  | leaf (element : α)
  /-- A list of nests. -/
  | node (branches : List (Nest α))

namespace Nest

variable {α β : Type}

instance [Inhabited α] : Inhabited (Nest α) :=
  ⟨leaf default⟩

/-- The elements from left to right. -/
def elements : Nest α → List α
  | leaf element => [element]
  | node branches => all branches
where
  /-- The elements of several nests. -/
  all : List (Nest α) → List α
    | [] => []
    | branch :: rest => branch.elements ++ all rest

/-- The nest with a function applied to every element. -/
def map (f : α → β) : Nest α → Nest β
  | leaf element => leaf (f element)
  | node branches => node (all branches)
where
  /-- The function applied to several nests. -/
  all : List (Nest α) → List (Nest β)
    | [] => []
    | branch :: rest => branch.map f :: all rest

/-- The nest of the results of a function that may fail, or its first failure from left to right. -/
def traverse {ε : Type} (f : α → Except ε β) : Nest α → Except ε (Nest β)
  | leaf element => (f element).map leaf
  | node branches => (all branches).map node
where
  /-- The results on several nests. -/
  all : List (Nest α) → Except ε (List (Nest β))
    | [] => .ok []
    | branch :: rest =>
      match branch.traverse f with
      | .error failure => .error failure
      | .ok result => (all rest).map (result :: ·)

/-- The element found by following a list of branch numbers. -/
def get? : Nest α → List Nat → Option α
  | leaf element, [] => some element
  | leaf _, _ :: _ => none
  | node _, [] => none
  | node branches, index :: rest => (branches[index]?).bind fun branch => branch.get? rest

/-- Mapping keeps the order of the elements. -/
theorem elements_map
    (f : α → β)
    (nest : Nest α) :
    (nest.map f).elements = nest.elements.map f := by
  match nest with
  | leaf element => rfl
  | node branches => simpa [map, elements] using elements_map_all f branches
where
  elements_map_all (f : α → β) (branches : List (Nest α)) :
      elements.all (map.all f branches) = (elements.all branches).map f := by
    match branches with
    | [] => rfl
    | branch :: rest =>
      simp [map.all, elements.all, elements_map f branch, elements_map_all f rest]

end Nest

end Closeness
