import RecordFilter.Tree.Basic

/-!
# `RecordFilter.Proofs.Tree.Places`: what stands where in a tree

The depth of a group counts the groups that it stands in, and the group itself. The root of a
tree has depth 1. `Group.groupDepths` lists the depths of the groups of a tree, and
`Group.criteria` its criteria, each with the depth of the group that it stands in.

`Group.places` lists groups and criteria together, in the order in which they are written: a
group comes before its children.
-/

set_option autoImplicit false

namespace RecordFilter

mutual

/-- The criteria of a node that stands in a group of the given depth. -/
def Node.criteria (depth : Nat) : Node → List (Nat × Criterion)
  | .criterion c => [(depth, c)]
  | .group _ children => Node.criteriaAll (depth + 1) children

/-- The criteria of the children of a group of the given depth. -/
def Node.criteriaAll (depth : Nat) : List Node → List (Nat × Criterion)
  | [] => []
  | node :: rest => node.criteria depth ++ Node.criteriaAll depth rest

end

mutual

/-- The depths of the groups of a node that stands in a group of the given depth. -/
def Node.groupDepths (depth : Nat) : Node → List Nat
  | .criterion _ => []
  | .group _ children => (depth + 1) :: Node.groupDepthsAll (depth + 1) children

/-- The depths of the groups among and below the children of a group of the given depth. -/
def Node.groupDepthsAll (depth : Nat) : List Node → List Nat
  | [] => []
  | node :: rest => node.groupDepths depth ++ Node.groupDepthsAll depth rest

end

/-- A node of a tree without what stands below it: a group of the given depth, or a criterion in a
group of the given depth. -/
inductive Place where
  | group (depth : Nat)
  | criterion (depth : Nat) (criterion : Criterion)

mutual

/-- The places of a node that stands in a group of the given depth. -/
def Node.places (depth : Nat) : Node → List Place
  | .criterion c => [.criterion depth c]
  | .group _ children => .group (depth + 1) :: Node.placesAll (depth + 1) children

/-- The places among and below the children of a group of the given depth. -/
def Node.placesAll (depth : Nat) : List Node → List Place
  | [] => []
  | node :: rest => node.places depth ++ Node.placesAll depth rest

end

/-- The criteria of a tree in the order in which they are written, with their depths. -/
def Group.criteria (g : Group) : List (Nat × Criterion) :=
  g.toNode.criteria 0

/-- The depths of the groups of a tree, the root first. -/
def Group.groupDepths (g : Group) : List Nat :=
  g.toNode.groupDepths 0

/-- The places of a tree, the root first. -/
def Group.places (g : Group) : List Place :=
  g.toNode.places 0

mutual

/-- A criterion of a node stands at one of its places. -/
theorem Node.mem_places_of_mem_criteria : ∀ (node : Node) {depth : Nat} {p : Nat × Criterion},
    p ∈ node.criteria depth → .criterion p.1 p.2 ∈ node.places depth
  | .criterion c, depth, p, h => by
    rw [Node.criteria, List.mem_singleton] at h
    rw [h]
    exact List.mem_singleton_self _
  | .group _ children, depth, p, h =>
    List.mem_cons_of_mem _ (Node.mem_placesAll_of_mem_criteriaAll children h)

/-- The same for several nodes. -/
theorem Node.mem_placesAll_of_mem_criteriaAll : ∀ (nodes : List Node) {depth : Nat}
    {p : Nat × Criterion}, p ∈ Node.criteriaAll depth nodes →
      .criterion p.1 p.2 ∈ Node.placesAll depth nodes
  | [], depth, p, h => by
    cases h
  | node :: rest, depth, p, h => by
    rw [Node.criteriaAll, List.mem_append] at h
    rw [Node.placesAll, List.mem_append]
    cases h with
    | inl h => exact .inl (Node.mem_places_of_mem_criteria node h)
    | inr h => exact .inr (Node.mem_placesAll_of_mem_criteriaAll rest h)

end

end RecordFilter
