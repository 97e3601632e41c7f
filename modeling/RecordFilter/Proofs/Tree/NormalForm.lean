import RecordFilter.Proofs.Compile.FirstFault

/-!
# `RecordFilter.Proofs.Tree.NormalForm`: trees whose empty groups have one conjunction

A group without children says the same with either conjunction. In the normal form of a tree the
conjunction of every such group is `all`, and all else is as it was. A tree and its normal form
compile alike: `compile_normalForm`.
-/

set_option autoImplicit false

namespace RecordFilter

open RecordFilter.Proofs.Support

/-- The conjunction of a group with these children, where an empty group has the conjunction
`all`. -/
def Conjunction.over (conjunction : Conjunction) (children : List Node) : Conjunction :=
  if children.isEmpty then .all else conjunction

namespace Node

mutual

/-- The node with the conjunction of all its empty groups put to `all`. -/
def normalForm : Node → Node
  | .criterion c => .criterion c
  | .group conjunction children =>
    .group (conjunction.over children) (normalForms children)

/-- The nodes with the conjunction of all their empty groups put to `all`. -/
def normalForms : List Node → List Node
  | [] => []
  | node :: rest => normalForm node :: normalForms rest

end

end Node

/-- The tree with the conjunction of all its empty groups put to `all`. -/
def Group.normalForm (g : Group) : Group :=
  ⟨g.conjunction.over g.children, Node.normalForms g.children⟩

/-- The normal form of a tree is that of its root. -/
theorem Group.toNode_normalForm (g : Group) : g.normalForm.toNode = g.toNode.normalForm := by
  simp [Group.normalForm, Group.toNode, Node.normalForm]

/-! ### Places and criteria -/

mutual

/-- The normal form has the same places. -/
theorem Node.places_normalForm : ∀ (node : Node) (depth : Nat),
    node.normalForm.places depth = node.places depth
  | .criterion c, depth => by
    rw [Node.normalForm]
  | .group conjunction children, depth => by
    rw [Node.normalForm, Node.places, Node.places, Node.placesAll_normalForms children]

/-- The same for several nodes. -/
theorem Node.placesAll_normalForms : ∀ (nodes : List Node) (depth : Nat),
    Node.placesAll depth (Node.normalForms nodes) = Node.placesAll depth nodes
  | [], depth => by
    rw [Node.normalForms]
  | node :: rest, depth => by
    rw [Node.normalForms, Node.placesAll, Node.placesAll, Node.places_normalForm node,
      Node.placesAll_normalForms rest]

end

mutual

/-- The normal form has the same criteria. -/
theorem Node.criteria_normalForm : ∀ (node : Node) (depth : Nat),
    node.normalForm.criteria depth = node.criteria depth
  | .criterion c, depth => by
    rw [Node.normalForm]
  | .group conjunction children, depth => by
    rw [Node.normalForm, Node.criteria, Node.criteria, Node.criteriaAll_normalForms children]

/-- The same for several nodes. -/
theorem Node.criteriaAll_normalForms : ∀ (nodes : List Node) (depth : Nat),
    Node.criteriaAll depth (Node.normalForms nodes) = Node.criteriaAll depth nodes
  | [], depth => by
    rw [Node.normalForms]
  | node :: rest, depth => by
    rw [Node.normalForms, Node.criteriaAll, Node.criteriaAll, Node.criteria_normalForm node,
      Node.criteriaAll_normalForms rest]

end

/-! ### Formulas -/

variable {ctx : LoweringContext} {dates : DateContext}

/-- Children with a formula are not empty, so the conjunction of their group stays. -/
theorem joins_over_iff {depth : Nat} {conjunction : Conjunction} {children : List Node}
    {parts : List Formula} (h : Node.YieldsAll ctx dates depth children parts)
    {o : Option Formula} :
    (conjunction.over children).Joins parts o ↔ conjunction.Joins parts o := by
  cases h with
  | nil => rw [joins_iff, joins_iff]; rfl
  | cons _ _ => rfl

mutual

/-- The normal form has the same formula. -/
theorem Node.yields_normalForm : ∀ (node : Node) {depth : Nat} {o : Option Formula},
    node.normalForm.Yields ctx dates depth o ↔ node.Yields ctx dates depth o
  | .criterion c, depth, o => by
    rw [Node.normalForm]
  | .group conjunction children, depth, o => by
    simp only [Node.normalForm, yields_group_iff, Node.yieldsAll_normalForms children]
    refine and_congr_right fun _ => exists_congr fun parts => and_congr_right fun hparts => ?_
    exact joins_over_iff hparts

/-- The same for several nodes. -/
theorem Node.yieldsAll_normalForms : ∀ (nodes : List Node) {depth : Nat} {parts : List Formula},
    Node.YieldsAll ctx dates depth (Node.normalForms nodes) parts ↔
      Node.YieldsAll ctx dates depth nodes parts
  | [], depth, parts => by
    rw [Node.normalForms]
  | node :: rest, depth, parts => by
    simp only [Node.normalForms, yieldsAll_cons_iff, Node.yields_normalForm node,
      Node.yieldsAll_normalForms rest]

end

/-- A tree and its normal form compile to the same text, or fail with the same fault. -/
theorem compile_normalForm (c : Compiler) (tree : Group) (anchor : Date) :
    c.compile tree.normalForm anchor = c.compile tree anchor := by
  cases h : c.compile tree anchor with
  | ok text =>
    obtain ⟨o, ho, htext⟩ := compile_eq_ok_iff.mp h
    refine compile_eq_ok_iff.mpr ⟨o, ?_, htext⟩
    rw [Group.Yields, Group.toNode_normalForm, Node.yields_normalForm]
    exact ho
  | error fault =>
    have hplaces : tree.normalForm.places = tree.places := by
      rw [Group.places, Group.toNode_normalForm, Node.places_normalForm, Group.places]
    have htests : tree.normalForm.tests c.available = tree.tests c.available := by
      rw [Group.tests, Group.criteria, Group.toNode_normalForm, Node.criteria_normalForm,
        Group.tests, Group.criteria]
    rw [compile_eq_error_iff_first, hplaces, htests, ← compile_eq_error_iff_first]
    exact h

end RecordFilter
