import RecordFilter.Proofs.Tree.Places

/-!
# `RecordFilter.Proofs.Tree.Thinning`: trees with nodes taken out

A criterion is dead when its operator takes a list of values and its value has none: there is
nothing to test. `Group.Thins` relates a tree to the same tree without some of its nodes. The
nodes may be taken out at any positions, and the first argument says which nodes may be taken
out. Read from right to left it says that nodes are put in.
-/

set_option autoImplicit false

namespace RecordFilter

/-- The criterion has a list operator and no values. -/
def Criterion.IsDead (c : Criterion) : Prop :=
  c.operator.isOfMany = true ∧ c.value.toList = []

/-- No criterion of a node in a group of the given depth is live. -/
def Node.IsIdle (depth : Nat) (node : Node) : Prop :=
  ∀ p ∈ node.criteria depth, p.2.IsDead

/-- The second list is the first one without some nodes at any positions, also below the nodes
that stay. A node may be taken out of a group if `removable` holds of it and the depth of the
group. -/
inductive Node.Thins (removable : Nat → Node → Prop) : Nat → List Node → List Node → Prop
  | nil {depth : Nat} : Node.Thins removable depth [] []
  | drop {depth : Nat} {node : Node} {nodes fewer : List Node} (hnode : removable depth node)
    (h : Node.Thins removable depth nodes fewer) :
    Node.Thins removable depth (node :: nodes) fewer
  | criterion {depth : Nat} (c : Criterion) {nodes fewer : List Node}
    (h : Node.Thins removable depth nodes fewer) :
    Node.Thins removable depth (.criterion c :: nodes) (.criterion c :: fewer)
  | group {depth : Nat} (conjunction : Conjunction) {children left nodes fewer : List Node}
    (hchildren : Node.Thins removable (depth + 1) children left)
    (h : Node.Thins removable depth nodes fewer) :
    Node.Thins removable depth (.group conjunction children :: nodes)
      (.group conjunction left :: fewer)

/-- The second tree is the first one without some nodes below the root. -/
def Group.Thins (removable : Nat → Node → Prop) (tree smaller : Group) : Prop :=
  smaller.conjunction = tree.conjunction ∧
    Node.Thins removable 1 tree.children smaller.children

end RecordFilter
