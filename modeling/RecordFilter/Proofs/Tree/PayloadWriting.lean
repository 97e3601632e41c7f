import RecordFilter.Proofs.Tree.NormalForm
import RecordFilter.Proofs.Tree.ValueReading
import RecordFilter.Tree.Payload

/-!
# `RecordFilter.Proofs.Tree.PayloadWriting`: written trees are read back

`Group.toJson` writes a tree as a payload. The children of a group may be written under either of
their two keys, and each group may use its own. Reading the payload gives the tree back, but for
the conjunction of groups without children, which is not read.

* `Node.ofJson?_toJson`: the JSON of a node is read as the payload of the node. The proof follows
  the tree.
* `Node.toNode_payload`: the payload of a node gives the normal form of the node.
* `ofJson_toJson`: writing and reading a tree gives its normal form, which compiles as the tree
  does.
-/

set_option autoImplicit false

namespace RecordFilter

/-! ### Writing -/

/-- The two keys that the children of a group may stand under. -/
inductive ChildrenKey where
  | filters
  | children

/-- A key as it is written. -/
def ChildrenKey.name : ChildrenKey → String
  | .filters => "filters"
  | .children => "children"

/-- A conjunction as it is written in a payload. -/
def Conjunction.payloadText : Conjunction → String
  | .all => "and"
  | .any => "or"

namespace Node

mutual

/-- A node as JSON. A place is the way to it from the root: at each group the number of the child.
`keys` chooses the key of each group by its place. -/
def toJson (keys : List Nat → ChildrenKey) (place : List Nat) : Node → Json
  | .criterion c =>
    .object [("columnId", .str c.columnId), ("columnName", .str c.columnName),
      ("operator", .str c.operator.token), ("value", c.value.toJson)]
  | .group conjunction children =>
    .object [("conjunction", .str conjunction.payloadText),
      ((keys place).name, .array (toJsons keys place 0 children))]

/-- The children of a group as JSON, which are numbered from `i`. -/
def toJsons (keys : List Nat → ChildrenKey) (place : List Nat) : Nat → List Node → List Json
  | _, [] => []
  | i, node :: rest => toJson keys (place ++ [i]) node :: toJsons keys place (i + 1) rest

end

end Node

/-- A tree as JSON. -/
def Group.toJson (keys : List Nat → ChildrenKey) (g : Group) : Json :=
  g.toNode.toJson keys []

/-! ### Conjunctions and operators -/

/-- A conjunction is read from its text. -/
theorem Conjunction.parse_payloadText (c : Conjunction) : parse c.payloadText = .ok c := by
  cases c <;> rfl

/-- An operator is read from its token. -/
theorem Operator.parse_token (o : Operator) : parse o.token = .ok o := by
  have htoken : ofToken? o.token = some o := ofToken?_eq_some_iff.mpr rfl
  rw [parse, htoken]

/-! ### From JSON to payloads -/

namespace Node

mutual

/-- The fields of a node that is written. -/
def payload : Node → Payload
  | .criterion c =>
    ⟨none, [], some c.columnId, some c.columnName, some c.operator.token, c.value⟩
  | .group conjunction children =>
    ⟨some conjunction.payloadText, payloads children, none, none, none, .null⟩

/-- The fields of nodes that are written. -/
def payloads : List Node → List Payload
  | [] => []
  | node :: rest => payload node :: payloads rest

end

/-- A group that is written has children exactly when it did before. -/
theorem isEmpty_payloads (nodes : List Node) : (payloads nodes).isEmpty = nodes.isEmpty := by
  cases nodes with
  | nil => rfl
  | cons node rest => rfl

end Node

/-- The record of a group is read as such, whichever key its children stand under. -/
theorem Payload.ofJson?_group (name : String) (key : ChildrenKey) {items : List Json}
    {ps : List Payload} (h : Payload.list? items = some ps) :
    Payload.ofJson? (.object [("conjunction", .str name), (key.name, .array items)])
      = some ⟨some name, ps, none, none, none, .null⟩ := by
  have hkey : PayloadKey.ofName? key.name = some .filters := by
    cases key <;> rfl
  have hconjunction : PayloadKey.ofName? "conjunction" = some .conjunction := rfl
  simp [Payload.ofJson?, Payload.members?, Payload.field?, hkey, hconjunction, h,
    Payload.blank, Json.optional, Json.text?]

/-- The record of a criterion is read as such, if its value is read back. -/
theorem Payload.ofJson?_criterion (c : Criterion)
    (h : Value.ofJson? c.value.toJson = some c.value) :
    Payload.ofJson? (.object [("columnId", .str c.columnId), ("columnName", .str c.columnName),
      ("operator", .str c.operator.token), ("value", c.value.toJson)])
      = some ⟨none, [], some c.columnId, some c.columnName, some c.operator.token, c.value⟩ := by
  have hid : PayloadKey.ofName? "columnId" = some .columnId := rfl
  have hname : PayloadKey.ofName? "columnName" = some .columnName := rfl
  have hoperator : PayloadKey.ofName? "operator" = some .operator := rfl
  have hvalue : PayloadKey.ofName? "value" = some .value := rfl
  simp [Payload.ofJson?, Payload.members?, Payload.field?, hid, hname, hoperator, hvalue, h,
    Payload.blank, Json.optional, Json.text?]

mutual

/-- The JSON of a node is read as the payload of the node, if its values can be read. -/
theorem Node.ofJson?_toJson (keys : List Nat → ChildrenKey) :
    ∀ (node : Node) (place : List Nat) (depth : Nat),
      (∀ p ∈ node.criteria depth, ∃ j, Value.ofJson? j = some p.2.value) →
      Payload.ofJson? (node.toJson keys place) = some node.payload
  | .criterion c, place, depth, h => by
    obtain ⟨j, hj⟩ := h (depth, c) (List.mem_singleton_self _)
    rw [Node.toJson, Node.payload]
    exact Payload.ofJson?_criterion c (Value.ofJson?_toJson hj)
  | .group conjunction children, place, depth, h => by
    rw [Node.toJson, Node.payload]
    exact Payload.ofJson?_group _ _ (Node.list?_toJsons keys children place 0 (depth + 1) h)

/-- The JSON of the children of a group is read as their payloads. -/
theorem Node.list?_toJsons (keys : List Nat → ChildrenKey) :
    ∀ (nodes : List Node) (place : List Nat) (i depth : Nat),
      (∀ p ∈ Node.criteriaAll depth nodes, ∃ j, Value.ofJson? j = some p.2.value) →
      Payload.list? (Node.toJsons keys place i nodes) = some (Node.payloads nodes)
  | [], place, i, depth, h => by
    rw [Node.toJsons, Payload.list?, Node.payloads]
  | node :: rest, place, i, depth, h => by
    rw [Node.criteriaAll, List.forall_mem_append] at h
    have hnode := Node.ofJson?_toJson keys node (place ++ [i]) depth h.1
    have hrest := Node.list?_toJsons keys rest place (i + 1) depth h.2
    simp [Node.toJsons, Payload.list?, Node.payloads, hnode, hrest]

end

/-! ### From payloads to trees -/

/-- The conjunction of a group is read when the group has children. -/
theorem Payload.group_eq_ok (conjunction : Conjunction) (children : List Node) :
    Payload.group (some conjunction.payloadText) children.isEmpty (.ok (Node.normalForms children))
      = .ok ⟨conjunction.over children, Node.normalForms children⟩ := by
  cases children with
  | nil => rfl
  | cons node rest =>
    have hparse := conjunction.parse_payloadText
    simp [Payload.group, Conjunction.over, hparse, pure, Except.pure, bind, Except.bind]

mutual

/-- The payload of a node gives the normal form of the node. -/
theorem Node.toNode_payload : ∀ (node : Node), node.payload.toNode = .ok node.normalForm
  | .criterion c => by
    have hparse := c.operator.parse_token
    simp [Node.payload, Payload.toNode, Payload.criterion, Node.normalForm, hparse, Except.map,
      pure, Except.pure, bind, Except.bind]
  | .group conjunction children => by
    have hgroup := Payload.group_eq_ok conjunction children
    rw [Node.payload, Payload.toNode, Node.isEmpty_payloads, Node.toNodes_payloads children, hgroup,
      Node.normalForm]
    rfl

/-- The payloads of nodes give the normal forms of the nodes. -/
theorem Node.toNodes_payloads : ∀ (nodes : List Node),
    Payload.toNodes (Node.payloads nodes) = .ok (Node.normalForms nodes)
  | [] => rfl
  | node :: rest => by
    have hnode := Node.toNode_payload node
    have hrest := Node.toNodes_payloads rest
    rw [Node.payloads, Payload.toNodes, hnode, hrest, Node.normalForms]
    rfl

end

/-! ### Whole trees -/

/-- The JSON of a tree is read as the normal form of the tree. -/
theorem Group.ofJson_eq_normalForm {tree : Group} {keys : List Nat → ChildrenKey}
    (hvalues : ∀ p ∈ tree.criteria, ∃ j, Value.ofJson? j = some p.2.value) :
    Group.ofJson (tree.toJson keys) = .ok tree.normalForm := by
  have hread := Node.ofJson?_toJson keys tree.toNode [] 0 hvalues
  have hgroup := Payload.group_eq_ok tree.conjunction tree.children
  rw [Group.ofJson, Group.toJson, hread]
  show Payload.group (some tree.conjunction.payloadText) (Node.payloads tree.children).isEmpty
    (Payload.toNodes (Node.payloads tree.children)) = _
  rw [Node.isEmpty_payloads, Node.toNodes_payloads, hgroup]
  rfl

/-- A tree whose values were read from JSON is read back from its own JSON, under whichever keys
its groups are written. All that changes is the conjunction of groups without children, and what
is read compiles as the tree does. -/
theorem ofJson_toJson (tree : Group) (keys : List Nat → ChildrenKey)
    (hvalues : ∀ p ∈ tree.criteria, ∃ j, Value.ofJson? j = some p.2.value) :
    Group.ofJson (tree.toJson keys) = .ok tree.normalForm ∧
      ∀ (c : Compiler) (anchor : Date),
        (Group.ofJson (tree.toJson keys) >>= fun read => c.compile read anchor)
          = c.compile tree anchor := by
  have hread : Group.ofJson (tree.toJson keys) = .ok tree.normalForm :=
    Group.ofJson_eq_normalForm hvalues
  refine ⟨hread, fun c anchor => ?_⟩
  rw [hread, ← compile_normalForm c tree anchor]
  rfl

/-- A date object with a field of the wrong kind comes through, and so do groups under different
keys; the group without children becomes one of the other conjunction. -/
theorem odd_tree_read_back :
    let value : Value := .date ⟨some (.text "pastWeek"), none, some (.other (.bool true))⟩
    let criterion : Node := .criterion ⟨"day", "", .test .isWithin, value⟩
    let tree : Group := ⟨.any, [criterion, .group .any []]⟩
    let keys : List Nat → ChildrenKey := fun place => if place = [] then .children else .filters
    (∀ p ∈ tree.criteria, ∃ j, Value.ofJson? j = some p.2.value) ∧
      Group.ofJson (tree.toJson keys) = .ok ⟨.any, [criterion, .group .all []]⟩ := by
  intro value criterion tree keys
  have hvalues : ∀ p ∈ tree.criteria, ∃ j, Value.ofJson? j = some p.2.value := by
    intro p hp
    rw [List.mem_singleton.mp hp]
    exact ⟨value.toJson, rfl⟩
  exact ⟨hvalues, (ofJson_toJson tree keys hvalues).1⟩

end RecordFilter
