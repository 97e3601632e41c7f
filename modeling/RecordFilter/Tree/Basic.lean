import RecordFilter.Tree.Operator
import RecordFilter.Tree.Value

/-!
# `RecordFilter.Tree.Basic`: filter trees

A filter tree is a group. The children of a group are criteria and groups, in order.
-/

set_option autoImplicit false

namespace RecordFilter

/-- One test against one column. The name is the one that the column had when the filter was
made, and may be empty. -/
structure Criterion where
  columnId : String
  columnName : String
  operator : Operator
  value : Value
  deriving Inhabited

/-- The name of a criterion's column in messages: its identifier where it has no name. -/
def Criterion.label (c : Criterion) : String :=
  if c.columnName.isEmpty then c.columnId else c.columnName

/-- A node of a filter tree. -/
inductive Node where
  | criterion (criterion : Criterion)
  | group (conjunction : Conjunction) (children : List Node)
  deriving Inhabited

/-- A group, which is also a whole filter tree. -/
structure Group where
  conjunction : Conjunction
  children : List Node
  deriving Inhabited

namespace Group

/-- The group without children. -/
def empty : Group :=
  ⟨.all, []⟩

/-- The group has no children. -/
def isEmpty (g : Group) : Bool :=
  g.children.isEmpty

/-- The group as a node. -/
def toNode (g : Group) : Node :=
  .group g.conjunction g.children

end Group

end RecordFilter
