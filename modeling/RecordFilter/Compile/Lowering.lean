import RecordFilter.Available.Descriptor
import RecordFilter.Fault
import RecordFilter.Tree.Basic

/-!
# `RecordFilter.Compile.Lowering`: trees of single tests

Lowering looks up the column of every criterion and replaces each criterion with a list of values
by the group that it abbreviates, one test for each value. It also bounds the nesting of groups:
the root has depth 1, and the group of a criterion is one deeper than the group around the
criterion, also when it has no values. The first fault in document order is reported.
-/

set_option autoImplicit false

namespace RecordFilter

/-- A test of one value against a column. -/
structure ColumnTest where
  columnName : String
  column : Descriptor
  operator : Operator.Test
  value : Value

/-- A tree of single tests. -/
inductive Lowered where
  | test (test : ColumnTest)
  | group (conjunction : Conjunction) (children : List Lowered)

/-- The columns that criteria may use, and the greatest depth of a group. -/
structure LoweringContext where
  available : List Descriptor
  maxDepth : Nat

namespace LoweringContext

/-- A group may stand at this depth. -/
def enter (ctx : LoweringContext) (depth : Nat) : Except FilterFault Unit :=
  if depth ≤ ctx.maxDepth then .ok () else .error (.tooDeep ctx.maxDepth)

/-- The column of a criterion. -/
def column (ctx : LoweringContext) (c : Criterion) : Except FilterFault Descriptor :=
  match Descriptor.lookup? ctx.available c.columnId with
  | some d => .ok d
  | none => .error (.notAvailable c.label)

end LoweringContext

/-- The operator does not apply to the column. -/
def unsupported (operator : Operator) (d : Descriptor) : FilterFault :=
  .unsupportedOperator operator.token (some d.type)

/-- The group that a criterion with a list of values abbreviates. -/
def Criterion.expand (c : Criterion) (d : Descriptor) (op : Operator.Many) : Lowered :=
  .group op.conjunction (c.value.toList.map fun v => .test ⟨c.columnName, d, op.test, v⟩)

/-- Lowers a criterion in a group of the given depth. -/
def Criterion.lower (ctx : LoweringContext) (depth : Nat) (c : Criterion) :
    Except FilterFault Lowered := do
  let d ← ctx.column c
  match c.operator with
  | .test op => return .test ⟨c.columnName, d, op, c.value⟩
  | .many op =>
    if d.type.isSingleValued then throw (unsupported (.many op) d)
    else
      ctx.enter (depth + 1)
      return c.expand d op

namespace Node

mutual

/-- Lowers a node in a group of the given depth. -/
def lower (ctx : LoweringContext) (depth : Nat) : Node → Except FilterFault Lowered
  | .criterion c => c.lower ctx depth
  | .group conjunction children => do
    ctx.enter (depth + 1)
    let children ← lowerAll ctx (depth + 1) children
    return .group conjunction children

/-- Lowers the children of a group of the given depth. -/
def lowerAll (ctx : LoweringContext) (depth : Nat) :
    List Node → Except FilterFault (List Lowered)
  | [] => .ok []
  | node :: rest => do
    let child ← lower ctx depth node
    let children ← lowerAll ctx depth rest
    return child :: children

end

end Node

/-- Lowers a whole tree. -/
def Group.lower (ctx : LoweringContext) (g : Group) : Except FilterFault Lowered :=
  g.toNode.lower ctx 0

end RecordFilter
