import RecordFilter.Compile.Basic

/-!
# `RecordFilter.Proofs.Compile.Expansion`: list operators written out

A criterion with a list operator abbreviates a group that holds one criterion for each of its
values. `Criterion.writtenOut` is that group as a filter tree, and `Node.writeOut` puts it in
the place of any choice of criteria. The theorems:

* `lower_writtenOut`: on a column that has list operators, the criterion and its group lower to
  the same tests, or to the same fault.
* `compile_writeOut`: a tree compiles to the same formula, or the same fault, whichever of its
  criteria are written out.
-/

set_option autoImplicit false

namespace RecordFilter

/-- The conjunction and the test that a list operator stands for. -/
def Operator.Many.expansion : Operator.Many → Conjunction × Operator.Test
  | .isAnyOf => (.any, .compare .eq)
  | .isNoneOf => (.all, .compare .ne)
  | .hasAnyOf => (.any, .contains)
  | .hasAllOf => (.all, .contains)
  | .hasNoneOf => (.all, .doesNotContain)

/-- The group that a criterion with a list operator abbreviates: one criterion on the same
column for each value. -/
def Criterion.writtenOut (c : Criterion) (op : Operator.Many) : Group :=
  ⟨op.expansion.1, c.value.toList.map fun v =>
    .criterion { c with operator := .test op.expansion.2, value := v }⟩

/-- The list operator of a criterion that can be written out. Its column has to be available,
and neither a date nor a checkbox. -/
def Criterion.listOperator? (available : List Descriptor) (c : Criterion) :
    Option Operator.Many :=
  match c.operator, Descriptor.lookup? available c.columnId with
  | .many op, some d => if d.type = .date ∨ d.type = .checkbox then none else some op
  | _, _ => none

namespace Node

mutual

/-- Writes out the chosen criteria of a node. A place is the way to it from the root: at each
group the number of the child. -/
def writeOut (available : List Descriptor) (chosen : List Nat → Bool) (place : List Nat) :
    Node → Node
  | .criterion c =>
    match chosen place, c.listOperator? available with
    | true, some op => (c.writtenOut op).toNode
    | _, _ => .criterion c
  | .group conjunction children =>
    .group conjunction (writeOutAll available chosen place 0 children)

/-- Writes out the chosen criteria of the children of a group, which are numbered from `i`. -/
def writeOutAll (available : List Descriptor) (chosen : List Nat → Bool) (place : List Nat) :
    Nat → List Node → List Node
  | _, [] => []
  | i, node :: rest =>
    writeOut available chosen (place ++ [i]) node
      :: writeOutAll available chosen place (i + 1) rest

end

end Node

/-- Writes out the chosen criteria of a whole tree. -/
def Group.writeOut (available : List Descriptor) (chosen : List Nat → Bool) (g : Group) :
    Group :=
  ⟨g.conjunction, Node.writeOutAll available chosen [] 0 g.children⟩

/-! ### Lowering -/

/-- The table of expansions is that of the two tables of the compiler. -/
theorem Operator.Many.expansion_eq (op : Operator.Many) :
    op.expansion = (op.conjunction, op.test) := by
  cases op <;> rfl

/-- Only dates and checkboxes have no list operators. -/
theorem ColumnType.isSingleValued_iff (t : ColumnType) :
    t.isSingleValued = true ↔ t = .date ∨ t = .checkbox := by
  cases t <;> decide

/-- A criterion that can be written out has a list operator and an available column. -/
theorem Criterion.listOperator?_eq_some_iff {available : List Descriptor} {c : Criterion}
    {op : Operator.Many} :
    c.listOperator? available = some op ↔
      c.operator = .many op ∧ ∃ d, Descriptor.lookup? available c.columnId = some d ∧
        d.type.isSingleValued = false := by
  unfold Criterion.listOperator?
  split
  · rename_i op' d hop hd
    rw [hop, hd]
    by_cases h : d.type = .date ∨ d.type = .checkbox
    · have hs := (ColumnType.isSingleValued_iff d.type).mpr h
      simp [h, hs]
    · have hs : d.type.isSingleValued = false := by
        rw [← Bool.not_eq_true, ColumnType.isSingleValued_iff]; exact h
      simp [h, hs]
  · rename_i hne
    constructor
    · intro h; cases h
    · rintro ⟨hop, d, hd, -⟩
      exact absurd hd (hne op d hop)

/-- The tests that a list operator stands for, one for each value, lower one by one. -/
theorem lowerAll_tests (ctx : LoweringContext) (depth : Nat) (c : Criterion) (d : Descriptor)
    (op : Operator.Test) (hd : Descriptor.lookup? ctx.available c.columnId = some d)
    (values : List Value) :
    Node.lowerAll ctx depth
        (values.map fun v => .criterion { c with operator := .test op, value := v })
      = .ok (values.map fun v => .test ⟨c.columnName, d, op, v⟩) := by
  induction values with
  | nil => rfl
  | cons v rest ih =>
    have hfirst : Criterion.lower ctx depth { c with operator := .test op, value := v }
        = .ok (.test ⟨c.columnName, d, op, v⟩) := by
      simp only [Criterion.lower, LoweringContext.column, hd]
      rfl
    rw [List.map_cons, Node.lowerAll, Node.lower, hfirst, ih]
    rfl

/-- A criterion that can be written out lowers as its group does, also where the group would
stand too deep. -/
theorem lower_writtenOut (ctx : LoweringContext) (depth : Nat) (c : Criterion)
    (op : Operator.Many) (h : c.listOperator? ctx.available = some op) :
    (c.writtenOut op).toNode.lower ctx depth = (Node.criterion c).lower ctx depth := by
  obtain ⟨hop, d, hd, hs⟩ := Criterion.listOperator?_eq_some_iff.mp h
  -- Both open a group one level deeper before anything else can fail.
  have hgroup : (c.writtenOut op).toNode.lower ctx depth
      = ctx.enter (depth + 1) >>= fun _ => .ok (c.expand d op) := by
    have hchildren := lowerAll_tests ctx (depth + 1) c d op.expansion.2 hd c.value.toList
    rw [Group.toNode, Node.lower, Criterion.writtenOut, hchildren, op.expansion_eq]
    rfl
  have hcriterion : (Node.criterion c).lower ctx depth
      = ctx.enter (depth + 1) >>= fun _ => .ok (c.expand d op) := by
    rw [Node.lower, Criterion.lower, LoweringContext.column, hd, hop]
    show (if d.type.isSingleValued = true then _ else _) = _
    rw [hs]
    rfl
  rw [hgroup, hcriterion]

mutual

/-- Writing out criteria changes nothing in the lowered tree. -/
theorem Node.lower_writeOut (ctx : LoweringContext) (chosen : List Nat → Bool) :
    ∀ (place : List Nat) (depth : Nat) (node : Node),
      (node.writeOut ctx.available chosen place).lower ctx depth = node.lower ctx depth
  | place, depth, .criterion c => by
    rw [Node.writeOut]
    split
    · rename_i op _ hop
      exact lower_writtenOut ctx depth c op hop
    · rfl
  | place, depth, .group conjunction children => by
    rw [Node.writeOut, Node.lower, Node.lower,
      Node.lowerAll_writeOutAll ctx chosen place (depth + 1) 0 children]

/-- Writing out criteria of the children of a group changes nothing in the lowered children. -/
theorem Node.lowerAll_writeOutAll (ctx : LoweringContext) (chosen : List Nat → Bool) :
    ∀ (place : List Nat) (depth i : Nat) (nodes : List Node),
      Node.lowerAll ctx depth (Node.writeOutAll ctx.available chosen place i nodes)
        = Node.lowerAll ctx depth nodes
  | _, _, _, [] => rfl
  | place, depth, i, node :: rest => by
    rw [Node.writeOutAll, Node.lowerAll, Node.lowerAll,
      Node.lower_writeOut ctx chosen (place ++ [i]) depth node,
      Node.lowerAll_writeOutAll ctx chosen place depth (i + 1) rest]

end

/-! ### Compilation -/

/-- A tree compiles to the same formula, or fails with the same fault, whichever of its criteria
are written out. -/
theorem compile_writeOut (c : Compiler) (tree : Group) (anchor : Date)
    (chosen : List Nat → Bool) :
    c.compile (tree.writeOut c.available chosen) anchor = c.compile tree anchor := by
  have hlower : (tree.writeOut c.available chosen).lower ⟨c.available, c.config.maxDepth⟩
      = tree.lower ⟨c.available, c.config.maxDepth⟩ := by
    have h := Node.lower_writeOut ⟨c.available, c.config.maxDepth⟩ chosen [] 0 tree.toNode
    rwa [Group.toNode, Node.writeOut] at h
  unfold Compiler.compile Compiler.formula?
  rw [hlower]

end RecordFilter
