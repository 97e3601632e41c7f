import RecordFilter.Proofs.Compile.Agreement

/-!
# `RecordFilter.Proofs.Compile.OtherValues`: trees that differ in the values of criteria

`Node.Revalued R` relates a node to the same node with other values in its criteria, where `R` says
which value may stand in a criterion instead of its own. Any number of criteria may have another
value, and as `R` may allow the same value, any others may keep theirs.

* `Criterion.keeps_of_atoms`: a criterion has the same outcome with another value when its tests
  have the same formulas, one by one.
* `compile_eq_of_revalued`: then so does the whole tree.
-/

set_option autoImplicit false

namespace RecordFilter

open RecordFilter.Proofs.Support

mutual

/-- The second node is the first one with other values in its criteria. -/
inductive Node.Revalued (R : Criterion → Value → Prop) : Node → Node → Prop
  | criterion {c : Criterion} {w : Value} (h : R c w) :
    Node.Revalued R (.criterion c) (.criterion { c with value := w })
  | group {conjunction : Conjunction} {children others : List Node}
    (h : Node.AllRevalued R children others) :
    Node.Revalued R (.group conjunction children) (.group conjunction others)

/-- The nodes of the second list are those of the first one with other values in their criteria. -/
inductive Node.AllRevalued (R : Criterion → Value → Prop) : List Node → List Node → Prop
  | nil : Node.AllRevalued R [] []
  | cons {node other : Node} {nodes others : List Node} (h : Node.Revalued R node other)
    (hrest : Node.AllRevalued R nodes others) : Node.AllRevalued R (node :: nodes) (other :: others)

end

/-- The second tree is the first one with other values in its criteria. -/
def Group.Revalued (R : Criterion → Value → Prop) (tree other : Group) : Prop :=
  Node.Revalued R tree.toNode other.toNode

variable {R : Criterion → Value → Prop} {s : Surroundings} {maxDepth : Nat}

/-! ### Criteria -/

/-- A criterion has the same outcome with the other value, wherever it stands. -/
def Criterion.Keeps (s : Surroundings) (maxDepth : Nat) (c : Criterion) (w : Value) : Prop :=
  ∀ depth, SameOutcome (Lowered.Agrees s s) (c.lower ⟨s.available, maxDepth⟩ depth)
    (Criterion.lower ⟨s.available, maxDepth⟩ depth { c with value := w })

/-- A criterion keeps its outcome with its own value. -/
theorem Criterion.keeps_self (c : Criterion) : c.Keeps s maxDepth c.value := by
  intro depth
  show SameOutcome _ (c.lower _ depth) (c.lower _ depth)
  cases c.lower ⟨s.available, maxDepth⟩ depth with
  | ok l => exact .ok rfl
  | error fault => exact .error fault

/-- Tests that have the same formulas one by one make groups with the same formula. -/
theorem expand_agrees_of_forall₂ {c : Criterion} {w : Value} {d : Descriptor}
    {op : Operator.Many} (h : List.Forall₂ (fun v v' =>
      (ColumnTest.mk c.columnName d op.test v).atom s.dates
        = (ColumnTest.mk c.columnName d op.test v').atom s.dates) c.value.toList w.toList) :
    Lowered.Agrees s s (c.expand d op) (Criterion.expand { c with value := w } d op) := by
  refine Lowered.agrees_group ?_
  -- The induction is on the two lists of values side by side.
  show Lowered.formulas _ (c.value.toList.map _) = Lowered.formulas _ (w.toList.map _)
  generalize c.value.toList = values at h
  generalize w.toList = others at h
  induction h with
  | nil => rfl
  | cons hv _ ih =>
    rw [List.map_cons, List.map_cons, Lowered.formulas, Lowered.formulas, ih, Lowered.formula?,
      Lowered.formula?, hv]

/-- A criterion has the same outcome with another value when its tests have the same formulas. -/
theorem Criterion.keeps_of_atoms {c : Criterion} {w : Value}
    (htest : ∀ d op, Descriptor.IsLast s.available c.columnId d → c.operator = .test op →
      (ColumnTest.mk c.columnName d op c.value).atom s.dates
        = (ColumnTest.mk c.columnName d op w).atom s.dates)
    (hmany : ∀ d op, Descriptor.IsLast s.available c.columnId d → c.operator = .many op →
      d.type.isSingleValued = false →
      List.Forall₂ (fun v v' => (ColumnTest.mk c.columnName d op.test v).atom s.dates
        = (ColumnTest.mk c.columnName d op.test v').atom s.dates) c.value.toList w.toList) :
    c.Keeps s maxDepth w := by
  intro depth
  unfold Criterion.lower LoweringContext.column
  cases hlookup : Descriptor.lookup? s.available c.columnId with
  | none => exact .error _
  | some d =>
    have hd := Descriptor.lookup?_eq_some_iff.mp hlookup
    cases hop : c.operator with
    | test op =>
      refine .ok ?_
      show Lowered.formula? _ _ = Lowered.formula? _ _
      rw [Lowered.formula?, Lowered.formula?, htest d op hd hop]
    | many op =>
      -- The column refuses the operator whatever the value is, or the values are expanded.
      show SameOutcome _
        (if d.type.isSingleValued then .error (unsupported (.many op) d) else _ >>= _)
        (if d.type.isSingleValued then .error (unsupported (.many op) d) else _ >>= _)
      cases hs : d.type.isSingleValued with
      | true => exact .error _
      | false =>
        refine (SameOutcome.refl _).bind fun _ _ _ => .ok ?_
        exact expand_agrees_of_forall₂ (hmany d op hd hop hs)

/-! ### Trees -/

mutual

/-- A node has the same outcome with other values if its criteria do. -/
theorem Node.lower_revalued (hR : ∀ c w, R c w → c.Keeps s maxDepth w) :
    ∀ {node other : Node}, Node.Revalued R node other → ∀ depth,
      SameOutcome (Lowered.Agrees s s) (node.lower ⟨s.available, maxDepth⟩ depth)
        (other.lower ⟨s.available, maxDepth⟩ depth)
  | _, _, .criterion h, depth => by
    rw [Node.lower, Node.lower]
    exact hR _ _ h depth
  | _, _, .group h, depth => by
    have hchildren := Node.lowerAll_revalued hR h (depth + 1)
    rw [Node.lower, Node.lower]
    refine (SameOutcome.refl _).bind fun _ _ _ => hchildren.bind fun ls ms hls => ?_
    exact .ok (Lowered.agrees_group hls)

/-- The children of a group have the same outcome with other values if their criteria do. -/
theorem Node.lowerAll_revalued (hR : ∀ c w, R c w → c.Keeps s maxDepth w) :
    ∀ {nodes others : List Node}, Node.AllRevalued R nodes others → ∀ depth,
      SameOutcome (fun ls ms => Lowered.formulas s.dates ls = Lowered.formulas s.dates ms)
        (Node.lowerAll ⟨s.available, maxDepth⟩ depth nodes)
        (Node.lowerAll ⟨s.available, maxDepth⟩ depth others)
  | _, _, .nil, _ => .ok rfl
  | _, _, .cons h hrest, depth => by
    have hnode := Node.lower_revalued hR h depth
    have hnodes := Node.lowerAll_revalued hR hrest depth
    rw [Node.lowerAll, Node.lowerAll]
    refine hnode.bind fun l m hl => hnodes.bind fun ls ms hls => .ok ?_
    have hl : l.formula? s.dates = m.formula? s.dates := hl
    rw [Lowered.formulas, Lowered.formulas, hls, hl]

end

/-- A tree has the same outcome with other values in its criteria if each criterion does. -/
theorem compile_eq_of_revalued {c : Compiler} {tree other : Group} {anchor : Date}
    (hR : ∀ criterion w, R criterion w → criterion.Keeps
      ⟨c.available, ⟨anchor, c.config.weekStartsOn⟩⟩ c.config.maxDepth w)
    (h : tree.Revalued R other) : c.compile tree anchor = c.compile other anchor := by
  have hlower := Node.lower_revalued hR h 0
  unfold Compiler.compile Compiler.formula? Group.lower
  exact congrArg _ (hlower.bind_eq fun l m hl => hl)

end RecordFilter
