import RecordFilter.Proofs.Compile.Expansion
import RecordFilter.Proofs.Compile.Tests

/-!
# `RecordFilter.Proofs.Compile.Yields`: the rules for trees

`Node.Yields` says which formula a node of a filter tree has: rules without passes, without a
lowered tree and without faults. A node without a rule does not compile. The group that a list
operator abbreviates is spelled by `Operator.Many.expansion`, and `Conjunction.Joins` says that a
group without tests has no formula.

* `lower_formula?_iff`: lowering a node and making formulas of its tests gives exactly what the
  rules give. The proof follows the tree.
* `compile_eq_ok_iff`: a tree compiles to a text exactly when the rules give a formula with that
  text, or no formula and the text is empty.
-/

set_option autoImplicit false

namespace RecordFilter

open RecordFilter.Proofs.Support

/-- Of some formulas a conjunction makes the group of all of them, in order. Of no formulas it makes
nothing. -/
inductive Conjunction.Joins (conjunction : Conjunction) : List Formula → Option Formula → Prop
  | nothing : Joins conjunction [] none
  | group (first : Formula) (rest : List Formula) :
    Joins conjunction (first :: rest) (some (.group conjunction (first :: rest)))

mutual

/-- The formula of a node that stands in a group of the given depth, if it has a test. -/
inductive Node.Yields (ctx : LoweringContext) (dates : DateContext) :
    Nat → Node → Option Formula → Prop
  | test {depth : Nat} {c : Criterion} {op : Operator.Test} {d : Descriptor} {a : Atom}
    (hop : c.operator = .test op) (hd : Descriptor.IsLast ctx.available c.columnId d)
    (ha : AtomRule dates d.type c.columnName op c.value a) :
    Node.Yields ctx dates depth (.criterion c) (some (.atom a))
  | many {depth : Nat} {c : Criterion} {op : Operator.Many} {d : Descriptor} {atoms : List Atom}
    {o : Option Formula} (hop : c.operator = .many op)
    (hd : Descriptor.IsLast ctx.available c.columnId d)
    (htype : d.type.isSingleValued = false) (hdepth : depth + 1 ≤ ctx.maxDepth)
    (hatoms : List.Forall₂ (AtomRule dates d.type c.columnName op.expansion.2)
      c.value.toList atoms)
    (ho : op.expansion.1.Joins (atoms.map .atom) o) :
    Node.Yields ctx dates depth (.criterion c) o
  | group {depth : Nat} {conjunction : Conjunction} {children : List Node}
    {parts : List Formula} {o : Option Formula} (hdepth : depth + 1 ≤ ctx.maxDepth)
    (hparts : Node.YieldsAll ctx dates (depth + 1) children parts)
    (ho : conjunction.Joins parts o) :
    Node.Yields ctx dates depth (.group conjunction children) o

/-- The formulas of the children of a group of the given depth, in order. -/
inductive Node.YieldsAll (ctx : LoweringContext) (dates : DateContext) :
    Nat → List Node → List Formula → Prop
  | nil {depth : Nat} : Node.YieldsAll ctx dates depth [] []
  | cons {depth : Nat} {node : Node} {rest : List Node} {first : Option Formula}
    {others : List Formula} (hfirst : Node.Yields ctx dates depth node first)
    (hrest : Node.YieldsAll ctx dates depth rest others) :
    Node.YieldsAll ctx dates depth (node :: rest) (first.toList ++ others)

end

/-- The formula of a whole tree. The root stands in no group. -/
def Group.Yields (c : Compiler) (anchor : Date) (g : Group) (o : Option Formula) : Prop :=
  g.toNode.Yields ⟨c.available, c.config.maxDepth⟩ ⟨anchor, c.config.weekStartsOn⟩ 0 o

variable {ctx : LoweringContext} {dates : DateContext}

/-! ### Conjunctions of formulas -/

/-- The compiler joins formulas as the rules say. -/
theorem joins_iff {conjunction : Conjunction} {parts : List Formula} {o : Option Formula} :
    conjunction.Joins parts o ↔ o = Lowered.groupFormula? conjunction parts := by
  constructor
  · intro h
    cases h with
    | nothing => rfl
    | group => rfl
  · rintro rfl
    cases parts with
    | nil => exact .nothing
    | cons first rest => exact .group first rest

/-- A conjunction makes one thing of some formulas, or nothing. -/
theorem Conjunction.Joins.unique {conjunction : Conjunction} {parts : List Formula}
    {o o' : Option Formula} (h : conjunction.Joins parts o) (h' : conjunction.Joins parts o') :
    o = o' := by
  rw [joins_iff.mp h, joins_iff.mp h']

/-- Whatever the formulas are, a conjunction makes something of them, or nothing. -/
theorem Conjunction.exists_joins (conjunction : Conjunction) (parts : List Formula) :
    ∃ o, conjunction.Joins parts o :=
  ⟨_, joins_iff.mpr rfl⟩

/-! ### Criteria with a known column -/

/-- A criterion without a column has no rule. -/
theorem Node.Yields.exists_column {depth : Nat} {c : Criterion} {o : Option Formula}
    (h : (Node.criterion c).Yields ctx dates depth o) :
    ∃ d, Descriptor.IsLast ctx.available c.columnId d := by
  cases h with
  | test _ hd | many _ hd => exact ⟨_, hd⟩

/-- A criterion with a test yields the formula of the test. -/
theorem yields_test_iff {depth : Nat} {c : Criterion} {op : Operator.Test} {d : Descriptor}
    {o : Option Formula} (hop : c.operator = .test op)
    (hd : Descriptor.IsLast ctx.available c.columnId d) :
    (Node.criterion c).Yields ctx dates depth o ↔
      ∃ a, AtomRule dates d.type c.columnName op c.value a ∧ o = some (.atom a) := by
  constructor
  · intro h
    cases h with
    | test hop' hd' ha =>
      rw [hop] at hop'
      cases hop'
      cases hd.unique hd'
      exact ⟨_, ha, rfl⟩
    | many hop' => rw [hop] at hop'; cases hop'
  · rintro ⟨a, ha, rfl⟩
    exact .test hop hd ha

/-- A criterion with a list operator yields the group of its tests, where there may be one. -/
theorem yields_many_iff {depth : Nat} {c : Criterion} {op : Operator.Many} {d : Descriptor}
    {o : Option Formula} (hop : c.operator = .many op)
    (hd : Descriptor.IsLast ctx.available c.columnId d) :
    (Node.criterion c).Yields ctx dates depth o ↔
      d.type.isSingleValued = false ∧ depth + 1 ≤ ctx.maxDepth ∧
        ∃ atoms, List.Forall₂ (AtomRule dates d.type c.columnName op.expansion.2)
          c.value.toList atoms ∧ op.expansion.1.Joins (atoms.map .atom) o := by
  constructor
  · intro h
    cases h with
    | test hop' => rw [hop] at hop'; cases hop'
    | many hop' hd' htype hdepth hatoms ho =>
      rw [hop] at hop'
      cases hop'
      cases hd.unique hd'
      exact ⟨htype, hdepth, _, hatoms, ho⟩
  · rintro ⟨htype, hdepth, atoms, hatoms, ho⟩
    exact .many hop hd htype hdepth hatoms ho

/-! ### Groups -/

/-- A group yields the formula of its children, where there may be a group. -/
theorem yields_group_iff {depth : Nat} {conjunction : Conjunction} {children : List Node}
    {o : Option Formula} :
    (Node.group conjunction children).Yields ctx dates depth o ↔
      depth + 1 ≤ ctx.maxDepth ∧ ∃ parts,
        Node.YieldsAll ctx dates (depth + 1) children parts ∧ conjunction.Joins parts o := by
  constructor
  · intro h
    cases h with
    | group hdepth hparts ho => exact ⟨hdepth, _, hparts, ho⟩
  · rintro ⟨hdepth, parts, hparts, ho⟩
    exact .group hdepth hparts ho

/-- The children of a group yield the formula of the first one, if it has one, and those of the
others. -/
theorem yieldsAll_cons_iff {depth : Nat} {node : Node} {rest : List Node}
    {parts : List Formula} :
    Node.YieldsAll ctx dates depth (node :: rest) parts ↔
      ∃ first others, node.Yields ctx dates depth first ∧
        Node.YieldsAll ctx dates depth rest others ∧ parts = first.toList ++ others := by
  constructor
  · intro h
    cases h with
    | cons hfirst hrest => exact ⟨_, _, hfirst, hrest, rfl⟩
  · rintro ⟨first, others, hfirst, hrest, rfl⟩
    exact .cons hfirst hrest

/-! ### The compiler follows the rules -/

/-- A group is entered where it stands no deeper than the limit. -/
theorem enter_eq_ok_iff {depth : Nat} {u : Unit} :
    ctx.enter depth = .ok u ↔ depth ≤ ctx.maxDepth := by
  unfold LoweringContext.enter
  split <;> simp [*]

/-- The formulas of tests that differ only in the value. -/
theorem formulas_tests_iff {name : String} {d : Descriptor} {op : Operator.Test}
    {values : List Value} {parts : List Formula} :
    Lowered.formulas dates (values.map fun v => .test ⟨name, d, op, v⟩) = .ok parts ↔
      ∃ atoms, List.Forall₂ (AtomRule dates d.type name op) values atoms ∧
        parts = atoms.map .atom := by
  induction values generalizing parts with
  | nil =>
    constructor
    · intro h; cases h; exact ⟨[], .nil, rfl⟩
    · rintro ⟨atoms, hatoms, rfl⟩; cases hatoms; rfl
  | cons v rest ih =>
    rw [List.map_cons, Lowered.formulas, bind_eq_ok_iff]
    constructor
    · rintro ⟨first, hfirst, h⟩
      obtain ⟨others, hothers, h⟩ := bind_eq_ok_iff.mp h
      obtain ⟨a, ha, hsome⟩ := bind_eq_ok_iff.mp hfirst
      obtain ⟨atoms, hatoms, rfl⟩ := ih.mp hothers
      cases hsome; cases h
      exact ⟨a :: atoms, .cons (atom_eq_ok_iff.mp ha) hatoms, rfl⟩
    · rintro ⟨atoms, hatoms, rfl⟩
      cases hatoms with
      | @cons _ a _ atoms ha hatoms =>
        refine ⟨some (.atom a), ?_, bind_eq_ok_iff.mpr ⟨_, ih.mpr ⟨atoms, hatoms, rfl⟩, rfl⟩⟩
        exact bind_eq_ok_iff.mpr ⟨a, atom_eq_ok_iff.mpr ha, rfl⟩

/-- The formula of a lowered group comes from those of its children. -/
theorem formula?_group_iff {conjunction : Conjunction} {children : List Lowered}
    {o : Option Formula} :
    (Lowered.group conjunction children).formula? dates = .ok o ↔
      ∃ parts, Lowered.formulas dates children = .ok parts ∧ conjunction.Joins parts o := by
  rw [Lowered.formula?, bind_eq_ok_iff]
  simp only [joins_iff]
  constructor
  · rintro ⟨parts, hparts, h⟩; cases h; exact ⟨parts, hparts, rfl⟩
  · rintro ⟨parts, hparts, rfl⟩; exact ⟨parts, hparts, rfl⟩

/-- A criterion lowers to a test of its column, or to the group of its values. -/
theorem criterion_lower_iff {depth : Nat} {c : Criterion} {l : Lowered} :
    c.lower ctx depth = .ok l ↔
      ∃ d, Descriptor.IsLast ctx.available c.columnId d ∧
        ((∃ op, c.operator = .test op ∧ l = .test ⟨c.columnName, d, op, c.value⟩) ∨
          ∃ op, c.operator = .many op ∧ d.type.isSingleValued = false ∧
            depth + 1 ≤ ctx.maxDepth ∧ l = c.expand d op) := by
  rw [Criterion.lower, bind_eq_ok_iff]
  refine exists_congr fun d => and_congr column_eq_ok_iff ?_
  cases hop : c.operator with
  | test op =>
    constructor
    · intro h; cases h; exact .inl ⟨op, rfl, rfl⟩
    · rintro (⟨_, h, rfl⟩ | ⟨_, h, -⟩)
      · cases h; rfl
      · cases h
  | many op =>
    cases hs : d.type.isSingleValued with
    | true => simp [throw, throwThe, MonadExceptOf.throw]
    | false =>
      simp only [Bool.false_eq_true, if_false, bind_eq_ok_iff, enter_eq_ok_iff]
      constructor
      · rintro ⟨_, hdepth, h⟩; cases h; exact .inr ⟨op, rfl, trivial, hdepth, rfl⟩
      · rintro (⟨_, h, -⟩ | ⟨_, h, -, hdepth, rfl⟩)
        · cases h
        · cases h; exact ⟨(), hdepth, rfl⟩

/-- A criterion compiles as the rules say. -/
theorem criterion_lower_formula?_iff {depth : Nat} {c : Criterion} {o : Option Formula} :
    (∃ l, c.lower ctx depth = .ok l ∧ l.formula? dates = .ok o) ↔
      (Node.criterion c).Yields ctx dates depth o := by
  constructor
  · rintro ⟨l, hl, ho⟩
    obtain ⟨d, hd, ⟨op, hop, rfl⟩ | ⟨op, hop, htype, hdepth, rfl⟩⟩ := criterion_lower_iff.mp hl
    · obtain ⟨a, ha, hsome⟩ := bind_eq_ok_iff.mp ho
      cases hsome
      exact .test hop hd (atom_eq_ok_iff.mp ha)
    · obtain ⟨parts, hparts, hjoins⟩ := formula?_group_iff.mp ho
      obtain ⟨atoms, hatoms, rfl⟩ := formulas_tests_iff.mp hparts
      have hop' := op.expansion_eq
      exact .many hop hd htype hdepth (by rw [hop']; exact hatoms) (by rw [hop']; exact hjoins)
  · intro h
    cases h with
    | @test _ _ op d a hop hd ha =>
      refine ⟨_, criterion_lower_iff.mpr ⟨d, hd, .inl ⟨op, hop, rfl⟩⟩, ?_⟩
      exact bind_eq_ok_iff.mpr ⟨a, atom_eq_ok_iff.mpr ha, rfl⟩
    | @many _ _ op d atoms _ hop hd htype hdepth hatoms hjoins =>
      refine ⟨_, criterion_lower_iff.mpr ⟨d, hd, .inr ⟨op, hop, htype, hdepth, rfl⟩⟩, ?_⟩
      rw [op.expansion_eq] at hatoms hjoins
      exact formula?_group_iff.mpr ⟨_, formulas_tests_iff.mpr ⟨atoms, hatoms, rfl⟩, hjoins⟩

mutual

/-- A node compiles as the rules say. -/
theorem lower_formula?_iff : ∀ (node : Node) {depth : Nat} {o : Option Formula},
    (∃ l, node.lower ctx depth = .ok l ∧ l.formula? dates = .ok o) ↔
      node.Yields ctx dates depth o
  | .criterion c, depth, o => by
    rw [Node.lower]
    exact criterion_lower_formula?_iff
  | .group conjunction children, depth, o => by
    rw [Node.lower]
    constructor
    · rintro ⟨l, hl, ho⟩
      obtain ⟨_, henter, hl⟩ := bind_eq_ok_iff.mp hl
      obtain ⟨lowered, hlowered, h⟩ := bind_eq_ok_iff.mp hl
      cases h
      obtain ⟨parts, hparts, hjoins⟩ := formula?_group_iff.mp ho
      exact .group (enter_eq_ok_iff.mp henter)
        ((lowerAll_formulas_iff children).mp ⟨lowered, hlowered, hparts⟩) hjoins
    · intro h
      cases h with
      | group hdepth hparts hjoins =>
        obtain ⟨lowered, hlowered, hparts⟩ := (lowerAll_formulas_iff children).mpr hparts
        refine ⟨.group conjunction lowered, ?_, formula?_group_iff.mpr ⟨_, hparts, hjoins⟩⟩
        rw [bind_eq_ok_iff]
        exact ⟨(), enter_eq_ok_iff.mpr hdepth, bind_eq_ok_iff.mpr ⟨lowered, hlowered, rfl⟩⟩

/-- The children of a group compile as the rules say. -/
theorem lowerAll_formulas_iff : ∀ (nodes : List Node) {depth : Nat} {parts : List Formula},
    (∃ ls, Node.lowerAll ctx depth nodes = .ok ls ∧ Lowered.formulas dates ls = .ok parts) ↔
      Node.YieldsAll ctx dates depth nodes parts
  | [], depth, parts => by
    constructor
    · rintro ⟨ls, hls, hparts⟩
      cases hls; cases hparts
      exact .nil
    · intro h
      cases h
      exact ⟨[], rfl, rfl⟩
  | node :: rest, depth, parts => by
    rw [Node.lowerAll]
    constructor
    · -- Both passes go through the children in order, so each child is split off from both.
      rintro ⟨ls, hls, hparts⟩
      obtain ⟨l, hl, hls⟩ := bind_eq_ok_iff.mp hls
      obtain ⟨ls, hrest, h⟩ := bind_eq_ok_iff.mp hls
      cases h
      obtain ⟨first, hfirst, hparts⟩ := bind_eq_ok_iff.mp hparts
      obtain ⟨others, hothers, h⟩ := bind_eq_ok_iff.mp hparts
      cases h
      exact .cons ((lower_formula?_iff node).mp ⟨l, hl, hfirst⟩)
        ((lowerAll_formulas_iff rest).mp ⟨ls, hrest, hothers⟩)
    · intro h
      cases h with
      | cons hfirst hothers =>
        obtain ⟨l, hl, hfirst⟩ := (lower_formula?_iff node).mpr hfirst
        obtain ⟨ls, hrest, hothers⟩ := (lowerAll_formulas_iff rest).mpr hothers
        refine ⟨l :: ls, ?_, ?_⟩
        · exact bind_eq_ok_iff.mpr ⟨l, hl, bind_eq_ok_iff.mpr ⟨ls, hrest, rfl⟩⟩
        · exact bind_eq_ok_iff.mpr ⟨_, hfirst, bind_eq_ok_iff.mpr ⟨_, hothers, rfl⟩⟩

end

/-! ### Whole trees -/

/-- The text of a formula, or the empty text. -/
def textOf (o : Option Formula) : String :=
  (o.map Formula.text).getD ""

/-- The compiler makes the formula that the rules give. -/
theorem formula?_eq_ok_iff {c : Compiler} {tree : Group} {anchor : Date} {o : Option Formula} :
    c.formula? tree anchor = .ok o ↔ tree.Yields c anchor o := by
  rw [Compiler.formula?, bind_eq_ok_iff]
  exact lower_formula?_iff tree.toNode

/-- A tree compiles to a text exactly when the rules give a formula with that text. -/
theorem compile_eq_ok_iff {c : Compiler} {tree : Group} {anchor : Date} {text : String} :
    c.compile tree anchor = .ok text ↔ ∃ o, tree.Yields c anchor o ∧ textOf o = text := by
  rw [Compiler.compile, map_eq_ok_iff]
  exact exists_congr fun o => and_congr_left' formula?_eq_ok_iff

end RecordFilter
