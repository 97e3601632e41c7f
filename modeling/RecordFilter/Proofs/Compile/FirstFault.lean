import RecordFilter.Proofs.Compile.Yields
import RecordFilter.Proofs.Support.First
import RecordFilter.Proofs.Tree.Places

/-!
# `RecordFilter.Proofs.Compile.FirstFault`: which fault is reported

A tree can be at fault in many places, and one fault is reported. A place is at fault on its own:
`Place.Fails` says when, and for which reason. If a place is at fault, the first one in the order
in which the tree is written is reported. Only if none is, the first test without a formula is,
where a criterion with a list operator counts as one test for each value.

* `lower_eq_error_iff`: lowering a node reports the first place at fault. The proof follows the
  tree.
* `tests_of_lower`: lowering a node keeps the tests of its criteria, in order.
* `formula?_eq_error_iff`: making formulas reports the first test without one.
* `compile_eq_error_iff`: the two together. A criterion without a column is reported however bad
  the values before it are.
-/

set_option autoImplicit false

namespace RecordFilter

open RecordFilter.Proofs.Support

/-! ### Faults of places -/

/-- What is wrong with a place, without regard to any other place. A criterion is only asked for
its type when it has a column, and only asked for room when its type has list operators. -/
inductive Place.Fails (ctx : LoweringContext) : Place → FilterFault → Prop
  | groupTooDeep {depth : Nat} (h : ctx.maxDepth < depth) :
    Place.Fails ctx (.group depth) (.tooDeep ctx.maxDepth)
  | notAvailable {depth : Nat} {c : Criterion} (h : ∀ d ∈ ctx.available, d.id ≠ c.columnId) :
    Place.Fails ctx (.criterion depth c)
      (.notAvailable (if c.columnName = "" then c.columnId else c.columnName))
  | unsupported {depth : Nat} {c : Criterion} {op : Operator.Many} {d : Descriptor}
    (hop : c.operator = .many op) (hd : Descriptor.IsLast ctx.available c.columnId d)
    (htype : d.type = .date ∨ d.type = .checkbox) :
    Place.Fails ctx (.criterion depth c) (.unsupportedOperator op.token (some d.type))
  | tooDeep {depth : Nat} {c : Criterion} {op : Operator.Many} {d : Descriptor}
    (hop : c.operator = .many op) (hd : Descriptor.IsLast ctx.available c.columnId d)
    (hdate : d.type ≠ .date) (hcheckbox : d.type ≠ .checkbox) (h : ctx.maxDepth < depth + 1) :
    Place.Fails ctx (.criterion depth c) (.tooDeep ctx.maxDepth)

variable {ctx : LoweringContext} {dates : DateContext} {fault : FilterFault}

/-- A group is refused where it stands deeper than the limit. -/
theorem enter_eq_error_iff {depth : Nat} :
    ctx.enter depth = .error fault ↔ ctx.maxDepth < depth ∧ fault = .tooDeep ctx.maxDepth := by
  unfold LoweringContext.enter
  by_cases h : depth ≤ ctx.maxDepth
  · simp [Nat.not_lt_of_le h, h]
  · simp [Nat.lt_of_not_le h, h, eq_comm]

/-- An identifier has no column exactly when no descriptor has it. -/
theorem lookup?_eq_none_iff {available : List Descriptor} {id : String} :
    Descriptor.lookup? available id = none ↔ ∀ d ∈ available, d.id ≠ id := by
  simp [Descriptor.lookup?]

/-- A criterion is reported by its column's name, or by the identifier where there is no name. -/
theorem Criterion.label_eq (c : Criterion) :
    c.label = if c.columnName = "" then c.columnId else c.columnName := by
  simp [Criterion.label]

/-- A group fails when it stands too deep. -/
theorem fails_group_iff {depth : Nat} :
    Place.Fails ctx (.group depth) fault ↔
      ctx.maxDepth < depth ∧ fault = .tooDeep ctx.maxDepth := by
  constructor
  · intro h
    cases h with
    | groupTooDeep h => exact ⟨h, rfl⟩
  · intro ⟨h, hfault⟩
    rw [hfault]
    exact .groupTooDeep h

/-- A criterion without a column fails for this reason only. -/
theorem fails_iff_of_no_column {depth : Nat} {c : Criterion}
    (h : ∀ d ∈ ctx.available, d.id ≠ c.columnId) :
    Place.Fails ctx (.criterion depth c) fault ↔ fault = .notAvailable c.label := by
  rw [c.label_eq]
  constructor
  · intro hfails
    cases hfails with
    | notAvailable => rfl
    | unsupported _ hd | tooDeep _ hd =>
      -- The other faults of a criterion need a column.
      rw [← lookup?_eq_none_iff, Descriptor.lookup?_eq_some_iff.mpr hd] at h
      cases h
  · intro hfault
    rw [hfault]
    exact .notAvailable h

/-- A criterion with a column fails only with a list operator: on a column without list
operators, or else for want of room. -/
theorem fails_iff_of_column {depth : Nat} {c : Criterion} {d : Descriptor}
    (hd : Descriptor.IsLast ctx.available c.columnId d) :
    Place.Fails ctx (.criterion depth c) fault ↔ ∃ op, c.operator = .many op ∧
      (d.type.isSingleValued = true ∧ fault = unsupported (.many op) d ∨
        d.type.isSingleValued = false ∧ ctx.maxDepth < depth + 1 ∧
          fault = .tooDeep ctx.maxDepth) := by
  have hlookup := Descriptor.lookup?_eq_some_iff.mpr hd
  constructor
  · intro h
    cases h with
    | notAvailable h =>
      rw [← lookup?_eq_none_iff, hlookup] at h
      cases h
    | @unsupported _ _ op _ hop hd' htype =>
      cases hd.unique hd'
      exact ⟨op, hop, .inl ⟨(ColumnType.isSingleValued_iff d.type).mpr htype, rfl⟩⟩
    | @tooDeep _ _ op _ hop hd' hdate hcheckbox h =>
      cases hd.unique hd'
      have htype : d.type.isSingleValued = false := by
        rw [← Bool.not_eq_true, ColumnType.isSingleValued_iff, not_or]
        exact ⟨hdate, hcheckbox⟩
      exact ⟨op, hop, .inr ⟨htype, h, rfl⟩⟩
  · rintro ⟨op, hop, ⟨htype, rfl⟩ | ⟨htype, h, rfl⟩⟩
    · exact .unsupported hop hd ((ColumnType.isSingleValued_iff d.type).mp htype)
    · rw [← Bool.not_eq_true, ColumnType.isSingleValued_iff, not_or] at htype
      exact .tooDeep hop hd htype.1 htype.2 h

/-- A criterion fails to lower exactly when its place is at fault. -/
theorem criterion_lower_eq_error_iff {depth : Nat} {c : Criterion} :
    c.lower ctx depth = .error fault ↔ Place.Fails ctx (.criterion depth c) fault := by
  cases hlookup : Descriptor.lookup? ctx.available c.columnId with
  | none =>
    rw [fails_iff_of_no_column (lookup?_eq_none_iff.mp hlookup)]
    simp only [Criterion.lower, LoweringContext.column, hlookup]
    exact ⟨fun h => (Except.error.inj h).symm, fun h => congrArg Except.error h.symm⟩
  | some d =>
    rw [fails_iff_of_column (Descriptor.lookup?_eq_some_iff.mp hlookup)]
    have hcolumn : ctx.column c = .ok d := by
      simp [LoweringContext.column, hlookup]
    rw [Criterion.lower, hcolumn]
    cases hop : c.operator with
    | test op =>
      show (Except.ok _ : Except FilterFault Lowered) = .error fault ↔ _
      simp
    | many op =>
      show (if d.type.isSingleValued then .error (unsupported (.many op) d)
        else ctx.enter (depth + 1) >>= fun _ => pure (c.expand d op)) = .error fault ↔ _
      cases hs : d.type.isSingleValued with
      | true => simp [eq_comm]
      | false =>
        rw [if_neg Bool.false_ne_true, bind_pure_eq_error_iff, enter_eq_error_iff]
        simp

/-! ### Lowering -/

/-- There is room for a group exactly when its place is not at fault. -/
theorem exists_enter_iff {depth : Nat} :
    (∃ u, ctx.enter depth = .ok u) ↔ ∀ fault, ¬ Place.Fails ctx (.group depth) fault := by
  simp only [enter_eq_ok_iff, fails_group_iff, not_and]
  constructor
  · intro ⟨_, hle⟩ fault hlt
    omega
  · intro h
    refine ⟨(), ?_⟩
    by_contra hlt
    exact h _ (Nat.lt_of_not_le hlt) rfl

mutual

/-- Lowering a node reports the first of its places that is at fault. -/
theorem lower_eq_error_iff : ∀ (node : Node) {depth : Nat} {fault : FilterFault},
    node.lower ctx depth = .error fault ↔ FirstOf (Place.Fails ctx) (node.places depth) fault
  | .criterion c, depth, fault => by
    rw [Node.lower, Node.places, firstOf_singleton, criterion_lower_eq_error_iff]
  | .group conjunction children, depth, fault => by
    -- The group itself comes before its children.
    rw [Node.lower, Node.places, firstOf_cons, ← exists_enter_iff, fails_group_iff,
      ← lowerAll_eq_error_iff children, bind_eq_error_iff, enter_eq_error_iff]
    simp only [bind_pure_eq_error_iff, exists_and_right]

/-- Lowering the children of a group reports the first place at fault among and below them. -/
theorem lowerAll_eq_error_iff : ∀ (nodes : List Node) {depth : Nat} {fault : FilterFault},
    Node.lowerAll ctx depth nodes = .error fault ↔
      FirstOf (Place.Fails ctx) (Node.placesAll depth nodes) fault
  | [], depth, fault => by
    rw [Node.lowerAll, Node.placesAll]
    simp
  | node :: rest, depth, fault => by
    -- The rest is looked at when the first child has no place at fault.
    have hnode := exists_ok_iff_of_firstOf fun fault => @lower_eq_error_iff node depth fault
    rw [Node.lowerAll, Node.placesAll, firstOf_append, ← lower_eq_error_iff node, ← hnode,
      ← lowerAll_eq_error_iff rest, bind_eq_error_iff]
    simp only [bind_pure_eq_error_iff, exists_and_right]

end

/-! ### Tests -/

/-- The tests that a criterion makes of its column: one, or one for each value. -/
def Criterion.tests (available : List Descriptor) (c : Criterion) : List ColumnTest :=
  match Descriptor.lookup? available c.columnId with
  | none => []
  | some d =>
    match c.operator with
    | .test op => [⟨c.columnName, d, op, c.value⟩]
    | .many op => c.value.toList.map fun v => ⟨c.columnName, d, op.expansion.2, v⟩

/-- The tests of a tree, in the order in which their criteria and values are written. -/
def Group.tests (available : List Descriptor) (g : Group) : List ColumnTest :=
  g.criteria.flatMap fun p => p.2.tests available

mutual

/-- The tests of a lowered tree, from left to right. -/
def Lowered.tests : Lowered → List ColumnTest
  | .test t => [t]
  | .group _ children => Lowered.testsAll children

/-- The tests of lowered trees, from left to right. -/
def Lowered.testsAll : List Lowered → List ColumnTest
  | [] => []
  | child :: rest => child.tests ++ Lowered.testsAll rest

end

/-- A list of tests has these tests. -/
theorem Lowered.testsAll_map_test (ts : List ColumnTest) :
    Lowered.testsAll (ts.map .test) = ts := by
  induction ts with
  | nil => rfl
  | cons t rest ih => rw [List.map_cons, Lowered.testsAll, ih]; rfl

/-- A criterion lowers to its tests. -/
theorem tests_of_criterion_lower {depth : Nat} {c : Criterion} {l : Lowered}
    (h : c.lower ctx depth = .ok l) : l.tests = c.tests ctx.available := by
  obtain ⟨d, hd, hcases⟩ := criterion_lower_iff.mp h
  have hlookup := Descriptor.lookup?_eq_some_iff.mpr hd
  rcases hcases with ⟨op, hop, rfl⟩ | ⟨op, hop, -, -, rfl⟩
  · simp [Lowered.tests, Criterion.tests, hlookup, hop]
  · -- The group of a list operator holds one test for each value.
    have hexpand := Lowered.testsAll_map_test
      (c.value.toList.map fun v => ⟨c.columnName, d, op.test, v⟩)
    rw [List.map_map] at hexpand
    simp only [Criterion.tests, hlookup, hop, op.expansion_eq]
    exact hexpand

mutual

/-- Lowering a node keeps the tests of its criteria, in order. -/
theorem tests_of_lower : ∀ (node : Node) {depth : Nat} {l : Lowered},
    node.lower ctx depth = .ok l →
      l.tests = (node.criteria depth).flatMap fun p => p.2.tests ctx.available
  | .criterion c, depth, l, h => by
    rw [Node.lower] at h
    rw [tests_of_criterion_lower h, Node.criteria, List.flatMap_singleton]
  | .group conjunction children, depth, l, h => by
    rw [Node.lower] at h
    obtain ⟨_, -, h⟩ := bind_eq_ok_iff.mp h
    obtain ⟨ls, hls, h⟩ := bind_eq_ok_iff.mp h
    cases h
    exact tests_of_lowerAll children hls

/-- Lowering the children of a group keeps the tests of their criteria, in order. -/
theorem tests_of_lowerAll : ∀ (nodes : List Node) {depth : Nat} {ls : List Lowered},
    Node.lowerAll ctx depth nodes = .ok ls →
      Lowered.testsAll ls
        = (Node.criteriaAll depth nodes).flatMap fun p => p.2.tests ctx.available
  | [], depth, ls, h => by
    cases h
    rfl
  | node :: rest, depth, ls, h => by
    rw [Node.lowerAll] at h
    obtain ⟨l, hl, h⟩ := bind_eq_ok_iff.mp h
    obtain ⟨others, hothers, h⟩ := bind_eq_ok_iff.mp h
    cases h
    rw [Lowered.testsAll, tests_of_lower node hl, tests_of_lowerAll rest hothers,
      Node.criteriaAll, List.flatMap_append]

end

/-! ### Formulas -/

/-- Making the formula of a test fails for this reason. -/
def ColumnTest.Fails (dates : DateContext) (t : ColumnTest) (fault : FilterFault) : Prop :=
  t.atom dates = .error fault

mutual

/-- Making the formula of a lowered tree reports the first test without one. -/
theorem formula?_eq_error_iff : ∀ (l : Lowered) {fault : FilterFault},
    l.formula? dates = .error fault ↔ FirstOf (ColumnTest.Fails dates) l.tests fault
  | .test t, fault => by
    rw [Lowered.formula?, Lowered.tests, firstOf_singleton, bind_pure_eq_error_iff]
    rfl
  | .group conjunction children, fault => by
    rw [Lowered.formula?, Lowered.tests, ← formulas_eq_error_iff children,
      bind_pure_eq_error_iff]

/-- Making the formulas of lowered trees reports the first test without one. -/
theorem formulas_eq_error_iff : ∀ (ls : List Lowered) {fault : FilterFault},
    Lowered.formulas dates ls = .error fault ↔
      FirstOf (ColumnTest.Fails dates) (Lowered.testsAll ls) fault
  | [], fault => by
    rw [Lowered.formulas, Lowered.testsAll]
    simp
  | child :: rest, fault => by
    have hchild := exists_ok_iff_of_firstOf fun fault => @formula?_eq_error_iff child fault
    rw [Lowered.formulas, Lowered.testsAll, firstOf_append, ← formula?_eq_error_iff child,
      ← hchild, ← formulas_eq_error_iff rest, bind_eq_error_iff]
    simp only [bind_pure_eq_error_iff, exists_and_right]

end

/-! ### Whole trees -/

/-- Compiling a tree reports the first place at fault, and if there is none the first test without
a formula. -/
theorem compile_eq_error_iff_first {c : Compiler} {tree : Group} {anchor : Date}
    {fault : FilterFault} :
    c.compile tree anchor = .error fault ↔
      FirstOf (Place.Fails ⟨c.available, c.config.maxDepth⟩) tree.places fault ∨
        (∀ p ∈ tree.places, ∀ e, ¬ p.Fails ⟨c.available, c.config.maxDepth⟩ e) ∧
          FirstOf (ColumnTest.Fails ⟨anchor, c.config.weekStartsOn⟩) (tree.tests c.available)
            fault := by
  have hplaces := fun fault =>
    @lower_eq_error_iff ⟨c.available, c.config.maxDepth⟩ tree.toNode 0 fault
  rw [Compiler.compile, map_eq_error_iff, Compiler.formula?, bind_eq_error_iff,
    show tree.places = tree.toNode.places 0 from rfl, ← exists_ok_iff_of_firstOf hplaces]
  refine or_congr (hplaces fault) ?_
  -- Without a place at fault there is a lowered tree, and it has the tests of the tree.
  constructor
  · rintro ⟨l, hl, hformula⟩
    rw [formula?_eq_error_iff, tests_of_lower tree.toNode hl] at hformula
    exact ⟨⟨l, hl⟩, hformula⟩
  · rintro ⟨⟨l, hl⟩, hfirst⟩
    refine ⟨l, hl, ?_⟩
    rw [formula?_eq_error_iff, tests_of_lower tree.toNode hl]
    exact hfirst

/-- The place of a criterion without a column is at fault, so some place is the first one. -/
theorem exists_firstOf_of_no_column {ctx : LoweringContext} {tree : Group} {p : Nat × Criterion}
    (hp : p ∈ tree.criteria) (hcolumn : ∀ d ∈ ctx.available, d.id ≠ p.2.columnId) :
    ∃ fault, FirstOf (Place.Fails ctx) tree.places fault := by
  have hplace : Place.criterion p.1 p.2 ∈ tree.places :=
    Node.mem_places_of_mem_criteria tree.toNode hp
  by_contra hnone
  exact not_exists_firstOf_iff.mp hnone _ hplace _ (.notAvailable hcolumn)

/-- A tree that fails to compile reports its first place at fault, and if there is none its first
test without a formula. So a criterion without a column is reported, or a place before it, whatever
the values of the tree are. -/
theorem compile_eq_error_iff (c : Compiler) (tree : Group) (anchor : Date) :
    (∀ fault, c.compile tree anchor = .error fault ↔
      FirstOf (Place.Fails ⟨c.available, c.config.maxDepth⟩) tree.places fault ∨
        (∀ p ∈ tree.places, ∀ e, ¬ p.Fails ⟨c.available, c.config.maxDepth⟩ e) ∧
          FirstOf (ColumnTest.Fails ⟨anchor, c.config.weekStartsOn⟩) (tree.tests c.available)
            fault) ∧
      ((∃ p ∈ tree.criteria, ∀ d ∈ c.available, d.id ≠ p.2.columnId) →
        ∃ fault, FirstOf (Place.Fails ⟨c.available, c.config.maxDepth⟩) tree.places fault ∧
          c.compile tree anchor = .error fault) := by
  refine ⟨fun fault => compile_eq_error_iff_first, ?_⟩
  rintro ⟨p, hp, hcolumn⟩
  have hfirst : ∃ fault, FirstOf (Place.Fails ⟨c.available, c.config.maxDepth⟩) tree.places
      fault := exists_firstOf_of_no_column hp hcolumn
  obtain ⟨fault, hfault⟩ := hfirst
  exact ⟨fault, hfault, compile_eq_error_iff_first.mpr (.inl hfault)⟩

/-- A column that is not available is reported under its identifier, although the value of the
criterion before it is no date. -/
theorem missing_column_before_bad_value :
    let c : Compiler := ⟨[.plain "day" "Day" .date], .standard⟩
    let anchor : Date := ⟨738000, by decide, by decide⟩
    let bad : Node := .criterion ⟨"day", "Day", .test (.compare .eq), .text "soon"⟩
    let missing : Node := .criterion ⟨"gone", "", .many .isAnyOf, .list []⟩
    let tree : Group := ⟨.all, [bad, .group .any [missing]]⟩
    c.compile ⟨.all, [bad]⟩ anchor = .error (.invalidDate .notADate) ∧
      (∃ p ∈ tree.criteria, ∀ d ∈ c.available, d.id ≠ p.2.columnId) ∧
      FirstOf (Place.Fails ⟨c.available, c.config.maxDepth⟩) tree.places (.notAvailable "gone") ∧
      c.compile tree anchor = .error (.notAvailable "gone") := by
  intro c anchor bad missing tree
  have hmissing : ∃ p ∈ tree.criteria, ∀ d ∈ c.available, d.id ≠ p.2.columnId := by
    refine ⟨(2, ⟨"gone", "", .many .isAnyOf, .list []⟩), ?_, by decide⟩
    exact List.mem_cons_of_mem _ List.mem_cons_self
  have hrun : c.compile tree anchor = .error (.notAvailable "gone") := by rfl
  obtain ⟨fault, hfirst, hfault⟩ := (compile_eq_error_iff c tree anchor).2 hmissing
  cases Except.error.inj (hrun.symm.trans hfault)
  exact ⟨by rfl, hmissing, hfirst, hrun⟩

end RecordFilter
