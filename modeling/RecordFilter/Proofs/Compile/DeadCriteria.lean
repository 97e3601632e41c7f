import RecordFilter.Proofs.Compile.Domain
import RecordFilter.Proofs.Compile.OnePass
import RecordFilter.Proofs.Tree.Thinning

/-!
# `RecordFilter.Proofs.Compile.DeadCriteria`: what leaves no trace in a formula

Only a criterion with a list operator and no values leaves no trace in the formula of a tree that
compiles. All others are live, and a tree with a live criterion has a formula of its own.

* `Node.Yields.eq_none_iff`: a node has no formula exactly when it is idle, which is to say that
  none of its criteria is live. The proof follows the tree.
* `Node.Thins.yieldsAll`, `Node.Thins.yieldsAll_of_fewer`: taking out nodes without a formula, or
  putting them in, keeps the formulas of a list of nodes.
* `compile_eq_ok_of_dead`: the text is empty exactly when no criterion is live, and idle nodes
  come and go without a change to the text.
-/

set_option autoImplicit false

namespace RecordFilter

variable {ctx : LoweringContext} {dates : DateContext}

/-! ### Nodes without a formula -/

/-- A group has no formula exactly when its children have none. -/
theorem Conjunction.Joins.eq_none_iff {conjunction : Conjunction} {parts : List Formula}
    {o : Option Formula} (h : conjunction.Joins parts o) : o = none ↔ parts = [] := by
  cases h with
  | nothing => simp
  | group => simp

/-- A criterion has no formula exactly when it is dead. -/
theorem criterion_yields_eq_none_iff {depth : Nat} {c : Criterion} {o : Option Formula}
    (h : (Node.criterion c).Yields ctx dates depth o) : o = none ↔ c.IsDead := by
  unfold Criterion.IsDead
  cases h with
  | test hop hd ha => simp [hop, Operator.isOfMany]
  | @many _ _ op d atoms _ hop hd htype hdepth hatoms hjoins =>
    -- There are as many tests as there are values.
    have hlength := hatoms.length_eq
    have hnil : atoms = [] ↔ c.value.toList = [] := by
      rw [← List.length_eq_zero_iff, ← List.length_eq_zero_iff, hlength]
    rw [hjoins.eq_none_iff, List.map_eq_nil_iff, hnil]
    simp [hop, Operator.isOfMany]

mutual

/-- A node has no formula exactly when it is idle. -/
theorem Node.Yields.eq_none_iff : ∀ {node : Node} {depth : Nat} {o : Option Formula},
    node.Yields ctx dates depth o → (o = none ↔ node.IsIdle depth)
  | .criterion c, depth, o, h => by
    rw [criterion_yields_eq_none_iff h]
    simp [Node.IsIdle, Node.criteria]
  | .group conjunction children, depth, o, h => by
    cases h with
    | group hdepth hparts hjoins =>
      rw [hjoins.eq_none_iff, Node.YieldsAll.eq_nil_iff hparts]
      rfl

/-- The children of a group have no formula exactly when none of their criteria is live. -/
theorem Node.YieldsAll.eq_nil_iff : ∀ {nodes : List Node} {depth : Nat} {parts : List Formula},
    Node.YieldsAll ctx dates depth nodes parts →
    (parts = [] ↔ ∀ p ∈ Node.criteriaAll depth nodes, p.2.IsDead)
  | [], depth, parts, h => by
    cases h
    simp [Node.criteriaAll]
  | node :: rest, depth, parts, h => by
    cases h with
    | @cons _ _ _ first others hfirst hrest =>
      have hnode := Node.Yields.eq_none_iff hfirst
      have hnodes := Node.YieldsAll.eq_nil_iff hrest
      rw [Node.criteriaAll, List.forall_mem_append, List.append_eq_nil_iff, ← hnodes]
      rw [Option.toList_eq_nil_iff, hnode]
      rfl

end

/-! ### Taking nodes out and putting them in -/

variable {removable : Nat → Node → Prop}

/-- Without some nodes that have no formula, a list of nodes yields the same formulas. -/
theorem Node.Thins.yieldsAll {depth : Nat} {nodes fewer : List Node}
    (h : Node.Thins removable depth nodes fewer)
    (hnone : ∀ depth node o, removable depth node → node.Yields ctx dates depth o → o = none)
    {parts : List Formula} (hparts : Node.YieldsAll ctx dates depth nodes parts) :
    Node.YieldsAll ctx dates depth fewer parts := by
  induction h generalizing parts with
  | nil => exact hparts
  | drop hnode _ ih =>
    cases hparts with
    | cons hfirst hrest =>
      -- The node that is taken out adds no formula to those of the others.
      rw [hnone _ _ _ hnode hfirst]
      exact ih hrest
  | criterion c _ ih =>
    cases hparts with
    | cons hfirst hrest => exact .cons hfirst (ih hrest)
  | group conjunction _ _ ihchildren ih =>
    cases hparts with
    | cons hfirst hrest =>
      cases hfirst with
      | group hdepth hchildren ho =>
        exact .cons (.group hdepth (ihchildren hchildren) ho) (ih hrest)

/-- With some more nodes that have no formula, a list of nodes yields the same formulas. -/
theorem Node.Thins.yieldsAll_of_fewer {depth : Nat} {nodes fewer : List Node}
    (h : Node.Thins removable depth nodes fewer)
    (hnone : ∀ depth node, removable depth node → node.Yields ctx dates depth none)
    {parts : List Formula} (hparts : Node.YieldsAll ctx dates depth fewer parts) :
    Node.YieldsAll ctx dates depth nodes parts := by
  induction h generalizing parts with
  | nil => exact hparts
  | drop hnode _ ih => exact .cons (hnone _ _ hnode) (ih hparts)
  | criterion c _ ih =>
    cases hparts with
    | cons hfirst hrest => exact .cons hfirst (ih hrest)
  | group conjunction _ _ ihchildren ih =>
    cases hparts with
    | cons hfirst hrest =>
      cases hfirst with
      | group hdepth hchildren ho =>
        exact .cons (.group hdepth (ihchildren hchildren) ho) (ih hrest)

/-! ### Nodes that may be put in -/

/-- The node is a dead criterion on a column that has list operators, or a group of such nodes,
and there is room for it in a group of the given depth. -/
structure Node.IsSpare (ctx : LoweringContext) (depth : Nat) (node : Node) : Prop where
  groups : ∀ k ∈ node.groupDepths depth, k ≤ ctx.maxDepth
  criteria : ∀ p ∈ node.criteria depth, p.2.IsDead ∧ p.1 + 1 ≤ ctx.maxDepth ∧
    ∃ d, Descriptor.IsLast ctx.available p.2.columnId d ∧ d.type ≠ .date ∧ d.type ≠ .checkbox

/-- A dead criterion compiles on a column that has list operators, where there is room. -/
theorem Criterion.IsDead.compilable {depth : Nat} {c : Criterion} {d : Descriptor}
    (h : c.IsDead) (hdepth : depth + 1 ≤ ctx.maxDepth)
    (hd : Descriptor.IsLast ctx.available c.columnId d) (hdate : d.type ≠ .date)
    (hcheckbox : d.type ≠ .checkbox) : c.Compilable ctx dates depth := by
  obtain ⟨hmany, hnil⟩ := h
  refine ⟨fun _ => hdepth, d, hd, ?_⟩
  cases hop : c.operator with
  | test op =>
    rw [hop] at hmany
    cases hmany
  | many op =>
    refine ⟨hdate, hcheckbox, ?_⟩
    simp [hnil]

/-- Such a node compiles, and has no formula. -/
theorem Node.IsSpare.yields {depth : Nat} {node : Node} (h : node.IsSpare ctx depth) :
    node.Yields ctx dates depth none := by
  have hcompilable : ∀ p ∈ node.criteria depth, p.2.Compilable ctx dates p.1 := by
    intro p hp
    obtain ⟨hdead, hdepth, d, hd, hdate, hcheckbox⟩ := h.criteria p hp
    exact hdead.compilable hdepth hd hdate hcheckbox
  obtain ⟨o, ho⟩ := (exists_yields_iff node).mpr ⟨h.groups, hcompilable⟩
  have hidle : node.IsIdle depth := fun p hp => (h.criteria p hp).1
  rwa [ho.eq_none_iff.mpr hidle] at ho

/-! ### Whole trees -/

/-- The formula of a group begins with its conjunction. -/
theorem Conjunction.Joins.exists_text_eq {conjunction : Conjunction} {parts : List Formula}
    {f : Formula} (h : conjunction.Joins parts (some f)) :
    ∃ rest, f.text = conjunction.keyword ++ "(" ++ rest := by
  cases h with
  | group first rest =>
    refine ⟨String.intercalate ", " (Formula.texts (first :: rest)) ++ ")", ?_⟩
    rw [Formula.text]
    simp [String.append_assoc]

/-- Of a tree that compiles, the text is empty exactly when no criterion is live, and begins with
the conjunction of the root otherwise. It stays the same when idle nodes are taken out, and when
idle nodes that can compile are put in. -/
theorem compile_eq_ok_of_dead (c : Compiler) (tree : Group) (anchor : Date) (text : String)
    (hok : c.compile tree anchor = .ok text) :
    (text = "" ↔ ∀ p ∈ tree.criteria, p.2.IsDead) ∧
      (text ≠ "" → ∃ rest, text = tree.conjunction.keyword ++ "(" ++ rest) ∧
      (∀ smaller, tree.Thins Node.IsIdle smaller → c.compile smaller anchor = .ok text) ∧
      ∀ larger : Group, larger.Thins (Node.IsSpare ⟨c.available, c.config.maxDepth⟩) tree →
        c.compile larger anchor = .ok text := by
  obtain ⟨o, ho, rfl⟩ := compile_eq_ok_iff.mp hok
  obtain ⟨hdepth, parts, hparts, hformula⟩ := yields_group_iff.mp ho
  have hempty : textOf o = "" ↔ o = none := by
    cases o with
    | none => simp [textOf]
    | some f => simpa [textOf] using f.text_ne_empty
  refine ⟨?_, ?_, ?_, ?_⟩
  · rw [hempty]
    exact ho.eq_none_iff
  · intro hne
    cases o with
    | none => exact absurd rfl hne
    | some f => exact hformula.exists_text_eq
  · -- The formulas of the children stay, and so does the group of them.
    intro ⟨conjunction, fewer⟩ ⟨hconjunction, hthins⟩
    have hfewer := hthins.yieldsAll (fun _ _ _ hidle h => h.eq_none_iff.mpr hidle) hparts
    refine compile_eq_ok_iff.mpr ⟨o, yields_group_iff.mpr ⟨hdepth, parts, hfewer, ?_⟩, rfl⟩
    rwa [hconjunction]
  · intro ⟨conjunction, more⟩ ⟨hconjunction, hthins⟩
    have hmore := hthins.yieldsAll_of_fewer (fun _ _ hspare => hspare.yields) hparts
    refine compile_eq_ok_iff.mpr ⟨o, yields_group_iff.mpr ⟨hdepth, parts, hmore, ?_⟩, rfl⟩
    rwa [← hconjunction]

/-- A tree with live criteria in different groups, one of them with a list operator. The dead
criterion before the groups and the group with dead criteria only can go, other dead criteria can
come between the live ones, and the tests stay in their order. -/
theorem dead_criteria_come_and_go :
    let c : Compiler := ⟨[.plain "n" "Name" .string, .plain "t" "Tags" .multiSelect], .standard⟩
    let anchor : Date := ⟨738000, by decide, by decide⟩
    let unnamed : Node := .criterion ⟨"n", "Name", .test .isEmpty, .null⟩
    let named : Node := .criterion ⟨"n", "Name", .test .contains, .text "x"⟩
    let tagged : Node := .criterion ⟨"t", "Tags", .many .isAnyOf, .list [.text "b", .text "a"]⟩
    let dead : Node := .criterion ⟨"n", "Name", .many .isAnyOf, .list []⟩
    let tree : Group :=
      ⟨.any, [dead, .group .all [unnamed, .group .any [dead]], tagged, .group .all [named]]⟩
    let text := "OR(AND({Name}=BLANK()), OR({Tags}=\"b\", {Tags}=\"a\"), AND(FIND(\"x\",{Name})))"
    c.compile tree anchor = .ok text ∧ ¬ (∀ p ∈ tree.criteria, p.2.IsDead) ∧
      c.compile ⟨.any, [.group .all [unnamed], tagged, .group .all [named]]⟩ anchor = .ok text ∧
      c.compile ⟨.any, [dead, .group .all [dead, unnamed, .group .any [dead]], .group .all [dead],
        tagged, dead, .group .all [named, dead]]⟩ anchor = .ok text := by
  intro c anchor unnamed named tagged dead tree text
  have hok : c.compile tree anchor = .ok text := by rfl
  obtain ⟨hempty, -, hthins, hspare⟩ := compile_eq_ok_of_dead c tree anchor text hok
  have hdead : ∀ depth, dead.IsIdle depth := by
    intro depth p hp
    rw [List.mem_singleton.mp hp]
    exact ⟨rfl, rfl⟩
  have hroom : ∀ depth ≤ 2, dead.IsSpare ⟨c.available, c.config.maxDepth⟩ depth := by
    intro depth hdepth
    refine ⟨fun k hk => absurd hk List.not_mem_nil, fun p hp => ⟨hdead depth p hp, ?_⟩⟩
    rw [List.mem_singleton.mp hp]
    have hlast : Descriptor.IsLast c.available "n" (.plain "n" "Name" .string) :=
      ⟨rfl, [], [.plain "t" "Tags" .multiSelect], rfl, by decide⟩
    exact ⟨by show depth + 1 ≤ 32; omega, _, hlast, by decide, by decide⟩
  have hgroup : (Node.group .all [dead]).IsSpare ⟨c.available, c.config.maxDepth⟩ 1 := by
    have hinner := hroom 2 (by decide)
    refine ⟨fun k hk => ?_, fun p hp => hinner.criteria p ?_⟩
    · rw [List.mem_singleton.mp hk]
      decide
    · simpa [Node.criteria, Node.criteriaAll] using hp
  refine ⟨hok, ?_, hthins _ ⟨rfl, ?_⟩, hspare _ ⟨rfl, ?_⟩⟩
  · rw [← hempty]
    decide
  · have hinner : (Node.group .any [dead]).IsIdle 2 := by
      intro p hp
      exact hdead 3 p (by simpa [Node.criteria, Node.criteriaAll] using hp)
    exact .drop (hdead 1) (.group .all (.criterion _ (.drop hinner .nil))
      (.criterion _ (.group .all (.criterion _ .nil) .nil)))
  · -- Of the dead criteria, the first one and the one in the inner group were there before.
    exact .criterion _ (.group .all (.drop (hroom 2 (by decide))
      (.criterion _ (.group .any (.criterion _ .nil) .nil)))
      (.drop hgroup (.criterion _ (.drop (hroom 1 (by decide))
        (.group .all (.criterion _ (.drop (hroom 2 (by decide)) .nil)) .nil)))))

end RecordFilter
