import RecordFilter.Proofs.Compile.Yields

/-!
# `RecordFilter.Proofs.Compile.OnePass`: compilation as one walk

The compiler lowers the whole tree before it makes the first formula. `Compiler.walk` is the
plain reference: one recursion over the groups of the tree that looks up columns, makes the text
of a test where it meets it, and calls itself on the group that a list operator abbreviates. Of
the texts of the children it drops the empty ones and joins the rest.

The walk stops at the first fault that it meets, so it may report another fault than the
compiler. `compile_eq_ok_iff_walk` says that it never gives another formula, and fails on the
same trees. Both are compared with the rules of `Node.Yields`: the induction is on the levels of
groups that may still be opened, because the walk also descends into groups that are not in the
tree.
-/

set_option autoImplicit false

namespace RecordFilter

open RecordFilter.Proofs.Support

/-! ### The reference -/

/-- The text of a group from the texts of its children. -/
def joinTexts (conjunction : Conjunction) (parts : List String) : String :=
  if parts.isEmpty then ""
  else conjunction.keyword ++ "(" ++ String.intercalate ", " parts ++ ")"

namespace Compiler

/-- The text of a node, where `inner` gives the text of a group one level deeper. -/
def walkNode (c : Compiler) (anchor : Date) (inner : Group → Except FilterFault String) :
    Node → Except FilterFault String
  | .group conjunction children => inner ⟨conjunction, children⟩
  | .criterion cr =>
    match Descriptor.lookup? c.available cr.columnId with
    | none => .error (.notAvailable cr.label)
    | some d =>
      match cr.operator with
      | .test op =>
        ((ColumnTest.mk cr.columnName d op cr.value).atom
          ⟨anchor, c.config.weekStartsOn⟩).map Atom.text
      | .many op =>
        if d.type = .date ∨ d.type = .checkbox then .error (unsupported (.many op) d)
        else inner (cr.writtenOut op)

/-- The text of a group at the given depth. -/
def walk (c : Compiler) (anchor : Date) (depth : Nat) (g : Group) :
    Except FilterFault String :=
  if _h : depth ≤ c.config.maxDepth then do
    let parts ← g.children.mapM (c.walkNode anchor fun inner => c.walk anchor (depth + 1) inner)
    return joinTexts g.conjunction (parts.filter fun part => part ≠ "")
  else .error (.tooDeep c.config.maxDepth)
termination_by c.config.maxDepth + 1 - depth

end Compiler

/-! ### Texts -/

/-- Every test has a text. -/
theorem Atom.text_ne_empty (a : Atom) : a.text ≠ "" := by
  unfold Atom.text
  split <;> simp [dayCall, columnReference]

/-- Every formula has a text. -/
theorem Formula.text_ne_empty (f : Formula) : f.text ≠ "" := by
  cases f with
  | atom a => rw [Formula.text]; exact a.text_ne_empty
  | group conjunction parts => rw [Formula.text]; simp

/-- Formulas are written one by one. -/
theorem Formula.texts_eq_map (fs : List Formula) : Formula.texts fs = fs.map Formula.text := by
  induction fs with
  | nil => rfl
  | cons f rest ih => rw [Formula.texts, ih, List.map_cons]

/-- Dropping empty texts leaves the texts of the formulas that there are. -/
theorem filter_textOf_cons (o : Option Formula) (parts : List String) :
    (textOf o :: parts).filter (fun part => part ≠ "")
      = o.toList.map Formula.text ++ parts.filter (fun part => part ≠ "") := by
  cases o with
  | none => rfl
  | some f =>
    have hf : textOf (some f) ≠ "" := f.text_ne_empty
    rw [List.filter_cons_of_pos (by simpa using hf)]
    rfl

/-- A group has the text that joins the texts of its children. -/
theorem Conjunction.Joins.textOf_eq {conjunction : Conjunction} {fs : List Formula}
    {o : Option Formula} (h : conjunction.Joins fs o) :
    textOf o = joinTexts conjunction (fs.map Formula.text) := by
  cases h with
  | nothing => rfl
  | group f rest =>
    show Formula.text (.group conjunction (f :: rest)) = _
    rw [Formula.text, Formula.texts_eq_map]
    rfl

/-! ### The walk follows the rules -/

variable {c : Compiler} {anchor : Date} {ctx : LoweringContext} {dates : DateContext}

/-- The group of a criterion yields what the criterion yields. -/
theorem yields_writtenOut {depth : Nat} {cr : Criterion} {op : Operator.Many}
    {o : Option Formula} (h : cr.listOperator? ctx.available = some op) :
    (cr.writtenOut op).toNode.Yields ctx dates depth o ↔
      (Node.criterion cr).Yields ctx dates depth o := by
  rw [← lower_formula?_iff, ← lower_formula?_iff, lower_writtenOut ctx depth cr op h]

/-- The text of a node is that of its formula, if this is so for the groups one level deeper. -/
theorem walkNode_eq_ok_iff {depth : Nat} {inner : Group → Except FilterFault String}
    (hinner : ∀ g text, inner g = .ok text ↔
      ∃ o, g.toNode.Yields ⟨c.available, c.config.maxDepth⟩ ⟨anchor, c.config.weekStartsOn⟩
        depth o ∧ textOf o = text)
    (node : Node) (text : String) :
    c.walkNode anchor inner node = .ok text ↔
      ∃ o, node.Yields ⟨c.available, c.config.maxDepth⟩ ⟨anchor, c.config.weekStartsOn⟩
        depth o ∧ textOf o = text := by
  cases node with
  | group conjunction children => exact hinner ⟨conjunction, children⟩ text
  | criterion cr =>
    rw [Compiler.walkNode]
    cases hlookup : Descriptor.lookup? c.available cr.columnId with
    | none =>
      refine iff_of_false (fun h => nomatch h) ?_
      rintro ⟨o, h, -⟩
      obtain ⟨d, hd⟩ := h.exists_column
      rw [Descriptor.lookup?_eq_some_iff.mpr hd] at hlookup
      cases hlookup
    | some d =>
      have hd : Descriptor.IsLast (LoweringContext.mk c.available c.config.maxDepth).available
          cr.columnId d := Descriptor.lookup?_eq_some_iff.mp hlookup
      cases hop : cr.operator with
      | test op =>
        show Except.map _ _ = _ ↔ _
        simp only [map_eq_ok_iff, yields_test_iff hop hd, atom_eq_ok_iff]
        constructor
        · rintro ⟨a, ha, rfl⟩; exact ⟨_, ⟨a, ha, rfl⟩, rfl⟩
        · rintro ⟨_, ⟨a, ha, rfl⟩, rfl⟩; exact ⟨a, ha, rfl⟩
      | many op =>
        show (if _ then _ else _) = _ ↔ _
        cases hs : d.type.isSingleValued with
        | true =>
          rw [if_pos ((ColumnType.isSingleValued_iff d.type).mp hs)]
          refine iff_of_false (fun h => nomatch h) ?_
          rintro ⟨o, h, -⟩
          rw [yields_many_iff hop hd, hs] at h
          cases h.1
        | false =>
          -- The walk goes on with the group of the criterion, one level deeper.
          have hlist : cr.listOperator? c.available = some op :=
            Criterion.listOperator?_eq_some_iff.mpr ⟨hop, d, hlookup, hs⟩
          have hnot : ¬(d.type = .date ∨ d.type = .checkbox) := by
            rw [← ColumnType.isSingleValued_iff, hs]; decide
          rw [if_neg hnot, hinner]
          exact exists_congr fun o => and_congr_left fun _ => yields_writtenOut hlist

/-- The texts of the children are those of their formulas, and empty for children without a
formula. -/
theorem texts_of_children_iff {depth : Nat} {step : Node → Except FilterFault String}
    (hstep : ∀ node text, step node = .ok text ↔
      ∃ o, node.Yields ctx dates depth o ∧ textOf o = text)
    (children : List Node) (texts : List String) :
    (∃ parts, children.mapM step = .ok parts ∧ parts.filter (fun part => part ≠ "") = texts) ↔
      ∃ fs, Node.YieldsAll ctx dates depth children fs ∧ fs.map Formula.text = texts := by
  simp only [mapM_eq_ok_iff]
  induction children generalizing texts with
  | nil =>
    constructor
    · rintro ⟨parts, hparts, rfl⟩; cases hparts; exact ⟨[], .nil, rfl⟩
    · rintro ⟨fs, hfs, rfl⟩; cases hfs; exact ⟨[], .nil, rfl⟩
  | cons node rest ih =>
    -- A child without a formula has the empty text, which is filtered out.
    constructor
    · rintro ⟨parts, hparts, rfl⟩
      cases hparts with
      | @cons _ text _ others htext hothers =>
        obtain ⟨o, ho, rfl⟩ := (hstep node text).mp htext
        obtain ⟨fs, hfs, heq⟩ := (ih _).mp ⟨others, hothers, rfl⟩
        refine ⟨o.toList ++ fs, .cons ho hfs, ?_⟩
        rw [filter_textOf_cons, List.map_append, heq]
    · rintro ⟨fs, hfs, rfl⟩
      cases hfs with
      | @cons _ _ _ first others hfirst hothers =>
        obtain ⟨parts, hparts, heq⟩ := (ih _).mpr ⟨others, hothers, rfl⟩
        refine ⟨textOf first :: parts, .cons ((hstep node _).mpr ⟨first, hfirst, rfl⟩) hparts, ?_⟩
        rw [filter_textOf_cons, List.map_append, heq]

/-- A group yields the formula whose text the walk gives. The induction is on the levels of
groups below this one. -/
theorem walk_eq_ok_iff : ∀ (levels depth : Nat), c.config.maxDepth ≤ depth + levels →
    ∀ (g : Group) (text : String), c.walk anchor (depth + 1) g = .ok text ↔
      ∃ o, g.toNode.Yields ⟨c.available, c.config.maxDepth⟩ ⟨anchor, c.config.weekStartsOn⟩
        depth o ∧ textOf o = text := by
  intro levels
  induction levels with
  | zero =>
    -- No group may be opened any more, in the walk or by the rules.
    intro depth hlevels g text
    rw [Compiler.walk, dif_neg (by omega)]
    constructor
    · intro h; cases h
    · rintro ⟨o, h, -⟩
      cases h with
      | group hdepth =>
        have hle : depth + 1 ≤ c.config.maxDepth := hdepth
        omega
  | succ levels ih =>
    intro depth hlevels g text
    rw [Compiler.walk]
    by_cases hdepth : depth + 1 ≤ c.config.maxDepth
    · rw [dif_pos hdepth, bind_eq_ok_iff]
      have hchildren := texts_of_children_iff
        (walkNode_eq_ok_iff (ih (depth + 1) (by omega))) g.children
      constructor
      · rintro ⟨parts, hparts, h⟩
        cases h
        obtain ⟨fs, hfs, heq⟩ := (hchildren _).mp ⟨parts, hparts, rfl⟩
        obtain ⟨o, ho⟩ := g.conjunction.exists_joins fs
        exact ⟨o, .group hdepth hfs ho, by rw [ho.textOf_eq, heq]⟩
      · rintro ⟨o, h, rfl⟩
        cases h with
        | @group _ _ _ fs _ _ hfs ho =>
          obtain ⟨parts, hparts, heq⟩ := (hchildren _).mpr ⟨fs, hfs, rfl⟩
          exact ⟨parts, hparts, by rw [heq, ho.textOf_eq]; rfl⟩
    · rw [dif_neg hdepth]
      constructor
      · intro h; cases h
      · rintro ⟨o, h, -⟩
        cases h with
        | group hdepth' => exact absurd hdepth' hdepth

/-- The walk and the compiler give the same texts, and fail on the same trees. -/
theorem compile_eq_ok_iff_walk (c : Compiler) (tree : Group) (anchor : Date) :
    (∀ text, c.compile tree anchor = .ok text ↔ c.walk anchor 1 tree = .ok text) ∧
      ((∃ fault, c.compile tree anchor = .error fault) ↔
        ∃ fault, c.walk anchor 1 tree = .error fault) := by
  have hok : ∀ text, c.compile tree anchor = .ok text ↔ c.walk anchor 1 tree = .ok text := by
    intro text
    rw [compile_eq_ok_iff, walk_eq_ok_iff c.config.maxDepth 0 (by omega)]
    rfl
  refine ⟨hok, ?_⟩
  cases hc : c.compile tree anchor with
  | ok text =>
    have hw := (hok text).mp hc
    simp [hw]
  | error fault =>
    cases hw : c.walk anchor 1 tree with
    | ok text => rw [(hok text).mpr hw] at hc; cases hc
    | error fault' => simp

end RecordFilter
