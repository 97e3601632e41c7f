import RecordFilter.Proofs.Compile.FirstFault
import RecordFilter.Proofs.Support.SameOutcome

/-!
# `RecordFilter.Proofs.Compile.Agreement`: when two compilers give the same outcome

Two compilers with the same limit on depth may have other columns available, another anchor and
another first day of the week. They give the same outcome for a tree, the same text or the same
fault, as soon as they do so for each of its criteria on its own.

* `Criterion.Agrees`: a criterion lowers in both to trees with the same formula, or fails in both
  with the same fault.
* `Node.lower_agrees`: then so does the whole node. The proof follows the tree.
* `compile_eq_of_agreeOn`: of the columns that are available, only the types of those that the
  tree names are looked at.
-/

set_option autoImplicit false

namespace RecordFilter

open RecordFilter.Proofs.Support

/-! ### Two runs over a tree -/

/-- What compilation reads besides the tree and the limit on depth. -/
structure Surroundings where
  available : List Descriptor
  dates : DateContext

variable {s t : Surroundings} {maxDepth : Nat}

/-- Two lowered trees have the same formula, or making it fails with the same fault. -/
def Lowered.Agrees (s t : Surroundings) (l m : Lowered) : Prop :=
  l.formula? s.dates = m.formula? t.dates

/-- A criterion in a group of the given depth has the same outcome in both surroundings. -/
def Criterion.Agrees (s t : Surroundings) (maxDepth depth : Nat) (c : Criterion) : Prop :=
  SameOutcome (Lowered.Agrees s t) (c.lower ⟨s.available, maxDepth⟩ depth)
    (c.lower ⟨t.available, maxDepth⟩ depth)

/-- A group has the formula of its children. -/
theorem Lowered.agrees_group {conjunction : Conjunction} {ls ms : List Lowered}
    (h : Lowered.formulas s.dates ls = Lowered.formulas t.dates ms) :
    Lowered.Agrees s t (.group conjunction ls) (.group conjunction ms) := by
  unfold Lowered.Agrees
  rw [Lowered.formula?, Lowered.formula?, h]

mutual

/-- A node has the same outcome in both surroundings if its criteria do. -/
theorem Node.lower_agrees : ∀ (node : Node) {depth : Nat},
    (∀ p ∈ node.criteria depth, p.2.Agrees s t maxDepth p.1) →
      SameOutcome (Lowered.Agrees s t) (node.lower ⟨s.available, maxDepth⟩ depth)
        (node.lower ⟨t.available, maxDepth⟩ depth)
  | .criterion c, depth, h => by
    rw [Node.lower, Node.lower]
    exact h (depth, c) List.mem_cons_self
  | .group conjunction children, depth, h => by
    have hchildren := Node.lowerAll_agrees children h
    rw [Node.lower, Node.lower]
    -- The limit is the same, so there is room for the group in both or in neither.
    refine (SameOutcome.refl _).bind fun _ _ _ => hchildren.bind fun ls ms hls => ?_
    exact .ok (Lowered.agrees_group hls)

/-- The children of a group have the same outcome in both surroundings if their criteria do. -/
theorem Node.lowerAll_agrees : ∀ (nodes : List Node) {depth : Nat},
    (∀ p ∈ Node.criteriaAll depth nodes, p.2.Agrees s t maxDepth p.1) →
      SameOutcome (fun ls ms => Lowered.formulas s.dates ls = Lowered.formulas t.dates ms)
        (Node.lowerAll ⟨s.available, maxDepth⟩ depth nodes)
        (Node.lowerAll ⟨t.available, maxDepth⟩ depth nodes)
  | [], depth, h => .ok rfl
  | node :: rest, depth, h => by
    rw [Node.criteriaAll, List.forall_mem_append] at h
    have hnode := Node.lower_agrees node h.1
    have hrest := Node.lowerAll_agrees rest h.2
    rw [Node.lowerAll, Node.lowerAll]
    refine hnode.bind fun l m hl => hrest.bind fun ls ms hls => .ok ?_
    have hl : l.formula? s.dates = m.formula? t.dates := hl
    rw [Lowered.formulas, Lowered.formulas, hls, hl]

end

/-- Two compilers with the same limit on depth give the same outcome for a tree if they do so for
each of its criteria. -/
theorem compile_eq_of_agrees {c d : Compiler} {tree : Group} {anchor other : Date}
    (hdepth : c.config.maxDepth = d.config.maxDepth)
    (h : ∀ p ∈ tree.criteria, p.2.Agrees ⟨c.available, ⟨anchor, c.config.weekStartsOn⟩⟩
      ⟨d.available, ⟨other, d.config.weekStartsOn⟩⟩ c.config.maxDepth p.1) :
    c.compile tree anchor = d.compile tree other := by
  have hlower := Node.lower_agrees tree.toNode h
  unfold Compiler.compile Compiler.formula? Group.lower
  rw [← hdepth]
  refine congrArg _ (hlower.bind_eq fun l m hl => hl)

/-! ### Criteria -/

/-- The columns of an identifier in two lists have the same type, or there is none in either. -/
def Descriptor.AgreeOn (available others : List Descriptor) (id : String) : Prop :=
  ((∀ d ∈ available, d.id ≠ id) ∧ ∀ d ∈ others, d.id ≠ id) ∨
    ∃ d e, IsLast available id d ∧ IsLast others id e ∧ d.type = e.type

/-- A list agrees with itself on every identifier. -/
theorem Descriptor.agreeOn_refl (available : List Descriptor) (id : String) :
    AgreeOn available available id := by
  cases h : lookup? available id with
  | none => exact .inl ⟨lookup?_eq_none_iff.mp h, lookup?_eq_none_iff.mp h⟩
  | some d => exact .inr ⟨d, d, lookup?_eq_some_iff.mp h, lookup?_eq_some_iff.mp h, rfl⟩

/-- Of its column, a test looks only at the type. -/
theorem atom_eq_of_type {dates : DateContext} {name : String} {d e : Descriptor}
    {op : Operator.Test} {v : Value} (htype : d.type = e.type) :
    (ColumnTest.mk name d op v).atom dates = (ColumnTest.mk name e op v).atom dates := by
  have hfault : (ColumnTest.mk name d op v).fault = (ColumnTest.mk name e op v).fault := by
    simp only [ColumnTest.fault, RecordFilter.unsupported, htype]
  -- The range is that of the value, whatever the column.
  have hrange : (ColumnTest.mk name d op v).range dates = (ColumnTest.mk name e op v).range dates :=
    rfl
  unfold ColumnTest.atom ColumnTest.dateAtom ColumnTest.checkboxAtom ColumnTest.literalAtom
  simp only [hfault, hrange, htype]

/-- Groups of tests that have the same formulas one by one have the same formula. -/
theorem Criterion.expand_agrees {c : Criterion} {d e : Descriptor} {op : Operator.Many}
    (h : ∀ v ∈ c.value.toList, (ColumnTest.mk c.columnName d op.test v).atom s.dates
      = (ColumnTest.mk c.columnName e op.test v).atom t.dates) :
    Lowered.Agrees s t (c.expand d op) (c.expand e op) := by
  refine Lowered.agrees_group ?_
  -- The tests differ in their values only, so the induction is on the values.
  generalize c.value.toList = values at h
  induction values with
  | nil => rfl
  | cons v rest ih =>
    rw [List.forall_mem_cons] at h
    rw [List.map_cons, List.map_cons, Lowered.formulas, Lowered.formulas, ih h.2,
      Lowered.formula?, Lowered.formula?, h.1]

/-- A criterion has the same outcome when its columns have the same type, and its tests, on a
column that accepts its operator, have the same outcome. -/
theorem Criterion.agrees_of_agreeOn {depth : Nat} {c : Criterion}
    (hcolumn : Descriptor.AgreeOn s.available t.available c.columnId)
    (htest : ∀ d op, Descriptor.IsLast s.available c.columnId d → c.operator = .test op →
      (ColumnTest.mk c.columnName d op c.value).atom s.dates
        = (ColumnTest.mk c.columnName d op c.value).atom t.dates)
    (hmany : ∀ d op v, Descriptor.IsLast s.available c.columnId d → c.operator = .many op →
      d.type.isSingleValued = false →
      (ColumnTest.mk c.columnName d op.test v).atom s.dates
        = (ColumnTest.mk c.columnName d op.test v).atom t.dates) :
    c.Agrees s t maxDepth depth := by
  unfold Criterion.Agrees Criterion.lower LoweringContext.column
  rcases hcolumn with ⟨hnone, hnone'⟩ | ⟨d, e, hd, he, htype⟩
  · rw [lookup?_eq_none_iff.mpr hnone, lookup?_eq_none_iff.mpr hnone']
    exact .error _
  · rw [Descriptor.lookup?_eq_some_iff.mpr hd, Descriptor.lookup?_eq_some_iff.mpr he]
    cases hop : c.operator with
    | test op =>
      refine .ok ?_
      unfold Lowered.Agrees
      rw [Lowered.formula?, Lowered.formula?, htest d op hd hop, atom_eq_of_type htype]
    | many op =>
      -- Both columns refuse a list operator with the same fault, or both expand.
      show SameOutcome _
        (if d.type.isSingleValued then .error (unsupported (.many op) d) else _ >>= _)
        (if e.type.isSingleValued then .error (unsupported (.many op) e) else _ >>= _)
      rw [show unsupported (.many op) e = unsupported (.many op) d by
        simp only [unsupported, htype], ← htype]
      cases hs : d.type.isSingleValued with
      | true => exact .error _
      | false =>
        refine (SameOutcome.refl _).bind fun _ _ _ => .ok (Criterion.expand_agrees fun v _ => ?_)
        rw [hmany d op v hd hop hs, atom_eq_of_type htype]

/-! ### Available columns -/

/-- Two lists of columns give the same outcome for a tree, if the columns that the tree names have
the same types in both. Which other columns there are makes no difference, nor does their order,
nor what the columns are called and which choices they offer. -/
theorem compile_eq_of_agreeOn (available others : List Descriptor) (config : CompilerConfig)
    (tree : Group) (anchor : Date)
    (h : ∀ p ∈ tree.criteria, Descriptor.AgreeOn available others p.2.columnId) :
    (Compiler.mk available config).compile tree anchor
      = (Compiler.mk others config).compile tree anchor := by
  refine compile_eq_of_agrees rfl fun p hp => ?_
  exact Criterion.agrees_of_agreeOn (h p hp) (fun _ _ _ _ => rfl) (fun _ _ _ _ _ _ => rfl)

/-- The last column of an identifier counts. The one before it, the order of the identifiers, a
column that the tree does not name, and the names and choices can be different. -/
theorem last_columns_of_two_lists :
    let available : List Descriptor :=
      [.plain "size" "Size" .number, .plain "day" "Day" .date, .plain "size" "Letter" .select]
    let others : List Descriptor :=
      [⟨"size", "Fit", .select, some [⟨"M", "medium"⟩]⟩, .plain "day" "Due" .checkbox,
        .plain "flag" "Done" .checkbox, .plain "day" "Date" .date]
    let size : Node := .criterion ⟨"size", "Size", .many .isAnyOf, .list [.text "M"]⟩
    let day : Node := .criterion ⟨"day", "Day", .test (.compare .eq), .date (.ofMode "today")⟩
    let tree : Group := ⟨.all, [size, .group .any [day]]⟩
    let anchor : Date := ⟨738000, by decide, by decide⟩
    (∀ p ∈ tree.criteria, Descriptor.AgreeOn available others p.2.columnId) ∧
      (Compiler.mk others .standard).compile tree anchor
        = .ok "AND(OR({Size}=\"M\"), OR(IS_SAME({Day},'2021-07-29','days')))" := by
  intro available others size day tree anchor
  have hsize : Descriptor.AgreeOn available others "size" :=
    .inr ⟨_, _, ⟨rfl, [_, _], [], rfl, by decide⟩, ⟨rfl, [], [_, _, _], rfl, by decide⟩, rfl⟩
  have hday : Descriptor.AgreeOn available others "day" :=
    .inr ⟨_, _, ⟨rfl, [_], [_], rfl, by decide⟩, ⟨rfl, [_, _, _], [], rfl, by decide⟩, rfl⟩
  have hagree : ∀ p ∈ tree.criteria, Descriptor.AgreeOn available others p.2.columnId := by
    intro p hp
    rcases List.mem_cons.mp hp with rfl | hp
    · exact hsize
    · cases List.mem_singleton.mp hp
      exact hday
  refine ⟨hagree, ?_⟩
  rw [← compile_eq_of_agreeOn available others .standard tree anchor hagree]
  decide

end RecordFilter
