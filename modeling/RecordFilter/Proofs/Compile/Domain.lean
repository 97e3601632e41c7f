import RecordFilter.Proofs.Compile.Yields
import RecordFilter.Proofs.Tree.Places

/-!
# `RecordFilter.Proofs.Compile.Domain`: which trees compile

`Group.Compilable` says of a tree what has to hold at each of its places, without the passes of
the compiler: how deep groups may stand, that every criterion has a column, and which values and
operators the type of the column accepts.

* `exists_atomRule_iff`: a test has a formula exactly when the type of its column accepts it.
* `exists_yields_iff`: a node has a formula, or is without tests, exactly when all its places are
  in order. The proof follows the tree.
* `compile_ok_iff_compilable`: exactly the trees with all places in order compile.
-/

set_option autoImplicit false

namespace RecordFilter

open RecordFilter.Proofs.Support

/-! ### What the types accept -/

/-- The value is a number, or a text that is a finite numeral between blanks. -/
def Value.IsNumeric : Value → Prop
  | .number _ => True
  | .text s => isNumberText (Text.trimChars s.toList) = true
  | .null | .bool _ | .list _ | .date _ => False

/-- The value is null, a number or a text. -/
def Value.IsTextual : Value → Prop
  | .null | .number _ | .text _ => True
  | .bool _ | .list _ | .date _ => False

/-- The value can be written as a literal for columns of the type. -/
def ColumnType.Reads (type : ColumnType) (v : Value) : Prop :=
  if type = .number then v.IsNumeric else v.IsTextual

/-- The value describes days that are supported, and so is the day next to the first of them that
an operator with equality compares with. -/
def Value.HasDays (dates : DateContext) (v : Value) (op : Operator.Test) : Prop :=
  ∃ f start stop, v.dateFilter = .ok f ∧
    f.boundaries? dates.weekStart dates.anchor.number = some (start, stop) ∧
    Date.IsSupported start ∧ Date.IsSupported stop ∧
    (op = .compare .le → Date.IsSupported (start + 1)) ∧
    (op = .compare .ge → Date.IsSupported (start - 1))

/-- A test with the operator and the value applies to columns of the type. -/
def ColumnType.AcceptsTest (dates : DateContext) (type : ColumnType) (op : Operator.Test)
    (v : Value) : Prop :=
  op = .isEmpty ∨ op = .isNotEmpty ∨
    match type with
    | .date => ((∃ comparison, op = .compare comparison) ∨ op = .isWithin) ∧ v.HasDays dates op
    | .checkbox => op = .compare .eq
    | _ => op ≠ .isWithin ∧ type.Reads v

/-- A criterion with the operator and the value applies to columns of the type. -/
def ColumnType.Accepts (dates : DateContext) (type : ColumnType) (v : Value) : Operator → Prop
  | .test op => type.AcceptsTest dates op v
  | .many _ => type ≠ .date ∧ type ≠ .checkbox ∧ ∀ item ∈ v.toList, type.Reads item

/-- A criterion in a group of the given depth is in order: it has a column, its column accepts
it, and there is room for the group of a list operator, even of one with no values. -/
structure Criterion.Compilable (ctx : LoweringContext) (dates : DateContext) (depth : Nat)
    (c : Criterion) : Prop where
  depth_lt : c.operator.isOfMany = true → depth < ctx.maxDepth
  column : ∃ d, Descriptor.IsLast ctx.available c.columnId d ∧
    d.type.Accepts dates c.value c.operator

/-- All groups and all criteria of a tree are in order. -/
structure Group.Compilable (c : Compiler) (anchor : Date) (tree : Group) : Prop where
  groups : ∀ depth ∈ tree.groupDepths, depth ≤ c.config.maxDepth
  criteria : ∀ p ∈ tree.criteria,
    p.2.Compilable ⟨c.available, c.config.maxDepth⟩ ⟨anchor, c.config.weekStartsOn⟩ p.1

variable {ctx : LoweringContext} {dates : DateContext} {type : ColumnType} {name : String}
  {op : Operator.Test} {v : Value}

/-! ### Literals and days -/

/-- Texts, numbers and null have a text literal. -/
theorem exists_literalRule_string_iff : (∃ l, LiteralRule .string v l) ↔ v.IsTextual := by
  refine ⟨?_, ?_⟩
  · rintro ⟨l, h⟩
    cases h <;> exact trivial
  · intro h
    cases v with
    | null => exact ⟨_, .null⟩
    | number n => exact ⟨_, .numberText n⟩
    | text s => exact ⟨_, .text s⟩
    | bool | list | date => exact h.elim

/-- Numbers, and texts that are numerals between their blanks, have a number literal. -/
theorem exists_literalRule_number_iff : (∃ l, LiteralRule .number v l) ↔ v.IsNumeric := by
  refine ⟨?_, ?_⟩
  · rintro ⟨l, h⟩
    cases h with
    | number => exact trivial
    | digits s hs => exact hs
  · intro h
    cases v with
    | number n => exact ⟨_, .number n⟩
    | text s => exact ⟨_, .digits s h⟩
    | null | bool | list | date => exact h.elim

/-- A value has a literal in the shape of a type exactly when the type reads it. -/
theorem exists_literalRule_iff : (∃ l, LiteralRule type.literalShape v l) ↔ type.Reads v := by
  cases type with
  | number => exact exists_literalRule_number_iff
  | string | user | select | multiSelect | link | attachment | date | checkbox =>
    exact exists_literalRule_string_iff

/-- A value has days exactly when it has a range of supported boundaries. -/
theorem hasDays_iff :
    v.HasDays dates op ↔ ∃ r, v.HasRange dates r ∧
      (op = .compare .le → Date.IsSupported (r.start.number + 1)) ∧
      (op = .compare .ge → Date.IsSupported (r.start.number - 1)) := by
  constructor
  · -- Supported numbers are dates, and the boundaries are then those of the resolved filter.
    rintro ⟨f, start, stop, hf, hboundaries, hstart, hstop, hnext⟩
    obtain ⟨first, rfl⟩ := Date.exists_number_eq_iff.mpr hstart
    obtain ⟨last, rfl⟩ := Date.exists_number_eq_iff.mpr hstop
    exact ⟨⟨first, last⟩, ⟨f, hf, resolve_eq_ok_iff.mpr hboundaries⟩, hnext⟩
  · rintro ⟨r, ⟨f, hf, hresolve⟩, hnext⟩
    exact ⟨f, r.start.number, r.stop.number, hf, resolve_eq_ok_iff.mp hresolve,
      r.start.isSupported_number, r.stop.isSupported_number, hnext⟩

/-! ### Single tests -/

/-- On a column that compares with literals, every test but one has its literal. -/
theorem acceptsTest_iff_of_literal (ht : type.isSingleValued = false) :
    type.AcceptsTest dates op v ↔
      op = .isEmpty ∨ op = .isNotEmpty ∨ op ≠ .isWithin ∧ type.Reads v := by
  cases type with
  | date | checkbox => cases ht
  | number | string | user | select | multiSelect | link | attachment => exact Iff.rfl

/-- A rule for a test gives what the type of the column asks. -/
theorem AtomRule.acceptsTest {a : Atom} (h : AtomRule dates type name op v a) :
    type.AcceptsTest dates op v := by
  -- Only the two operators with equality ask for one more day.
  have hdays : ∀ {op : Operator.Test} {r : DateRange}, v.HasRange dates r →
      op ≠ .compare .le → op ≠ .compare .ge → v.HasDays dates op := by
    intro op r hr hle hge
    exact hasDays_iff.mpr ⟨r, hr, fun h => absurd h hle, fun h => absurd h hge⟩
  cases h with
  | blank => exact .inl rfl
  | notBlank => exact .inr (.inl rfl)
  | checked _ ht => subst ht; exact .inr (.inr rfl)
  | sameDay ht hr | notSameDay ht hr | before ht hr | after ht hr =>
    subst ht
    exact .inr (.inr ⟨.inl ⟨_, rfl⟩, hdays hr (by decide) (by decide)⟩)
  | within ht hr =>
    subst ht
    exact .inr (.inr ⟨.inr rfl, hdays hr (by decide) (by decide)⟩)
  | @beforeNext _ r d ht hr hd =>
    subst ht
    have hnext : Date.IsSupported (r.start.number + 1) := hd ▸ d.isSupported_number
    refine .inr (.inr ⟨.inl ⟨_, rfl⟩, hasDays_iff.mpr ⟨r, hr, fun _ => hnext, ?_⟩⟩)
    intro h; cases h
  | @afterPrevious _ r d ht hr hd =>
    subst ht
    have hprevious : Date.IsSupported (r.start.number - 1) := hd ▸ d.isSupported_number
    refine .inr (.inr ⟨.inl ⟨_, rfl⟩, hasDays_iff.mpr ⟨r, hr, ?_, fun _ => hprevious⟩⟩)
    intro h; cases h
  | compare _ ht hl =>
    exact (acceptsTest_iff_of_literal ht).mpr
      (.inr (.inr ⟨by simp, exists_literalRule_iff.mp ⟨_, hl⟩⟩))
  | found hop ht hl =>
    refine (acceptsTest_iff_of_literal ht).mpr
      (.inr (.inr ⟨?_, exists_literalRule_iff.mp ⟨_, hl⟩⟩))
    rcases hop with rfl | rfl <;> simp
  | notFound ht hl =>
    exact (acceptsTest_iff_of_literal ht).mpr
      (.inr (.inr ⟨by simp, exists_literalRule_iff.mp ⟨_, hl⟩⟩))

/-- On a date column, each comparison and `isWithin` has its rule. -/
theorem exists_atomRule_date (hop : (∃ comparison, op = .compare comparison) ∨ op = .isWithin)
    (hv : v.HasDays dates op) : ∃ a, AtomRule dates .date name op v a := by
  obtain ⟨r, hr, hle, hge⟩ := hasDays_iff.mp hv
  rcases hop with ⟨comparison, rfl⟩ | rfl
  · cases comparison with
    | eq => exact ⟨_, .sameDay rfl hr⟩
    | ne => exact ⟨_, .notSameDay rfl hr⟩
    | gt => exact ⟨_, .after rfl hr⟩
    | lt => exact ⟨_, .before rfl hr⟩
    | ge =>
      obtain ⟨d, hd⟩ := Date.exists_number_eq_iff.mpr (hge rfl)
      exact ⟨_, .afterPrevious rfl hr hd⟩
    | le =>
      obtain ⟨d, hd⟩ := Date.exists_number_eq_iff.mpr (hle rfl)
      exact ⟨_, .beforeNext rfl hr hd⟩
  · exact ⟨_, .within rfl hr⟩

/-- On a column that compares with literals, every operator but `isWithin` has its rule. -/
theorem exists_atomRule_literal (ht : type.isSingleValued = false) (hop : op ≠ .isWithin)
    (hv : type.Reads v) : ∃ a, AtomRule dates type name op v a := by
  obtain ⟨l, hl⟩ := exists_literalRule_iff.mpr hv
  cases op with
  | compare comparison => exact ⟨_, .compare comparison ht hl⟩
  | contains => exact ⟨_, .found (.inl rfl) ht hl⟩
  | doesNotContain => exact ⟨_, .notFound ht hl⟩
  | filename => exact ⟨_, .found (.inr rfl) ht hl⟩
  | isEmpty => exact ⟨_, .blank v⟩
  | isNotEmpty => exact ⟨_, .notBlank v⟩
  | isWithin => exact absurd rfl hop

/-- A test has a formula exactly when the type of its column accepts it. -/
theorem exists_atomRule_iff :
    (∃ a, AtomRule dates type name op v a) ↔ type.AcceptsTest dates op v := by
  constructor
  · rintro ⟨a, h⟩
    exact h.acceptsTest
  · rintro (rfl | rfl | h)
    · exact ⟨_, .blank v⟩
    · exact ⟨_, .notBlank v⟩
    · cases type with
      | date => exact exists_atomRule_date h.1 h.2
      | checkbox => cases h; exact ⟨_, .checked v rfl⟩
      | number | string | user | select | multiSelect | link | attachment =>
        exact exists_atomRule_literal rfl h.1 h.2

/-- Tests of one column with several values have formulas when each of them has one. -/
theorem exists_forall₂_atomRule_iff {values : List Value} :
    (∃ atoms, List.Forall₂ (AtomRule dates type name op) values atoms) ↔
      ∀ v ∈ values, type.AcceptsTest dates op v := by
  rw [exists_forall₂_iff]
  exact forall₂_congr fun v _ => exists_atomRule_iff

/-! ### Nodes -/

/-- A list operator tests values in a way that needs their literal. -/
theorem accepts_many_iff {many : Operator.Many} :
    type.Accepts dates v (.many many) ↔
      type.isSingleValued = false ∧
        ∀ item ∈ v.toList, type.AcceptsTest dates many.expansion.2 item := by
  have htype : type.isSingleValued = false ↔ type ≠ .date ∧ type ≠ .checkbox := by
    rw [← not_or, ← ColumnType.isSingleValued_iff, Bool.not_eq_true]
  have htest : ∀ item, type.isSingleValued = false →
      (type.AcceptsTest dates many.expansion.2 item ↔ type.Reads item) := by
    intro item ht
    rw [acceptsTest_iff_of_literal ht]
    cases many <;> simp [Operator.Many.expansion]
  show (type ≠ .date ∧ type ≠ .checkbox ∧ _) ↔ _
  rw [← and_assoc, ← htype]
  refine and_congr_right fun ht => ?_
  simp only [htest _ ht]

/-- A criterion has a formula, or none because it has no values, exactly when it is in order. -/
theorem exists_yields_criterion_iff {depth : Nat} {c : Criterion} :
    (∃ o, (Node.criterion c).Yields ctx dates depth o) ↔ c.Compilable ctx dates depth := by
  constructor
  · rintro ⟨o, h⟩
    cases h with
    | test hop hd ha =>
      refine ⟨fun hmany => ?_, ⟨_, hd, ?_⟩⟩
      · rw [hop] at hmany; cases hmany
      · rw [hop]
        exact ha.acceptsTest
    | many hop hd htype hdepth hatoms =>
      refine ⟨fun _ => hdepth, ⟨_, hd, ?_⟩⟩
      rw [hop]
      exact accepts_many_iff.mpr ⟨htype, exists_forall₂_atomRule_iff.mp ⟨_, hatoms⟩⟩
  · rintro ⟨hdepth, d, hd, haccepts⟩
    cases hop : c.operator with
    | test op =>
      rw [hop] at haccepts
      obtain ⟨a, ha⟩ := exists_atomRule_iff.mpr haccepts
      exact ⟨_, .test hop hd ha⟩
    | many op =>
      rw [hop] at haccepts hdepth
      obtain ⟨htype, hitems⟩ := accepts_many_iff.mp haccepts
      obtain ⟨atoms, hatoms⟩ := exists_forall₂_atomRule_iff.mpr hitems
      obtain ⟨o, ho⟩ := op.expansion.1.exists_joins (atoms.map .atom)
      exact ⟨o, .many hop hd htype (hdepth rfl) hatoms ho⟩

mutual

/-- A node has a formula, or is without tests, exactly when all its places are in order. -/
theorem exists_yields_iff : ∀ (node : Node) {depth : Nat},
    (∃ o, node.Yields ctx dates depth o) ↔
      (∀ k ∈ node.groupDepths depth, k ≤ ctx.maxDepth) ∧
        ∀ p ∈ node.criteria depth, p.2.Compilable ctx dates p.1
  | .criterion c, depth => by
    rw [Node.groupDepths, Node.criteria, List.forall_mem_singleton, exists_yields_criterion_iff]
    refine ⟨fun h => ⟨?_, h⟩, And.right⟩
    intro k hk; cases hk
  | .group conjunction children, depth => by
    rw [Node.groupDepths, Node.criteria, List.forall_mem_cons, and_assoc,
      ← exists_yieldsAll_iff children]
    constructor
    · rintro ⟨o, h⟩
      cases h with
      | group hdepth hparts => exact ⟨hdepth, _, hparts⟩
    · rintro ⟨hdepth, parts, hparts⟩
      obtain ⟨o, ho⟩ := conjunction.exists_joins parts
      exact ⟨o, .group hdepth hparts ho⟩

/-- The children of a group have formulas when all groups and criteria below are in order. -/
theorem exists_yieldsAll_iff : ∀ (nodes : List Node) {depth : Nat},
    (∃ parts, Node.YieldsAll ctx dates depth nodes parts) ↔
      (∀ k ∈ Node.groupDepthsAll depth nodes, k ≤ ctx.maxDepth) ∧
        ∀ p ∈ Node.criteriaAll depth nodes, p.2.Compilable ctx dates p.1
  | [], depth => by
    refine iff_of_true ⟨[], .nil⟩ ⟨?_, ?_⟩
    · intro k hk; cases hk
    · intro p hp; cases hp
  | node :: rest, depth => by
    rw [Node.groupDepthsAll, Node.criteriaAll, List.forall_mem_append, List.forall_mem_append,
      and_and_and_comm, ← exists_yields_iff node, ← exists_yieldsAll_iff rest]
    constructor
    · rintro ⟨_, h⟩
      cases h with
      | cons hfirst hrest => exact ⟨⟨_, hfirst⟩, ⟨_, hrest⟩⟩
    · rintro ⟨⟨first, hfirst⟩, ⟨others, hrest⟩⟩
      exact ⟨first.toList ++ others, .cons hfirst hrest⟩

end

/-! ### Whole trees -/

/-- Exactly the trees with all places in order compile. -/
theorem compile_ok_iff_compilable (c : Compiler) (tree : Group) (anchor : Date) :
    (∃ text, c.compile tree anchor = .ok text) ↔ tree.Compilable c anchor := by
  have hyields : (∃ text, c.compile tree anchor = .ok text) ↔ ∃ o, tree.Yields c anchor o := by
    constructor
    · rintro ⟨text, h⟩
      obtain ⟨o, ho, -⟩ := compile_eq_ok_iff.mp h
      exact ⟨o, ho⟩
    · rintro ⟨o, ho⟩
      exact ⟨textOf o, compile_eq_ok_iff.mpr ⟨o, ho, rfl⟩⟩
  rw [hyields]
  refine (exists_yields_iff tree.toNode).trans ⟨?_, ?_⟩
  · rintro ⟨hgroups, hcriteria⟩
    exact ⟨hgroups, hcriteria⟩
  · rintro ⟨hgroups, hcriteria⟩
    exact ⟨hgroups, hcriteria⟩

end RecordFilter
