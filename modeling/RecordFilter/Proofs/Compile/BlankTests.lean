import RecordFilter.Proofs.Available.Classified
import RecordFilter.Proofs.Compile.DeadCriteria
import RecordFilter.Proofs.Compile.FirstFault

/-!
# `RecordFilter.Proofs.Compile.BlankTests`: what is classified can be filtered on

Whether a column is blank can be tested on every column. So the columns that classification gives
can all be used: a tree of such tests compiles when its groups do not stand too deep, and has a
formula when it has a test. An identifier that classification left out never compiles.

* `ColumnSource.offers_iff`: the identifiers with a column are those of the fields that can be
  filtered on.
* `Criterion.TestsBlank.compilable`: a test for blank is in order wherever its column is there.
* `compile_eq_ok_of_testsBlank`: a tree of tests for blank compiles.
* `compile_eq_error_of_missing`: a tree with a criterion without a column does not compile.
* `compile_classified`: both for the columns of fields and of tables.
-/

set_option autoImplicit false

namespace RecordFilter

/-! ### Columns of a schema -/

/-- Where the columns come from: fields as they are, or a table, where formulas count as their
results. -/
inductive ColumnSource where
  | fields (fields : List Field)
  | table (table : Table)

namespace ColumnSource

/-- The descriptors that a classifier without extensions gives. -/
def descriptors (config : ClassifierConfig) : ColumnSource → List Descriptor
  | .fields fs => (Classifier.plain config).classify fs
  | .table t => (Classifier.plain config).classifyTable t

/-- Some field with the identifier does not stand for a relationship and has a type that can be
filtered on. -/
def Offers (id : String) : ColumnSource → Prop
  | .fields fs => ∃ f ∈ fs, f.id = id ∧ ¬ f.IsRelationship ∧ f.type.IsFilterable
  | .table t =>
    ∃ f ∈ t.fields, f.id = id ∧ ¬ f.IsRelationship ∧ f.effectiveType.IsFilterable

/-- The identifiers with a column are those of the fields that can be filtered on. -/
theorem offers_iff {config : ClassifierConfig} {source : ColumnSource} {id : String} :
    (∃ d ∈ source.descriptors config, d.id = id) ↔ source.Offers id := by
  cases source with
  | fields fs =>
    show (∃ d ∈ fs.filterMap config.describe?, d.id = id) ↔
      ∃ f ∈ fs, f.id = id ∧ ¬ f.IsRelationship ∧ f.type.IsFilterable
    simp only [← @exists_describe?_iff config, List.mem_filterMap]
    constructor
    · intro ⟨d, ⟨f, hf, hd⟩, hid⟩
      exact ⟨f, hf, (describe?_eq_some_iff.mp hd).2.id.symm.trans hid, d, hd⟩
    · intro ⟨f, hf, hid, d, hd⟩
      exact ⟨d, ⟨f, hf, hd⟩, (describe?_eq_some_iff.mp hd).2.id.trans hid⟩
  | table t =>
    show (∃ d ∈ (Classifier.plain config).classifyTable t, d.id = id) ↔
      ∃ f ∈ t.fields, f.id = id ∧ f.IsFilterable
    simp only [mem_classifyTable_iff]
    constructor
    · intro ⟨d, ⟨f, hf, hfilter, hd⟩, hid⟩
      exact ⟨f, hf, hd.id.symm.trans hid, hfilter⟩
    · intro ⟨f, hf, hid, hfilter⟩
      obtain ⟨d, hd⟩ := exists_hasDescriptor config hfilter
      exact ⟨d, ⟨f, hf, hfilter, hd⟩, hd.id.trans hid⟩

end ColumnSource

/-! ### Tests for blank -/

/-- The criterion tests whether its column is blank, or whether it is not. -/
def Criterion.TestsBlank (c : Criterion) : Prop :=
  c.operator = .test .isEmpty ∨ c.operator = .test .isNotEmpty

variable {ctx : LoweringContext} {dates : DateContext} {c : Compiler} {anchor : Date}
  {tree : Group}

/-- An identifier has a last column when it has a column. -/
theorem exists_isLast_iff {available : List Descriptor} {id : String} :
    (∃ d, Descriptor.IsLast available id d) ↔ ∃ d ∈ available, d.id = id := by
  simp only [← Descriptor.lookup?_eq_some_iff]
  rw [← Option.isSome_iff_exists, ← Option.ne_none_iff_isSome, ne_eq, lookup?_eq_none_iff]
  simp

/-- A test for blank is in order wherever its column is there: its value is not read, and every
type accepts it. -/
theorem Criterion.TestsBlank.compilable {depth : Nat} {c : Criterion} (h : c.TestsBlank)
    (hcolumn : ∃ d ∈ ctx.available, d.id = c.columnId) : c.Compilable ctx dates depth := by
  obtain ⟨d, hd⟩ := exists_isLast_iff.mpr hcolumn
  refine ⟨?_, d, hd, ?_⟩
  · intro hmany
    cases h with
    | inl hop | inr hop => rw [hop] at hmany; cases hmany
  · cases h with
    | inl hop => rw [hop]; exact .inl rfl
    | inr hop => rw [hop]; exact .inr (.inl rfl)

/-- A test for blank is never dead. -/
theorem Criterion.TestsBlank.not_isDead {c : Criterion} (h : c.TestsBlank) : ¬ c.IsDead := by
  intro hdead
  have hmany := hdead.1
  cases h with
  | inl hop | inr hop => rw [hop] at hmany; cases hmany

/-- A formula has a text. -/
theorem textOf_eq_empty_iff {o : Option Formula} : textOf o = "" ↔ o = none := by
  cases o with
  | none => simp [textOf]
  | some f => simpa [textOf] using f.text_ne_empty

/-- A tree of tests for blank compiles. Its text is that of a group of the root's conjunction, or
empty if there is no test. -/
theorem compile_eq_ok_of_testsBlank
    (hblank : ∀ p ∈ tree.criteria, p.2.TestsBlank ∧ ∃ d ∈ c.available, d.id = p.2.columnId)
    (hdepth : ∀ depth ∈ tree.groupDepths, depth ≤ c.config.maxDepth) :
    ∃ text, c.compile tree anchor = .ok text ∧ (text = "" ↔ tree.criteria = []) ∧
      (text ≠ "" → ∃ rest, text = tree.conjunction.keyword ++ "(" ++ rest) := by
  obtain ⟨o, ho⟩ : ∃ o, tree.Yields c anchor o := (exists_yields_iff tree.toNode).mpr
    ⟨hdepth, fun p hp => (hblank p hp).1.compilable (hblank p hp).2⟩
  refine ⟨textOf o, compile_eq_ok_iff.mpr ⟨o, ho, rfl⟩, ?_, ?_⟩
  · -- All criteria are live, so a tree without a formula has none.
    rw [textOf_eq_empty_iff, ho.eq_none_iff]
    constructor
    · intro hidle
      exact List.eq_nil_iff_forall_not_mem.mpr fun p hp =>
        (hblank p hp).1.not_isDead (hidle p hp)
    · intro hnil p hp
      rw [show tree.toNode.criteria 0 = [] from hnil] at hp
      cases hp
  · intro hne
    obtain ⟨-, parts, -, hformula⟩ := yields_group_iff.mp ho
    cases o with
    | none => exact absurd rfl hne
    | some f => exact hformula.exists_text_eq

/-- A tree with a criterion without a column does not compile, however deep its groups may
stand. -/
theorem compile_eq_error_of_missing {p : Nat × Criterion} (hp : p ∈ tree.criteria)
    (hmissing : ∀ d ∈ c.available, d.id ≠ p.2.columnId) :
    ∃ fault, c.compile tree anchor = .error fault := by
  cases hcompile : c.compile tree anchor with
  | error fault => exact ⟨fault, rfl⟩
  | ok text =>
    -- In a tree that compiles, every criterion has a column.
    obtain ⟨o, ho, -⟩ := compile_eq_ok_iff.mp hcompile
    obtain ⟨d, hd, -⟩ := (((exists_yields_iff tree.toNode).mp ⟨o, ho⟩).2 p hp).column
    obtain ⟨d, hmem, hid⟩ := exists_isLast_iff.mp ⟨d, hd⟩
    exact absurd hid (hmissing d hmem)

/-- Against the columns that a classifier without extensions gives, a tree whose criteria all test
such columns for blank compiles with all settings that leave room for its groups. The text is
empty exactly when there is no criterion, and begins with the conjunction of the root otherwise. A
tree with a criterion on any other identifier does not compile with any settings. The identifiers
with a column are those of the fields that can be filtered on. -/
theorem compile_classified (config : ClassifierConfig) (source : ColumnSource)
    (limits : CompilerConfig) (anchor : Date) (tree : Group) :
    let c : Compiler := ⟨source.descriptors config, limits⟩
    ((∀ p ∈ tree.criteria, (p.2.operator = .test .isEmpty ∨ p.2.operator = .test .isNotEmpty) ∧
        ∃ d ∈ c.available, d.id = p.2.columnId) →
      (∀ depth ∈ tree.groupDepths, depth ≤ limits.maxDepth) →
      ∃ text, c.compile tree anchor = .ok text ∧ (text = "" ↔ tree.criteria = []) ∧
        (text ≠ "" → ∃ rest, text = tree.conjunction.keyword ++ "(" ++ rest)) ∧
      ((∃ p ∈ tree.criteria, ∀ d ∈ c.available, d.id ≠ p.2.columnId) →
        ∃ fault, c.compile tree anchor = .error fault) ∧
      ∀ id, (∃ d ∈ c.available, d.id = id) ↔ source.Offers id := by
  intro c
  refine ⟨fun hblank hdepth => compile_eq_ok_of_testsBlank hblank hdepth, ?_, ?_⟩
  · intro ⟨p, hp, hmissing⟩
    exact compile_eq_error_of_missing hp hmissing
  · exact fun id => ColumnSource.offers_iff

/-- A formula that evaluates to a number can be tested for blank two groups deep, with any value.
A relationship field of the same table cannot. -/
theorem blank_tests_of_formula :
    let total : Field := ⟨"f1", "Total", .formula, none, some ⟨[], some ⟨.number, none⟩, []⟩⟩
    let team : Field := .ofType "__rel__f2" "Team" .multipleRecordLinks
    let source : ColumnSource := .table ⟨"t", "Tasks", none, none, [total, team]⟩
    let c : Compiler := ⟨source.descriptors .standard, ⟨2, .monday⟩⟩
    let anchor : Date := ⟨738000, by decide, by decide⟩
    let tree : Group :=
      ⟨.any, [.group .all [.criterion ⟨"f1", "Sum", .test .isNotEmpty, .list [.null]⟩]]⟩
    let lost : Group := ⟨.all, [.criterion ⟨"__rel__f2", "Team", .test .isEmpty, .null⟩]⟩
    (∀ p ∈ tree.criteria, (p.2.operator = .test .isEmpty ∨ p.2.operator = .test .isNotEmpty) ∧
        ∃ d ∈ c.available, d.id = p.2.columnId) ∧
      (∀ depth ∈ tree.groupDepths, depth ≤ c.config.maxDepth) ∧
      (∃ rest, c.compile tree anchor = .ok ("OR(" ++ rest)) ∧
      (∃ fault, c.compile lost anchor = .error fault) ∧ ¬ source.Offers "__rel__f2" := by
  intro total team source c anchor tree lost
  have havailable : c.available = [.plain "f1" "Total" .number] := by decide
  have hmissing : ∀ d ∈ c.available, d.id ≠ "__rel__f2" := by
    rw [havailable]
    decide
  have hblank : ∀ p ∈ tree.criteria,
      (p.2.operator = .test .isEmpty ∨ p.2.operator = .test .isNotEmpty) ∧
        ∃ d ∈ c.available, d.id = p.2.columnId := by
    intro p hp
    rw [List.mem_singleton.mp hp, havailable]
    exact ⟨.inr rfl, _, List.mem_singleton_self _, rfl⟩
  have hdepth : ∀ depth ∈ tree.groupDepths, depth ≤ c.config.maxDepth := by decide
  obtain ⟨hok, -, -⟩ := compile_classified .standard source c.config anchor tree
  obtain ⟨-, herror, hoffers⟩ := compile_classified .standard source c.config anchor lost
  obtain ⟨text, htext, hempty, hrest⟩ := hok hblank hdepth
  obtain ⟨rest, rfl⟩ := hrest (by rw [ne_eq, hempty]; exact List.cons_ne_nil _ _)
  refine ⟨hblank, hdepth, ⟨rest, htext⟩,
    herror ⟨_, List.mem_singleton_self _, hmissing⟩, ?_⟩
  rw [← hoffers]
  exact fun ⟨d, hd, hid⟩ => hmissing d hd hid

end RecordFilter
