import Mathlib.Data.List.Nodup
import RecordFilter.Proofs.Available.Described
import RecordFilter.Proofs.Compile.Tests

/-!
# `RecordFilter.Proofs.Available.Classified`: the columns of a table

Classification goes through the fields of a table in order. Each field that can be filtered on
has one descriptor in the result, and no other field has any.

* `filterMap_eq_iff_forall₂`: the results of a partial function stand beside the elements that
  have one.
* `classifyTable_eq_iff_forall₂`: the descriptors of a table stand beside its fields that can be
  filtered on, and each describes its field.
* `lookup?_classifyTable`: where the identifiers of the fields differ, looking up a field gives
  its own descriptor or none.
* `classifyTable_describes`: all of this as one statement about tables.
-/

set_option autoImplicit false

namespace RecordFilter

/-! ### Elements with a result -/

section

variable {α β : Type} {g : α → Option β} {p : α → Prop} [DecidablePred p] {R : α → β → Prop}

/-- If exactly the elements with `p` have a result, and `R` says which, then the results stand
beside these elements. -/
theorem filterMap_eq_iff_forall₂ (hresult : ∀ a b, g a = some b ↔ p a ∧ R a b)
    (hexists : ∀ a, p a → ∃ b, R a b) {xs : List α} {ys : List β} :
    xs.filterMap g = ys ↔ List.Forall₂ R (xs.filter fun a => p a) ys := by
  induction xs generalizing ys with
  | nil => simp [List.forall₂_nil_left_iff, eq_comm]
  | cons a xs ih =>
    by_cases ha : p a
    · -- What is related to the element is its one result, so the list has to begin with it.
      obtain ⟨b, hb⟩ := hexists a ha
      have hg := (hresult a b).mpr ⟨ha, hb⟩
      have hunique : ∀ b', R a b' ↔ b = b' := by
        intro b'
        rw [← Option.some.injEq, ← hg, hresult]
        simp [ha]
      rw [List.filterMap_cons_some hg, List.filter_cons_of_pos (by simpa using ha),
        List.forall₂_cons_left_iff]
      simp only [hunique, ← ih]
      constructor
      · intro h
        exact ⟨b, xs.filterMap g, rfl, rfl, h.symm⟩
      · rintro ⟨b', rest, rfl, rfl, rfl⟩
        rfl
    · have hg : g a = none := by
        rw [Option.eq_none_iff_forall_ne_some]
        intro b hb
        exact ha ((hresult a b).mp hb).1
      rw [List.filterMap_cons_none hg, List.filter_cons_of_neg (by simpa using ha)]
      exact ih

end

/-! ### Tables -/

/-- The field can be filtered on, counted as its result if it is a formula that declares one. -/
def Field.IsFilterable (f : Field) : Prop :=
  ¬ f.IsRelationship ∧ f.effectiveType.IsFilterable

instance (f : Field) : Decidable f.IsRelationship :=
  decidable_of_iff _ f.isRelationship_iff

instance (fieldType : FieldType) : Decidable fieldType.IsFilterable :=
  inferInstanceAs (Decidable (∃ _ ∈ ColumnType.ofTypeNames, _))

instance (f : Field) : Decidable f.IsFilterable :=
  inferInstanceAs (Decidable (¬ _ ∧ _))

/-- The descriptor of a field, counted as its result if it is a formula that declares one. -/
def Field.HasDescriptor (config : ClassifierConfig) (f : Field) (d : Descriptor) : Prop :=
  d.Describes config f f.effectiveType f.effectiveOptions

/-- What a field can be filtered on as is decided by the name of the type that it counts with. -/
theorem Field.isFilterable_iff {f : Field} {typeName : String}
    (htype : f.effectiveType = .ofName typeName) :
    f.IsFilterable ↔
      ¬ f.IsRelationship ∧ ∃ type, (typeName, type) ∈ ColumnType.ofTypeNames := by
  unfold Field.IsFilterable FieldType.IsFilterable
  simp only [htype, FieldType.ofName_inj]
  refine and_congr_right fun _ => ?_
  constructor
  · rintro ⟨⟨name, type⟩, hmem, rfl⟩
    exact ⟨type, hmem⟩
  · intro ⟨type, hmem⟩
    exact ⟨(typeName, type), hmem, rfl⟩

variable {config : ClassifierConfig} {t : Table}

/-- Without extensions, the descriptors are those of the fields that count for the table's. -/
theorem classifyTable_eq (config : ClassifierConfig) (t : Table) :
    (Classifier.plain config).classifyTable t
      = t.fields.filterMap fun f => config.describe? f.resolveFormula := by
  show (t.fields.map Field.resolveFormula).filterMap config.describe? = _
  rw [List.filterMap_map]
  rfl

/-- A field has a descriptor, counted as its result, exactly when it can be filtered on. -/
theorem hasDescriptor_iff {f : Field} {d : Descriptor} :
    config.describe? f.resolveFormula = some d ↔
      f.IsFilterable ∧ f.HasDescriptor config d := by
  rw [describe?_resolveFormula_eq_some_iff, Field.IsFilterable, and_assoc]
  refine and_congr_right fun _ => ⟨fun hd => ⟨?_, hd⟩, fun hd => hd.2⟩
  obtain ⟨typeName, htype, hmem, -⟩ := hd.type
  exact ⟨_, hmem, htype⟩

/-- Every field that can be filtered on has a descriptor. -/
theorem exists_hasDescriptor (config : ClassifierConfig) {f : Field} (hf : f.IsFilterable) :
    ∃ d, f.HasDescriptor config d := by
  obtain ⟨d, hd⟩ := (@exists_describe?_resolveFormula_iff config f).mpr hf
  exact ⟨d, (hasDescriptor_iff.mp hd).2⟩

/-- The descriptors of a table stand beside its fields that can be filtered on. -/
theorem classifyTable_eq_iff_forall₂ {ds : List Descriptor} :
    (Classifier.plain config).classifyTable t = ds ↔
      List.Forall₂ (Field.HasDescriptor config) (t.fields.filter fun f => f.IsFilterable) ds := by
  rw [classifyTable_eq]
  exact filterMap_eq_iff_forall₂ (fun _ _ => hasDescriptor_iff)
    fun _ hf => exists_hasDescriptor config hf

/-- The descriptors of a table are those of its fields that can be filtered on. -/
theorem mem_classifyTable_iff {d : Descriptor} :
    d ∈ (Classifier.plain config).classifyTable t ↔
      ∃ f ∈ t.fields, f.IsFilterable ∧ f.HasDescriptor config d := by
  simp only [classifyTable_eq, List.mem_filterMap, hasDescriptor_iff]

/-! ### Identifiers -/

/-- The identifiers of the descriptors are among those of the fields, in the same order. -/
theorem ids_classifyTable_sublist (config : ClassifierConfig) (t : Table) :
    (((Classifier.plain config).classifyTable t).map Descriptor.id).Sublist
      (t.fields.map Field.id) := by
  have hids : ∀ {fs : List Field} {ds : List Descriptor},
      List.Forall₂ (Field.HasDescriptor config) fs ds →
        ds.map Descriptor.id = fs.map Field.id := by
    intro fs ds h
    induction h with
    | nil => rfl
    | cons hd _ ih => rw [List.map_cons, List.map_cons, hd.id, ih]
  rw [hids (classifyTable_eq_iff_forall₂.mp rfl)]
  exact List.filter_sublist.map Field.id

/-- Where no identifier comes twice, every descriptor is the last one of its identifier. -/
theorem lookup?_eq_some_of_mem {ds : List Descriptor} {d : Descriptor}
    (hnodup : (ds.map Descriptor.id).Nodup) (hd : d ∈ ds) :
    Descriptor.lookup? ds d.id = some d := by
  obtain ⟨before, after, rfl⟩ := List.append_of_mem hd
  refine Descriptor.lookup?_eq_some_iff.mpr ⟨rfl, before, after, rfl, ?_⟩
  intro e he hid
  rw [List.map_append, List.map_cons] at hnodup
  have hfresh := (List.nodup_cons.mp (List.nodup_append.mp hnodup).2.1).1
  exact hfresh (List.mem_map.mpr ⟨e, he, hid⟩)

/-- Where the identifiers of the fields differ, looking up a field gives its own descriptor, or
none if it has none. -/
theorem lookup?_classifyTable (hnodup : (t.fields.map Field.id).Nodup) {f : Field}
    (hf : f ∈ t.fields) :
    (f.IsFilterable → ∃ d, f.HasDescriptor config d ∧
      Descriptor.lookup? ((Classifier.plain config).classifyTable t) f.id = some d) ∧
    (¬ f.IsFilterable →
      Descriptor.lookup? ((Classifier.plain config).classifyTable t) f.id = none) := by
  have hids := (ids_classifyTable_sublist config t).nodup hnodup
  constructor
  · intro hfilter
    obtain ⟨d, hdescriptor⟩ := exists_hasDescriptor config hfilter
    refine ⟨d, hdescriptor, ?_⟩
    rw [← hdescriptor.id]
    exact lookup?_eq_some_of_mem hids (mem_classifyTable_iff.mpr ⟨f, hf, hfilter, hdescriptor⟩)
  · intro hnot
    rw [Option.eq_none_iff_forall_ne_some]
    intro d hd
    obtain ⟨hid, before, after, hsplit, -⟩ := Descriptor.lookup?_eq_some_iff.mp hd
    have hmem : d ∈ (Classifier.plain config).classifyTable t := by
      rw [hsplit]
      simp
    -- The descriptor would be that of another field with the same identifier.
    obtain ⟨other, hother, hfilter, hdescriptor⟩ := mem_classifyTable_iff.mp hmem
    have hsame := List.inj_on_of_nodup_map hnodup hother hf (hdescriptor.id.symm.trans hid)
    rw [hsame] at hfilter
    exact hnot hfilter

/-- Without extensions, classification gives one descriptor for each field of the table that can
be filtered on and none for any other field, in the order of the fields, and each descriptor is as
`Descriptor.Describes` says. Whether a field can be filtered on is decided by its identifier and
the name of the type that it counts with. Where the identifiers of the fields differ, those of the
descriptors do, and looking up a field gives its own descriptor or none. -/
theorem classifyTable_describes (config : ClassifierConfig) (t : Table) :
    (∀ ds, (Classifier.plain config).classifyTable t = ds ↔
      List.Forall₂ (fun f d => d.Describes config f f.effectiveType f.effectiveOptions)
        (t.fields.filter fun f => f.IsFilterable) ds) ∧
      (∀ (f : Field) (typeName : String), f.effectiveType = .ofName typeName →
        (f.IsFilterable ↔
          ¬ f.IsRelationship ∧ ∃ type, (typeName, type) ∈ ColumnType.ofTypeNames)) ∧
      ((t.fields.map Field.id).Nodup →
        (((Classifier.plain config).classifyTable t).map Descriptor.id).Nodup ∧
        ∀ f ∈ t.fields,
          (f.IsFilterable → ∃ d, d.Describes config f f.effectiveType f.effectiveOptions ∧
            Descriptor.lookup? ((Classifier.plain config).classifyTable t) f.id = some d) ∧
          (¬ f.IsFilterable →
            Descriptor.lookup? ((Classifier.plain config).classifyTable t) f.id = none)) := by
  refine ⟨fun ds => classifyTable_eq_iff_forall₂, fun f typeName => Field.isFilterable_iff, ?_⟩
  intro hnodup
  exact ⟨(ids_classifyTable_sublist config t).nodup hnodup,
    fun f hf => lookup?_classifyTable hnodup hf⟩

/-- A formula counts as the select that it evaluates to, and of two labels in a name the last one
is dropped. A formula of a formula, an unknown type and a relationship are left out. -/
theorem columns_of_odd_fields :
    let result : FormulaResult := ⟨.singleSelect, some ⟨[.named "Todo", .named "Done"], none, []⟩⟩
    let nested : FormulaResult := ⟨.formula, some ⟨[], some ⟨.number, none⟩, []⟩⟩
    let status : Field := ⟨"f1", "Status", .formula, none, some ⟨[], some result, []⟩⟩
    let owner : Field := .ofType "f2" "Owner (Name) (Name)" .createdByName
    let total : Field := ⟨"f3", "Total", .formula, none, some ⟨[], some nested, []⟩⟩
    let t : Table := ⟨"t", "Tasks", none, none, [status, owner, total,
      .ofType "f4" "Button" (.other "button"), .ofType "__rel__f5" "Team" .multipleRecordLinks]⟩
    let ds : List Descriptor :=
      [⟨"f1", "Status", .select, some [⟨"Todo", "Todo"⟩, ⟨"Done", "Done"⟩]⟩,
      .plain "f2" "Owner (Name)" .user]
    (t.fields.map Field.id).Nodup ∧ (Classifier.plain .standard).classifyTable t = ds ∧
      (ds.map Descriptor.id).Nodup ∧ Descriptor.lookup? ds total.id = none := by
  intro result nested status owner total t ds
  obtain ⟨-, -, hids⟩ := classifyTable_describes .standard t
  have hnodup : (t.fields.map Field.id).Nodup := by decide
  have hds : (Classifier.plain .standard).classifyTable t = ds := by decide
  obtain ⟨hdistinct, hlookup⟩ := hids hnodup
  rw [hds] at hdistinct hlookup
  refine ⟨hnodup, hds, hdistinct, (hlookup total (by simp [t])).2 ?_⟩
  decide

end RecordFilter
