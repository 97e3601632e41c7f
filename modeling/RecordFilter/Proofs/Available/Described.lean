import Mathlib.Data.List.Forall2
import RecordFilter.Available.Classify

/-!
# `RecordFilter.Proofs.Available.Described`: what the column of a field looks like

`Descriptor.Describes` says which descriptor a field has, part by part: the identifier of the
field, the column type that stands for the name of the field's type in a table, the name of the
field without the label of a compound value, and the choices of the field for the two select
types. The type and the options that count for a formula are those of its declared result.

* `ColumnType.ofFieldType?_eq_some_iff`: the column type of a field type is the one of its name.
* `stripLabel_eq_iff`: one label at the end of a name is dropped, and nothing else.
* `describe?_eq_some_iff`: a field has a descriptor exactly when it does not stand for a
  relationship and something describes it.
* `describe?_resolveFormula_eq_some_iff`: the same of a field that counts as its result.
-/

set_option autoImplicit false

namespace RecordFilter

/-! ### Names of types -/

/-- The names of the twenty-six types that can be filtered on, with the column type of each. -/
def ColumnType.ofTypeNames : List (String × ColumnType) :=
  [("singleLineText", .string), ("barcode.text", .string), ("multilineText", .string),
    ("phoneNumber", .string), ("richText", .string), ("url", .string), ("rollup", .string),
    ("autoNumber", .number), ("count", .number), ("currency", .number), ("duration", .number),
    ("number", .number), ("percent", .number), ("rating", .number),
    ("date", .date), ("dateTime", .date), ("createdTime", .date), ("lastModifiedTime", .date),
    ("singleCollaborator.name", .user), ("createdBy.name", .user),
    ("lastModifiedBy.name", .user),
    ("singleSelect", .select), ("multipleSelects", .multiSelect),
    ("multipleRecordLinks", .link), ("multipleAttachments", .attachment),
    ("checkbox", .checkbox)]

/-- No two names are names of the same type. -/
theorem FieldType.ofName_inj {s t : String} : ofName s = ofName t ↔ s = t := by
  constructor
  · intro h
    rw [← name_ofName s, h, name_ofName]
  · intro h
    rw [h]

/-- The column type of a field type is the one that stands beside the name of the type. -/
theorem ColumnType.ofFieldType?_eq_some_iff {fieldType : FieldType} {type : ColumnType} :
    ofFieldType? fieldType = some type ↔
      ∃ name, (name, type) ∈ ofTypeNames ∧ fieldType = .ofName name := by
  constructor
  · intro h
    refine ⟨fieldType.name, ?_⟩
    -- Three types have no column type. Every other one stands in the table under its name.
    cases fieldType with
    | email | formula | other => cases h
    | _ => cases h; decide
  · intro ⟨name, hmem, htype⟩
    have htable : ∀ entry ∈ ofTypeNames,
        ofFieldType? (.ofName entry.1) = some entry.2 := by decide
    rw [htype]
    exact htable _ hmem

/-! ### Labels -/

/-- `short` is the name without one label in parentheses at its end. Where there is no label, or
the name does not end with it, it is the whole name. -/
def DropsLabel (name : String) : Option String → String → Prop
  | some label, short => name = short ++ " (" ++ label ++ ")" ∨
      (∀ s, name ≠ s ++ " (" ++ label ++ ")") ∧ short = name
  | none, short => short = name

/-- The label at the end of the names of fields whose type has that name. -/
def ClassifierConfig.labelOf? (config : ClassifierConfig) (typeName : String) : Option String :=
  if typeName ∈ ["singleCollaborator.name", "createdBy.name", "lastModifiedBy.name"] then
    some config.nameSuffix
  else if typeName = "barcode.text" then some config.valueSuffix
  else none

/-- A name ends with a label when it is some text with the label behind it. -/
theorem toList_eq_append_labelSuffix_iff {name label short : String} :
    name.toList = short.toList ++ labelSuffix label ↔
      name = short ++ " (" ++ label ++ ")" := by
  have hlist : (short ++ " (" ++ label ++ ")").toList = short.toList ++ labelSuffix label := by
    simp [labelSuffix]
  rw [← hlist, String.toList_inj]

/-- One label at the end of a name is dropped, and nothing else. -/
theorem stripLabel_eq_iff {name label short : String} :
    stripLabel name label = short ↔ DropsLabel name (some label) short := by
  unfold stripLabel
  simp only [List.isSuffixOf_iff_suffix]
  by_cases hends : labelSuffix label <:+ name.toList
  · obtain ⟨front, hfront⟩ := hends
    -- What stands before the label is the only text that can be left.
    have hname : name.toList = (String.ofList front).toList ++ labelSuffix label := by
      rw [String.toList_ofList, hfront]
    have htake : name.toList.take (name.toList.length - (labelSuffix label).length) = front := by
      rw [← hfront]
      simp
    rw [if_pos ⟨front, hfront⟩, htake]
    constructor
    · intro h
      rw [← h]
      exact .inl (toList_eq_append_labelSuffix_iff.mp hname)
    · intro h
      cases h with
      | inl h =>
        have hshort := toList_eq_append_labelSuffix_iff.mpr h
        rw [hname, List.append_cancel_right_eq, String.toList_inj] at hshort
        exact hshort
      | inr h => exact absurd (toList_eq_append_labelSuffix_iff.mp hname) (h.1 _)
  · have hother : ∀ s, name ≠ s ++ " (" ++ label ++ ")" := by
      intro s hs
      exact hends ⟨s.toList, (toList_eq_append_labelSuffix_iff.mpr hs).symm⟩
    rw [if_neg hends]
    constructor
    · intro h
      exact .inr ⟨hother, h.symm⟩
    · intro h
      cases h with
      | inl h => exact absurd h (hother short)
      | inr h => exact h.2.symm

/-- The name of a column drops the label that its type has. -/
theorem columnName_eq_iff {config : ClassifierConfig} {f : Field} {typeName short : String}
    (htype : f.type = .ofName typeName) :
    config.columnName f = short ↔ DropsLabel f.name (config.labelOf? typeName) short := by
  have hbarcode : f.type = .barcodeText ↔ typeName = "barcode.text" := by
    rw [htype, ← FieldType.ofName_inj]
    rfl
  have huser : f.type = .singleCollaboratorName ∨ f.type = .createdByName ∨
      f.type = .lastModifiedByName ↔
        typeName ∈ ["singleCollaborator.name", "createdBy.name", "lastModifiedBy.name"] := by
    simp only [List.mem_cons, List.not_mem_nil, or_false]
    rw [htype, ← FieldType.ofName_inj, ← FieldType.ofName_inj, ← FieldType.ofName_inj]
    rfl
  unfold ClassifierConfig.columnName ClassifierConfig.labelOf?
  simp only [← huser, ← hbarcode]
  -- One case for each of the four types that have a label, and one for all others.
  split
  · rename_i h
    simp only [h, reduceCtorEq, or_self, if_false, if_true]
    exact stripLabel_eq_iff
  · rename_i h
    simp only [h, true_or, if_true]
    exact stripLabel_eq_iff
  · rename_i h
    simp only [h, reduceCtorEq, true_or, or_true, if_true]
    exact stripLabel_eq_iff
  · rename_i h
    simp only [h, or_true, if_true]
    exact stripLabel_eq_iff
  · rename_i hb hs hc hl
    rw [if_neg (not_or.mpr ⟨hs, not_or.mpr ⟨hc, hl⟩⟩), if_neg hb]
    exact eq_comm

/-! ### Descriptors of fields -/

/-- The field stands for a relationship to another table. -/
def Field.IsRelationship (f : Field) : Prop :=
  ∃ rest, f.id = "__rel__" ++ rest

/-- The descriptor of a field that counts with a type and options. -/
structure Descriptor.Describes (config : ClassifierConfig) (f : Field) (fieldType : FieldType)
    (options : Option FieldOptions) (d : Descriptor) : Prop where
  id : d.id = f.id
  type : ∃ typeName, fieldType = .ofName typeName ∧ (typeName, d.type) ∈ ColumnType.ofTypeNames ∧
    DropsLabel f.name (config.labelOf? typeName) d.name
  options : ∀ offers, d.options = some offers ↔ (d.type = .select ∨ d.type = .multiSelect) ∧
    offers = ((options.map FieldOptions.choices).getD []).map fun c => ⟨c.name, c.name⟩

/-- The prefix of an identifier is found where it is. -/
theorem Field.isRelationship_iff (f : Field) : f.isRelationship = true ↔ f.IsRelationship := by
  unfold isRelationship IsRelationship
  rw [List.isPrefixOf_iff_prefix]
  constructor
  · intro ⟨rest, h⟩
    refine ⟨String.ofList rest, ?_⟩
    rw [← String.toList_inj, ← h]
    simp [relationshipMark]
  · intro ⟨rest, h⟩
    exact ⟨rest.toList, by rw [h]; simp [relationshipMark]⟩

/-- The select types, and no others, come with choices. -/
theorem offers_eq_some_iff {type : ColumnType} {f : Field} {offers : List Offer} :
    ClassifierConfig.offers type f = some offers ↔ (type = .select ∨ type = .multiSelect) ∧
      offers = f.choices.map fun c => ⟨c.name, c.name⟩ := by
  unfold ClassifierConfig.offers
  cases type <;> simp [ColumnType.offersChoices, eq_comm]

/-- A field has a descriptor exactly when it does not stand for a relationship and the descriptor
describes it. -/
theorem describe?_eq_some_iff {config : ClassifierConfig} {f : Field} {d : Descriptor} :
    config.describe? f = some d ↔
      ¬ f.IsRelationship ∧ d.Describes config f f.type f.options := by
  rw [ClassifierConfig.describe?, ← f.isRelationship_iff]
  by_cases hmark : f.isRelationship = true
  · simp [hmark]
  · simp only [hmark, Bool.false_eq_true, if_false, not_false_eq_true, true_and,
      Option.map_eq_some_iff, ColumnType.ofFieldType?_eq_some_iff]
    constructor
    · rintro ⟨type, ⟨typeName, hmem, htype⟩, rfl⟩
      exact ⟨rfl, ⟨typeName, htype, hmem, (columnName_eq_iff htype).mp rfl⟩,
        fun _ => offers_eq_some_iff⟩
    · rintro ⟨hid, ⟨typeName, htype, hmem, hname⟩, hoptions⟩
      refine ⟨d.type, ⟨typeName, hmem, htype⟩, ?_⟩
      have hoffers : ClassifierConfig.offers d.type f = d.options := by
        refine Option.ext fun offers => ?_
        rw [offers_eq_some_iff]
        exact (hoptions offers).symm
      obtain ⟨id, name, type, options⟩ := d
      rw [(columnName_eq_iff htype).mpr hname, hoffers, ← hid]

/-- The fields of a type can be filtered on: the name of the type has a column type. -/
def FieldType.IsFilterable (fieldType : FieldType) : Prop :=
  ∃ entry ∈ ColumnType.ofTypeNames, fieldType = .ofName entry.1

/-- A field has a descriptor when it does not stand for a relationship and its type can be
filtered on. -/
theorem exists_describe?_iff {config : ClassifierConfig} {f : Field} :
    (∃ d, config.describe? f = some d) ↔ ¬ f.IsRelationship ∧ f.type.IsFilterable := by
  constructor
  · intro ⟨d, hd⟩
    obtain ⟨hmark, -, ⟨typeName, htype, hmem, -⟩, -⟩ := describe?_eq_some_iff.mp hd
    exact ⟨hmark, _, hmem, htype⟩
  · intro ⟨hmark, ⟨typeName, type⟩, hmem, htype⟩
    have hcolumn := ColumnType.ofFieldType?_eq_some_iff.mpr ⟨typeName, hmem, htype⟩
    rw [← f.isRelationship_iff] at hmark
    rw [ClassifierConfig.describe?, if_neg hmark, hcolumn]
    exact ⟨_, rfl⟩

/-! ### Formulas -/

/-- The type that a field counts with: of a formula that declares a result, the result's. -/
def Field.effectiveType (f : Field) : FieldType :=
  match f.type, f.options with
  | .formula, some ⟨_, some result, _⟩ => result.type
  | type, _ => type

/-- The options that a field counts with: of a formula that declares a result, the result's. -/
def Field.effectiveOptions (f : Field) : Option FieldOptions :=
  match f.type, f.options with
  | .formula, some ⟨_, some result, _⟩ => result.options
  | _, options => options

/-- A field counts with the identifier and the name that it has. -/
theorem Field.resolveFormula_eq (f : Field) : ∃ description,
    f.resolveFormula = ⟨f.id, f.name, f.effectiveType, description, f.effectiveOptions⟩ := by
  obtain ⟨id, name, type, description, options⟩ := f
  by_cases htype : type = .formula
  · subst htype
    -- Only options with a result make a difference.
    cases options with
    | none => exact ⟨_, rfl⟩
    | some options =>
      obtain ⟨choices, result, extra⟩ := options
      cases result with
      | none => exact ⟨_, rfl⟩
      | some result => exact ⟨_, rfl⟩
  · refine ⟨description, ?_⟩
    simp [resolveFormula, formulaResult?, effectiveType, effectiveOptions, htype]

/-- A formula has the descriptor of a field of its result. -/
theorem describe?_resolveFormula_eq_some_iff {config : ClassifierConfig} {f : Field}
    {d : Descriptor} : config.describe? f.resolveFormula = some d ↔
      ¬ f.IsRelationship ∧ d.Describes config f f.effectiveType f.effectiveOptions := by
  obtain ⟨description, hresolved⟩ := f.resolveFormula_eq
  rw [describe?_eq_some_iff, hresolved]
  refine and_congr_right fun _ => ?_
  exact ⟨fun ⟨hid, htype, hoptions⟩ => ⟨hid, htype, hoptions⟩,
    fun ⟨hid, htype, hoptions⟩ => ⟨hid, htype, hoptions⟩⟩

/-- Which fields have a descriptor, counted as their results: those of no relationship whose type is
a column type. -/
theorem exists_describe?_resolveFormula_iff {config : ClassifierConfig} {f : Field} :
    (∃ d, config.describe? f.resolveFormula = some d) ↔
      ¬ f.IsRelationship ∧ f.effectiveType.IsFilterable := by
  obtain ⟨description, hresolved⟩ := f.resolveFormula_eq
  rw [exists_describe?_iff, hresolved]
  rfl

end RecordFilter
