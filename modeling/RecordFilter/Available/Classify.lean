import RecordFilter.Available.Descriptor
import RecordFilter.Schema.Normalize
import RecordFilter.Text.Escaped

/-!
# `RecordFilter.Available.Classify`: descriptors from schema fields

`Classifier.classify` makes one descriptor of each field that can be filtered on, in order.
Relationship fields, and fields whose type is no column type, have none. The name of a field that
stands for a part of a compound value ends with a label in parentheses, which is removed. The
extensions of the classifier then edit the list, one after the other.
-/

set_option autoImplicit false

namespace RecordFilter

/-- The labels at the end of the names of fields that stand for a part of a compound value. -/
structure ClassifierConfig where
  nameSuffix : String
  valueSuffix : String
  deriving DecidableEq

/-- The label of a part of a user where no other is given. -/
def ClassifierConfig.missingNameSuffix : String :=
  "Name"

/-- The label of a part of a barcode where no other is given. -/
def ClassifierConfig.missingValueSuffix : String :=
  "Value"

/-- The labels where none are given. -/
def ClassifierConfig.standard : ClassifierConfig :=
  ⟨missingNameSuffix, missingValueSuffix⟩

instance : Inhabited ClassifierConfig := ⟨.standard⟩

/-- What a label looks like at the end of a name. -/
def labelSuffix (label : String) : List Char :=
  ' ' :: '(' :: (label.toList ++ [')'])

/-- The name without the label at its end, if it ends with it. -/
def stripLabel (name label : String) : String :=
  let suffix := labelSuffix label
  if suffix.isSuffixOf name.toList then
    String.ofList (name.toList.take (name.toList.length - suffix.length))
  else name

/-- An edit of the descriptors, which also sees the fields. -/
abbrev Extension : Type :=
  List Field → List Descriptor → List Descriptor

/-- Labels and extensions, the first extension first. -/
structure Classifier where
  config : ClassifierConfig
  extensions : List Extension

namespace ClassifierConfig

/-- The name of the column of a field. -/
def columnName (config : ClassifierConfig) (f : Field) : String :=
  match f.type with
  | .barcodeText => stripLabel f.name config.valueSuffix
  | .singleCollaboratorName | .createdByName | .lastModifiedByName =>
    stripLabel f.name config.nameSuffix
  | _ => f.name

/-- The choices that a filter on a field offers. -/
def offers (type : ColumnType) (f : Field) : Option (List Offer) :=
  if type.offersChoices then some (f.choices.map fun c => ⟨c.name, c.name⟩) else none

/-- The descriptor of a field. -/
def describe? (config : ClassifierConfig) (f : Field) : Option Descriptor :=
  if f.isRelationship then none
  else
    (ColumnType.ofFieldType? f.type).map fun type =>
      ⟨f.id, config.columnName f, type, offers type f⟩

/-- The descriptors of the fields. -/
def describe (config : ClassifierConfig) (fields : List Field) : List Descriptor :=
  fields.filterMap config.describe?

end ClassifierConfig

namespace Classifier

/-- A classifier without extensions. -/
def plain (config : ClassifierConfig) : Classifier :=
  ⟨config, []⟩

/-- The descriptors after each of the extensions. -/
def edits (fields : List Field) : List Descriptor → List Extension → List (List Descriptor)
  | _, [] => []
  | ds, e :: es => e fields ds :: edits fields (e fields ds) es

/-- The descriptors after each extension of the classifier. -/
def steps (c : Classifier) (fields : List Field) : List (List Descriptor) :=
  edits fields (c.config.describe fields) c.extensions

/-- The descriptors of the fields, edited by every extension. -/
def classify (c : Classifier) (fields : List Field) : List Descriptor :=
  c.extensions.foldl (fun ds e => e fields ds) (c.config.describe fields)

/-- The descriptors of the fields of a table, where formulas count as their results. -/
def classifyTable (c : Classifier) (t : Table) : List Descriptor :=
  c.classify (normalizeFields t.fields)

/-- A description of the classifier: its labels, and how many extensions it has. -/
def description (c : Classifier) : String :=
  "FieldClassifier \x7b name_suffix: " ++ Text.escaped c.config.nameSuffix ++
    ", value_suffix: " ++ Text.escaped c.config.valueSuffix ++
    ", extensions: " ++ toString c.extensions.length ++ " \x7d"

end Classifier

end RecordFilter
