import RecordFilter.Json.Basic
import RecordFilter.Schema.FieldType

/-!
# `RecordFilter.Available.ColumnType`: what a column holds for a filter

The column type decides which operators and values a criterion on the column may have. Fields of
some types have none and cannot be filtered on. A column type is written in JSON as its name, or
as an object whose only key is the name, with the value null.
-/

set_option autoImplicit false

namespace RecordFilter

/-- The type of a column that can be filtered on. -/
inductive ColumnType where
  | string
  | number
  | date
  | user
  | select
  | multiSelect
  | link
  | attachment
  | checkbox
  deriving DecidableEq, Inhabited

namespace ColumnType

/-- The name of a column type. -/
def name : ColumnType → String
  | .string => "string"
  | .number => "number"
  | .date => "date"
  | .user => "user"
  | .select => "select"
  | .multiSelect => "multi_select"
  | .link => "link_to_another_record"
  | .attachment => "attachment"
  | .checkbox => "checkbox"

/-- The column type of that name in JSON. -/
def ofName? : String → Option ColumnType
  | "string" => some .string
  | "number" => some .number
  | "date" => some .date
  | "user" => some .user
  | "select" => some .select
  | "multi_select" => some .multiSelect
  | "link_to_another_record" => some .link
  | "attachment" => some .attachment
  | "checkbox" => some .checkbox
  | _ => none

/-- The column type of a field type, if the fields can be filtered on. -/
def ofFieldType? : FieldType → Option ColumnType
  | .singleLineText | .barcodeText | .multilineText | .phoneNumber | .richText | .url
  | .rollup => some .string
  | .autoNumber | .count | .currency | .duration | .number | .percent | .rating => some .number
  | .date | .dateTime | .createdTime | .lastModifiedTime => some .date
  | .singleCollaboratorName | .createdByName | .lastModifiedByName => some .user
  | .singleSelect => some .select
  | .multipleSelects => some .multiSelect
  | .multipleRecordLinks => some .link
  | .multipleAttachments => some .attachment
  | .checkbox => some .checkbox
  | .email | .formula | .other _ => none

/-- The columns whose filters offer the choices of the field. -/
def offersChoices : ColumnType → Bool
  | .select | .multiSelect => true
  | _ => false

/-- The columns on which no operator takes a list of values. -/
def isSingleValued : ColumnType → Bool
  | .date | .checkbox => true
  | _ => false

/-- The column type that a JSON value gives. -/
def ofJson? : Json → Option ColumnType
  | .str s => ofName? s
  | .object [(key, .null)] => ofName? key
  | _ => none

/-- The column type as JSON. -/
def toJson : ColumnType → Json
  | .string => .str "string"
  | .number => .str "number"
  | .date => .str "date"
  | .user => .str "user"
  | .select => .str "select"
  | .multiSelect => .str "multi_select"
  | .link => .str "link_to_another_record"
  | .attachment => .str "attachment"
  | .checkbox => .str "checkbox"

/-- The names in JSON are those in messages: a name is read as the type that has it. -/
theorem ofName?_eq_some_iff {s : String} {t : ColumnType} : ofName? s = some t ↔ t.name = s := by
  constructor
  · intro h
    unfold ofName? at h
    split at h <;> cases h <;> rfl
  · rintro rfl
    cases t <;> rfl

/-- A column type is written in JSON as its name. -/
theorem toJson_eq (t : ColumnType) : t.toJson = .str t.name := by
  cases t <;> rfl

/-- A column type is read back from JSON. -/
theorem ofJson?_toJson (t : ColumnType) : ofJson? t.toJson = some t := by
  rw [toJson_eq]
  exact ofName?_eq_some_iff.mpr rfl

end ColumnType

end RecordFilter
