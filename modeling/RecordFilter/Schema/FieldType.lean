/-!
# `RecordFilter.Schema.FieldType`: the types of schema fields

A field's type is known by its name. A name that is not known is kept, so that every name is
the name of exactly one type.
-/

set_option autoImplicit false

namespace RecordFilter

/-- The type of a schema field. -/
inductive FieldType where
  | singleLineText
  | multilineText
  | richText
  | phoneNumber
  | url
  | email
  | barcodeText
  | rollup
  | autoNumber
  | count
  | currency
  | duration
  | number
  | percent
  | rating
  | date
  | dateTime
  | createdTime
  | lastModifiedTime
  | singleCollaboratorName
  | createdByName
  | lastModifiedByName
  | singleSelect
  | multipleSelects
  | multipleRecordLinks
  | multipleAttachments
  | checkbox
  | formula
  | other (name : String)
  deriving DecidableEq, Inhabited

namespace FieldType

/-- The name of a type. -/
def name : FieldType → String
  | .singleLineText => "singleLineText"
  | .multilineText => "multilineText"
  | .richText => "richText"
  | .phoneNumber => "phoneNumber"
  | .url => "url"
  | .email => "email"
  | .barcodeText => "barcode.text"
  | .rollup => "rollup"
  | .autoNumber => "autoNumber"
  | .count => "count"
  | .currency => "currency"
  | .duration => "duration"
  | .number => "number"
  | .percent => "percent"
  | .rating => "rating"
  | .date => "date"
  | .dateTime => "dateTime"
  | .createdTime => "createdTime"
  | .lastModifiedTime => "lastModifiedTime"
  | .singleCollaboratorName => "singleCollaborator.name"
  | .createdByName => "createdBy.name"
  | .lastModifiedByName => "lastModifiedBy.name"
  | .singleSelect => "singleSelect"
  | .multipleSelects => "multipleSelects"
  | .multipleRecordLinks => "multipleRecordLinks"
  | .multipleAttachments => "multipleAttachments"
  | .checkbox => "checkbox"
  | .formula => "formula"
  | .other name => name

/-- The type of that name. -/
def ofName : String → FieldType
  | "singleLineText" => .singleLineText
  | "multilineText" => .multilineText
  | "richText" => .richText
  | "phoneNumber" => .phoneNumber
  | "url" => .url
  | "email" => .email
  | "barcode.text" => .barcodeText
  | "rollup" => .rollup
  | "autoNumber" => .autoNumber
  | "count" => .count
  | "currency" => .currency
  | "duration" => .duration
  | "number" => .number
  | "percent" => .percent
  | "rating" => .rating
  | "date" => .date
  | "dateTime" => .dateTime
  | "createdTime" => .createdTime
  | "lastModifiedTime" => .lastModifiedTime
  | "singleCollaborator.name" => .singleCollaboratorName
  | "createdBy.name" => .createdByName
  | "lastModifiedBy.name" => .lastModifiedByName
  | "singleSelect" => .singleSelect
  | "multipleSelects" => .multipleSelects
  | "multipleRecordLinks" => .multipleRecordLinks
  | "multipleAttachments" => .multipleAttachments
  | "checkbox" => .checkbox
  | "formula" => .formula
  | name => .other name

/-- The type is not known. -/
def isOther : FieldType → Bool
  | .other _ => true
  | _ => false

/-- Every name is the name of its type. -/
theorem name_ofName (s : String) : (ofName s).name = s := by
  unfold ofName
  split <;> rfl

/-- Every type that is known is the type of its name. -/
theorem ofName_name {t : FieldType} (h : t.isOther = false) : ofName t.name = t := by
  cases t with
  | other => cases h
  | _ => rfl

end FieldType

end RecordFilter
