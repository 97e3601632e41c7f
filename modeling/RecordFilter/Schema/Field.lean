import RecordFilter.Json.Basic
import RecordFilter.Schema.FieldType

/-!
# `RecordFilter.Schema.Field`: fields, tables and schemas

A field has options that depend on its type. Two of them are known here: the choices of a select
field, and the result of a formula, which is a type with options of its own. All other options
are kept as they are.
-/

set_option autoImplicit false

namespace RecordFilter

/-- A choice of a select field. -/
structure Choice where
  id : Option String
  name : String
  color : Option String
  deriving DecidableEq, Inhabited

/-- A choice with a name only. -/
def Choice.named (name : String) : Choice :=
  ⟨none, name, none⟩

mutual

/-- The options of a field. -/
structure FieldOptions where
  choices : List Choice
  result : Option FormulaResult
  extra : List (String × Json)

/-- The declared result of a formula. -/
structure FormulaResult where
  type : FieldType
  options : Option FieldOptions

end

instance : Inhabited FieldOptions := ⟨⟨[], none, []⟩⟩

/-- A field of a table. -/
structure Field where
  id : String
  name : String
  type : FieldType
  description : Option String
  options : Option FieldOptions
  deriving Inhabited

namespace Field

/-- What the identifier of a relationship field starts with. -/
def relationshipMark : String :=
  "__rel__"

/-- A field without description and options. -/
def ofType (id name : String) (type : FieldType) : Field :=
  ⟨id, name, type, none, none⟩

/-- The field with options that only hold choices of those names. -/
def withChoices (f : Field) (names : List String) : Field :=
  { f with options := some ⟨names.map Choice.named, none, []⟩ }

/-- The field stands for a relationship to another table. -/
def isRelationship (f : Field) : Bool :=
  relationshipMark.toList.isPrefixOf f.id.toList

/-- The choices of a field. -/
def choices (f : Field) : List Choice :=
  (f.options.map FieldOptions.choices).getD []

end Field

/-- A table and its fields. -/
structure Table where
  id : String
  name : String
  primaryFieldId : Option String
  description : Option String
  fields : List Field
  deriving Inhabited

/-- The first field of a table that has the identifier. -/
def Table.field? (t : Table) (id : String) : Option Field :=
  t.fields.find? fun f => f.id == id

/-- The tables of a base. -/
structure Schema where
  tables : List Table
  deriving Inhabited

/-- The first table with the identifier, or else the first one with it as name. -/
def Schema.table? (s : Schema) (idOrName : String) : Option Table :=
  (s.tables.find? fun t => t.id == idOrName) <|> (s.tables.find? fun t => t.name == idOrName)

end RecordFilter
