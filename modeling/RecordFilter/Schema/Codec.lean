import RecordFilter.Json.Record
import RecordFilter.Schema.Field

/-!
# `RecordFilter.Schema.Codec`: schemas in JSON

Reading and writing of schemas, tables and fields. Each of them is a record, except the options
of a field: these are an object in which every key that is not known is kept, with the last of
its values. What is absent is not written; of a list only an empty list of choices is left out.
-/

set_option autoImplicit false

namespace RecordFilter

/-- The type of a JSON string as its name. -/
def FieldType.ofJson? (j : Json) : Option FieldType :=
  j.text?.map ofName

/-- The type as JSON. -/
def FieldType.toJson (t : FieldType) : Json :=
  .str t.name

namespace Choice

/-- The choice that a JSON record gives. -/
def ofJson? (j : Json) : Option Choice :=
  match j.record? ["id", "name", "color"] with
  | some [id, name, color] => do
    let id ← Json.optional Json.text? id
    let name ← Json.required Json.text? name
    let color ← Json.optional Json.text? color
    return ⟨id, name, color⟩
  | _ => none

/-- The choice as JSON. -/
def toJson (c : Choice) : Json :=
  .object (Json.present "id" .str c.id ++ [("name", .str c.name)] ++
    Json.present "color" .str c.color)

end Choice

/-! ### Options and formula results -/

/-- The members of an options object that have been read. -/
structure OptionsMembers where
  choices : Option (List Choice)
  result : Option (Option FormulaResult)
  extra : List (String × Json)

/-- The options of members. -/
def OptionsMembers.options (m : OptionsMembers) : FieldOptions :=
  ⟨m.choices.getD [], m.result.getD none, Json.lastMembers m.extra⟩

/-- The members of a formula result that have been read. -/
structure ResultMembers where
  type : Option FieldType
  options : Option (Option FieldOptions)

/-- The formula result of members; the type must be there. -/
def ResultMembers.result? (m : ResultMembers) : Option FormulaResult :=
  m.type.map fun type => ⟨type, m.options.getD none⟩

mutual

/-- The options that a JSON object gives. -/
def FieldOptions.ofJson? : Json → Option FieldOptions
  | .object members => (FieldOptions.members? members).map OptionsMembers.options
  | _ => none

/-- Reads the members of an options object; the known keys may come once. -/
def FieldOptions.members? : List (String × Json) → Option OptionsMembers
  | [] => some ⟨none, none, []⟩
  | (key, j) :: rest => do
    let m ← FieldOptions.members? rest
    if key = "choices" then
      if m.choices.isSome then none
      else
        let choices ← j.list? Choice.ofJson?
        return { m with choices := some choices }
    else if key = "result" then
      if m.result.isSome then none
      else if j.isNull then return { m with result := some none }
      else
        let result ← FormulaResult.ofJson? j
        return { m with result := some (some result) }
    else
      let value ← j.settle?
      return { m with extra := (key, value) :: m.extra }

/-- The formula result that a JSON record gives. -/
def FormulaResult.ofJson? : Json → Option FormulaResult
  | .object members => (FormulaResult.members? members).bind ResultMembers.result?
  | .array [type] => (FieldType.ofJson? type).map fun t => ⟨t, none⟩
  | .array [type, options] => do
    let t ← FieldType.ofJson? type
    if options.isNull then return ⟨t, none⟩
    else
      let o ← FieldOptions.ofJson? options
      return ⟨t, some o⟩
  | _ => none

/-- Reads the members of a formula result; the known keys may come once. -/
def FormulaResult.members? : List (String × Json) → Option ResultMembers
  | [] => some ⟨none, none⟩
  | (key, j) :: rest => do
    let m ← FormulaResult.members? rest
    if key = "type" then
      if m.type.isSome then none
      else
        let type ← FieldType.ofJson? j
        return { m with type := some type }
    else if key = "options" then
      if m.options.isSome then none
      else if j.isNull then return { m with options := some none }
      else
        let options ← FieldOptions.ofJson? j
        return { m with options := some (some options) }
    else return m

end

/-- The choices as a member of the options, left out when there are none. -/
def Choice.members (choices : List Choice) : List (String × Json) :=
  if choices.isEmpty then [] else [("choices", .array (choices.map Choice.toJson))]

mutual

/-- The options as JSON. -/
def FieldOptions.toJson : FieldOptions → Json
  | ⟨choices, none, extra⟩ => .object (Choice.members choices ++ extra)
  | ⟨choices, some result, extra⟩ =>
    .object (Choice.members choices ++ ("result", FormulaResult.toJson result) :: extra)

/-- The formula result as JSON. -/
def FormulaResult.toJson : FormulaResult → Json
  | ⟨type, none⟩ => .object [("type", type.toJson)]
  | ⟨type, some options⟩ =>
    .object [("type", type.toJson), ("options", FieldOptions.toJson options)]

end

/-! ### Fields, tables and schemas -/

namespace Field

/-- The field that a JSON record gives. -/
def ofJson? (j : Json) : Option Field :=
  match j.record? ["id", "name", "type", "description", "options"] with
  | some [id, name, type, description, options] => do
    let id ← Json.required Json.text? id
    let name ← Json.required Json.text? name
    let type ← Json.required FieldType.ofJson? type
    let description ← Json.optional Json.text? description
    let options ← Json.optional FieldOptions.ofJson? options
    return ⟨id, name, type, description, options⟩
  | _ => none

/-- The field as JSON. -/
def toJson (f : Field) : Json :=
  .object ([("id", .str f.id), ("name", .str f.name), ("type", f.type.toJson)] ++
    Json.present "description" .str f.description ++
    Json.present "options" FieldOptions.toJson f.options)

end Field

namespace Table

/-- The table that a JSON record gives. -/
def ofJson? (j : Json) : Option Table :=
  match j.record? ["id", "name", "primaryFieldId", "description", "fields"] with
  | some [id, name, primaryFieldId, description, fields] => do
    let id ← Json.required Json.text? id
    let name ← Json.required Json.text? name
    let primaryFieldId ← Json.optional Json.text? primaryFieldId
    let description ← Json.optional Json.text? description
    let fields ← Json.defaulted [] (Json.list? Field.ofJson?) fields
    return ⟨id, name, primaryFieldId, description, fields⟩
  | _ => none

/-- The table as JSON. -/
def toJson (t : Table) : Json :=
  .object ([("id", .str t.id), ("name", .str t.name)] ++
    Json.present "primaryFieldId" .str t.primaryFieldId ++
    Json.present "description" .str t.description ++
    [("fields", .array (t.fields.map Field.toJson))])

end Table

namespace Schema

/-- The schema that a JSON record gives. -/
def ofJson? (j : Json) : Option Schema :=
  match j.record? ["tables"] with
  | some [tables] => (Json.defaulted [] (Json.list? Table.ofJson?) tables).map Schema.mk
  | _ => none

/-- The schema as JSON. -/
def toJson (s : Schema) : Json :=
  .object [("tables", .array (s.tables.map Table.toJson))]

end Schema

end RecordFilter
