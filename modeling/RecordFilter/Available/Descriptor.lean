import RecordFilter.Available.ColumnType
import RecordFilter.Json.Record

/-!
# `RecordFilter.Available.Descriptor`: the columns that filters can use

A descriptor names a column and its type, and the choices that a filter on it offers. Compilation
looks columns up by identifier in a list of descriptors, where the last one of an identifier
counts.
-/

set_option autoImplicit false

namespace RecordFilter

/-- A choice that a filter offers. -/
structure Offer where
  value : String
  label : String
  deriving DecidableEq, Inhabited

/-- A column that can be filtered on. -/
structure Descriptor where
  id : String
  name : String
  type : ColumnType
  options : Option (List Offer)
  deriving DecidableEq, Inhabited

namespace Offer

/-- The offer that a JSON record gives. -/
def ofJson? (j : Json) : Option Offer :=
  match j.record? ["value", "label"] with
  | some [value, label] => do
    let value ← Json.required Json.text? value
    let label ← Json.required Json.text? label
    return ⟨value, label⟩
  | _ => none

/-- The offer as JSON. -/
def toJson (o : Offer) : Json :=
  .object [("value", .str o.value), ("label", .str o.label)]

end Offer

namespace Descriptor

/-- A descriptor without choices. -/
def plain (id name : String) (type : ColumnType) : Descriptor :=
  ⟨id, name, type, none⟩

/-- The last descriptor of the list that has the identifier. -/
def lookup? (available : List Descriptor) (id : String) : Option Descriptor :=
  available.reverse.find? fun d => d.id == id

/-- The descriptor that a JSON record gives. -/
def ofJson? (j : Json) : Option Descriptor :=
  match j.record? ["id", "name", "type", "options"] with
  | some [id, name, type, options] => do
    let id ← Json.required Json.text? id
    let name ← Json.required Json.text? name
    let type ← Json.required ColumnType.ofJson? type
    let options ← Json.optional (Json.list? Offer.ofJson?) options
    return ⟨id, name, type, options⟩
  | _ => none

/-- The descriptor as JSON. -/
def toJson (d : Descriptor) : Json :=
  .object ([("id", .str d.id), ("name", .str d.name), ("type", d.type.toJson)] ++
    Json.present "options" (fun offers => .array (offers.map Offer.toJson)) d.options)

end Descriptor

end RecordFilter
