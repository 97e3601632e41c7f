import RecordFilter.Json.Record

/-!
# `RecordFilter.Tree.Value`: the values of criteria

A value is kept as it was written, and only the operator and the column decide how it is read.
Its shape is that of a scalar, a list of values or a date object. The fields of a date object are
not checked yet: each is a number, a text or any other JSON value.

`Value.ofJson?` reads a value from JSON. Every settled JSON value has one. An array in which
something is not a value, because a date object in it has one field twice, is tried as a date
object in the form of an array. `Value.toJson` writes a value.
-/

set_option autoImplicit false

namespace RecordFilter

/-- A field of a date object as written. -/
inductive Scalar where
  | number (value : Number)
  | text (value : String)
  | other (value : Json)
  deriving Inhabited

namespace Scalar

/-- The field counts as absent. -/
def isEmpty : Scalar → Bool
  | .text s => s.isEmpty
  | _ => false

/-- The field that a JSON value other than null gives. -/
def ofJson? : Json → Option Scalar
  | .number n => some (.number n)
  | .str s => some (.text s)
  | j => j.settle?.map .other

/-- The field as JSON. -/
def toJson : Scalar → Json
  | .number n => .number n
  | .text s => .str s
  | .other j => j

end Scalar

/-- A date object as written. -/
structure DateValue where
  mode : Option Scalar
  numberOfDays : Option Scalar
  input : Option Scalar
  deriving Inhabited

namespace DateValue

/-- The names of the fields, in order. -/
def fieldNames : List String :=
  ["mode", "numberOfDays", "input"]

/-- A date object with a mode only. -/
def ofMode (mode : String) : DateValue :=
  ⟨some (.text mode), none, none⟩

/-- A date object for one given date. -/
def exact (input : String) : DateValue :=
  ⟨some (.text "exactDate"), none, some (.text input)⟩

/-- The date object with this number of days. -/
def withDays (d : DateValue) (days : Number) : DateValue :=
  { d with numberOfDays := some (.number days) }

/-- The date object with this input. -/
def withInput (d : DateValue) (input : String) : DateValue :=
  { d with input := some (.text input) }

/-- No field carries a value. -/
def isEmpty (d : DateValue) : Bool :=
  [d.mode, d.numberOfDays, d.input].all fun field => field.all Scalar.isEmpty

/-- The date object that a JSON record gives. -/
def ofJson? (j : Json) : Option DateValue :=
  match j.record? fieldNames with
  | some [mode, days, input] => do
    let mode ← Json.optional Scalar.ofJson? mode
    let days ← Json.optional Scalar.ofJson? days
    let input ← Json.optional Scalar.ofJson? input
    return ⟨mode, days, input⟩
  | _ => none

/-- The date object as JSON, without the fields that are absent. -/
def toJson (d : DateValue) : Json :=
  .object (Json.present "mode" Scalar.toJson d.mode ++
    Json.present "numberOfDays" Scalar.toJson d.numberOfDays ++
    Json.present "input" Scalar.toJson d.input)

end DateValue

/-- The value of a criterion. -/
inductive Value where
  | null
  | bool (value : Bool)
  | number (value : Number)
  | text (value : String)
  | list (items : List Value)
  | date (value : DateValue)
  deriving Inhabited

namespace Value

/-- The name of a value's shape. -/
def kind : Value → String
  | .null => "null"
  | .bool _ => "boolean"
  | .number _ => "number"
  | .text _ => "string"
  | .list _ => "list"
  | .date _ => "date object"

/-- The value says nothing: null, the empty text, the empty list or an empty date object. -/
def isEmpty : Value → Bool
  | .null => true
  | .text s => s.isEmpty
  | .list items => items.isEmpty
  | .date d => d.isEmpty
  | .bool _ | .number _ => false

/-- The values of a list; a scalar is a list of itself, and null and dates have none. -/
def toList : Value → List Value
  | .list items => items
  | .text s => [.text s]
  | .number n => [.number n]
  | .bool b => [.bool b]
  | .null | .date _ => []

mutual

/-- Reads a value without looking for unreadable parts that no field holds. -/
def shape? : Json → Option Value
  | .null => some .null
  | .bool b => some (.bool b)
  | .number n => some (.number n)
  | .str s => some (.text s)
  | .array items =>
    match shapes? items with
    | some values => some (.list values)
    | none => (DateValue.ofJson? (.array items)).map .date
  | .object members => (DateValue.ofJson? (.object members)).map .date
  | .unreadable => none

/-- Reads every item as a value. -/
def shapes? : List Json → Option (List Value)
  | [] => some []
  | j :: rest => do
    let value ← shape? j
    let values ← shapes? rest
    return value :: values

end

/-- The value that a JSON value gives. It is read as a whole, so no part may be unreadable. -/
def ofJson? (j : Json) : Option Value :=
  if j.isReadable then shape? j else none

mutual

/-- The value as JSON. -/
def toJson : Value → Json
  | .null => .null
  | .bool b => .bool b
  | .number n => .number n
  | .text s => .str s
  | .list items => .array (toJsons items)
  | .date d => d.toJson

/-- The values as JSON. -/
def toJsons : List Value → List Json
  | [] => []
  | v :: rest => toJson v :: toJsons rest

end

end Value

end RecordFilter
