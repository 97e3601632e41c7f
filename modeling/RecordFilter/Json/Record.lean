import RecordFilter.Json.Basic

/-!
# `RecordFilter.Json.Record`: records in JSON

A record has named fields in a fixed order. It is written as an object, in which keys without a
field are skipped and no field may come twice, or as an array of its fields in order, in which
fields at the end may be missing. `Json.record?` gives the value of each field, if there is one;
`required`, `optional` and `defaulted` then read it.
-/

set_option autoImplicit false

namespace RecordFilter.Json

/-- The value of the only member with that key; `none` inside where there is no such member, and
`none` altogether where there are several. -/
def soleMember? (members : List (String × Json)) (key : String) : Option (Option Json) :=
  match members.filter fun m => m.1 == key with
  | [] => some none
  | [m] => some (some m.2)
  | _ => none

/-- The values of the fields of a record, in the order of the names. -/
def record? (names : List String) : Json → Option (List (Option Json))
  | .object members => names.mapM (soleMember? members)
  | .array items =>
    if items.length ≤ names.length then
      some (items.map some ++ List.replicate (names.length - items.length) none)
    else none
  | _ => none

/-- Reads a field that must be there. -/
def required {α : Type} (read : Json → Option α) : Option Json → Option α
  | none => none
  | some j => read j

/-- Reads a field that may be missing or null. -/
def optional {α : Type} (read : Json → Option α) : Option Json → Option (Option α)
  | none => some none
  | some .null => some none
  | some j => (read j).map some

/-- Reads a field that has a value where it is missing. -/
def defaulted {α : Type} (value : α) (read : Json → Option α) : Option Json → Option α
  | none => some value
  | some j => read j

/-- A member for an optional field: none where the field is absent. -/
def present {α : Type} (key : String) (write : α → Json) : Option α → List (String × Json)
  | none => []
  | some a => [(key, write a)]

end RecordFilter.Json
