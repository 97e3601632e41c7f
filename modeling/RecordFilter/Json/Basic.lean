import RecordFilter.Number.Basic

/-!
# `RecordFilter.Json.Basic`: JSON values

`Json` is a JSON value as a text spells it: the members of an object keep their order, and a key
may come twice. The constructor `unreadable` stands for a part that is well formed and yet has no
value, such as a number out of range. A reader that skips the part does not notice it, and every
reader that reads the part refuses it.

`Json.settle?` reads a value of any shape as a whole: it refuses unreadable parts, and of the
members with one key it keeps the last. Settling a settled value changes nothing.
-/

set_option autoImplicit false

namespace RecordFilter

/-- A JSON value. -/
inductive Json where
  | null
  | bool (value : Bool)
  | number (value : Number)
  | str (text : String)
  | array (items : List Json)
  | object (members : List (String × Json))
  | unreadable
  deriving Inhabited

namespace Json

/-- The members without those whose key comes again later. -/
def lastMembers : List (String × Json) → List (String × Json)
  | [] => []
  | (key, value) :: rest =>
    if rest.any fun m => m.1 == key then lastMembers rest else (key, value) :: lastMembers rest

mutual

/-- The value with each key once, the last member of a key winning; `none` when a part of it is
unreadable. -/
def settle? : Json → Option Json
  | .array items => (settleItems? items).map .array
  | .object members => (settleMembers? members).map fun ms => .object (lastMembers ms)
  | .unreadable => none
  | .null => some .null
  | .bool b => some (.bool b)
  | .number n => some (.number n)
  | .str s => some (.str s)

/-- Settles every item. -/
def settleItems? : List Json → Option (List Json)
  | [] => some []
  | j :: rest => do
    let j ← settle? j
    let rest ← settleItems? rest
    return j :: rest

/-- Settles the value of every member. -/
def settleMembers? : List (String × Json) → Option (List (String × Json))
  | [] => some []
  | (key, j) :: rest => do
    let j ← settle? j
    let rest ← settleMembers? rest
    return (key, j) :: rest

end

/-- No part of the value is unreadable. -/
def isReadable (j : Json) : Bool :=
  j.settle?.isSome

/-- The value is null. -/
def isNull : Json → Bool
  | .null => true
  | _ => false

/-- The text of a JSON string. -/
def text? : Json → Option String
  | .str s => some s
  | _ => none

/-- The items of a JSON array, each read by `read`. -/
def list? {α : Type} (read : Json → Option α) : Json → Option (List α)
  | .array items => items.mapM read
  | _ => none

end Json

end RecordFilter
