import RecordFilter.Fault
import RecordFilter.Json.Reader
import RecordFilter.Tree.Basic

/-!
# `RecordFilter.Tree.Payload`: filter trees in JSON

A payload is a tree in which a node is not yet a group or a criterion: every node may have the
fields of both. `Payload.ofJson?` reads it as a record at every level, also where the parts are
not used later. The field of the children has two names, of which one may be there.

`Payload.toGroup` then reads the root as a group. Below it, a node with a conjunction is a group
and a node without one is a criterion. A group without children is the empty group, whatever its
conjunction says. The first fault in document order is reported.
-/

set_option autoImplicit false

namespace RecordFilter

/-- A node of a payload. Absent fields, and those that are null, have the value that is none. -/
structure Payload where
  conjunction : Option String
  filters : List Payload
  columnId : Option String
  columnName : Option String
  operator : Option String
  value : Value

/-- The fields of a payload node. -/
inductive PayloadKey where
  | conjunction
  | filters
  | columnId
  | columnName
  | operator
  | value
  deriving DecidableEq

/-- The field of a key. -/
def PayloadKey.ofName? : String → Option PayloadKey
  | "conjunction" => some .conjunction
  | "filters" => some .filters
  | "children" => some .filters
  | "columnId" => some .columnId
  | "columnName" => some .columnName
  | "operator" => some .operator
  | "value" => some .value
  | _ => none

/-- The fields in the order of the array form. -/
def PayloadKey.inOrder : List PayloadKey :=
  [.conjunction, .filters, .columnId, .columnName, .operator, .value]

/-- A node that is being read: the fields that have been read, and the node so far. -/
structure PayloadDraft where
  seen : List PayloadKey
  payload : Payload

namespace Payload

/-- The node without fields. -/
def blank : Payload :=
  ⟨none, [], none, none, none, .null⟩

mutual

/-- The node that a JSON record gives. -/
def ofJson? : Json → Option Payload
  | .object members => (members? members).map PayloadDraft.payload
  | .array items => (items? PayloadKey.inOrder items).map PayloadDraft.payload
  | _ => none

/-- Reads the members of an object; each field may come once. -/
def members? : List (String × Json) → Option PayloadDraft
  | [] => some ⟨[], blank⟩
  | (key, j) :: rest => do
    let draft ← members? rest
    match PayloadKey.ofName? key with
    | none => return draft
    | some k =>
      if k ∈ draft.seen then none
      else
        let payload ← field? draft.payload k j
        return ⟨k :: draft.seen, payload⟩

/-- Reads the items of an array as the fields in order. -/
def items? : List PayloadKey → List Json → Option PayloadDraft
  | _, [] => some ⟨[], blank⟩
  | [], _ :: _ => none
  | k :: ks, j :: rest => do
    let draft ← items? ks rest
    let payload ← field? draft.payload k j
    return ⟨k :: draft.seen, payload⟩

/-- Reads one field into a node. -/
def field? (p : Payload) : PayloadKey → Json → Option Payload
  | .filters, .array items => (list? items).map fun filters => { p with filters := filters }
  | .filters, .null => some p
  | .filters, _ => none
  | .conjunction, j =>
    (Json.optional Json.text? (some j)).map fun s => { p with conjunction := s }
  | .columnId, j => (Json.optional Json.text? (some j)).map fun s => { p with columnId := s }
  | .columnName, j =>
    (Json.optional Json.text? (some j)).map fun s => { p with columnName := s }
  | .operator, j => (Json.optional Json.text? (some j)).map fun s => { p with operator := s }
  | .value, j => (Value.ofJson? j).map fun v => { p with value := v }

/-- Reads every item as a node. -/
def list? : List Json → Option (List Payload)
  | [] => some []
  | j :: rest => do
    let p ← ofJson? j
    let ps ← list? rest
    return p :: ps

end

end Payload

/-! ### From payloads to trees -/

/-- The conjunction of that name. -/
def Conjunction.parse (s : String) : Except FilterFault Conjunction :=
  match ofName? s with
  | some c => .ok c
  | none => .error (.unknownConjunction s)

/-- The operator of that token. -/
def Operator.parse (s : String) : Except FilterFault Operator :=
  match ofToken? s with
  | some o => .ok o
  | none => .error (.unsupportedOperator s none)

namespace Payload

/-- The criterion of a node's fields. -/
def criterion (columnId columnName operator : Option String) (value : Value) :
    Except FilterFault Criterion :=
  match columnId, operator with
  | none, _ => .error (.malformedTree .missingColumnId)
  | some _, none => .error (.malformedTree .missingOperator)
  | some id, some token => do
    let operator ← Operator.parse token
    return ⟨id, columnName.getD "", operator, value⟩

/-- The group of a node's conjunction and children. -/
def group (conjunction : Option String) (isEmpty : Bool)
    (children : Except FilterFault (List Node)) : Except FilterFault Group :=
  if isEmpty then .ok .empty
  else do
    let conjunction ← Conjunction.parse (conjunction.getD "")
    let children ← children
    return ⟨conjunction, children⟩

mutual

/-- A node below the root as a group or a criterion. -/
def toNode : Payload → Except FilterFault Node
  | ⟨some conjunction, filters, _, _, _, _⟩ =>
    (group (some conjunction) filters.isEmpty (toNodes filters)).map Group.toNode
  | ⟨none, _, columnId, columnName, operator, value⟩ =>
    (criterion columnId columnName operator value).map Node.criterion

/-- The nodes in order, up to the first fault. -/
def toNodes : List Payload → Except FilterFault (List Node)
  | [] => .ok []
  | p :: rest => do
    let node ← toNode p
    let nodes ← toNodes rest
    return node :: nodes

end

/-- The root as a group. -/
def toGroup (p : Payload) : Except FilterFault Group :=
  group p.conjunction p.filters.isEmpty (toNodes p.filters)

end Payload

namespace Group

/-- The filter tree of a JSON value. -/
def ofJson (j : Json) : Except FilterFault Group :=
  match Payload.ofJson? j with
  | some p => p.toGroup
  | none => .error (.malformedTree .notATree)

/-- The filter tree of a JSON text. -/
def ofText (s : String) : Except FilterFault Group :=
  match Json.ofText? s with
  | some j => ofJson j
  | none => .error (.malformedTree .notATree)

end Group

end RecordFilter
