import RecordFilter.Toml.Basic

/-!
# `RecordFilter.Toml.Assembly`: tables under construction

The headers and the keys with dots of a document name tables, and `Entry` keeps how each table
came to be, because that decides what may be added to it later.

* A key has one value.
* A header opens a table that does not exist yet, or only because of a header of a table inside.
* A key with dots adds to tables that such keys made in the same section, and to no other.
* A header in double brackets adds a table to an array that such headers made.
-/

set_option autoImplicit false

namespace RecordFilter.Toml

/-- How a table came to be: by a header of its own or in an array, on the way to another header,
or on the way to a key with dots. -/
inductive TableOrigin where
  | header
  | outer
  | dotted
  deriving DecidableEq

/-- What a key stands for. -/
inductive Entry where
  | value (value : Toml)
  | table (origin : TableOrigin) (entries : List (String × Entry))
  | tables (blocks : List (List (String × Entry)))

/-- The keys of a table with what they stand for. -/
abbrev Entries : Type :=
  List (String × Entry)

/-- Replaces what a key stands for, or adds the key at the end. -/
def alter (key : String) (f : Option Entry → Option Entry) : Entries → Option Entries
  | [] => (f none).map fun e => [(key, e)]
  | (k, e) :: rest =>
    if k = key then (f (some e)).map fun e => (k, e) :: rest
    else (alter key f rest).map ((k, e) :: ·)

/-- Changes the last table of an array. -/
def alterLast (f : Entries → Option Entries) : List Entries → Option (List Entries)
  | [] => none
  | [block] => (f block).map ([·])
  | block :: rest => (alterLast f rest).map (block :: ·)

/-- Changes the table that the parts of a header lead to, and makes the tables on the way. -/
def alterAt (f : Entries → Option Entries) : List String → Entries → Option Entries
  | [], entries => f entries
  | part :: path, entries =>
    alter part (fun
      | none => (alterAt f path []).map (.table .outer)
      | some (.table origin inner) => (alterAt f path inner).map (.table origin)
      | some (.tables blocks) => (alterLast (alterAt f path) blocks).map .tables
      | some (.value _) => none) entries

/-- Adds a value under a key with dots, whose last part comes apart. -/
def insert (last : String) (v : Toml) : List String → Entries → Option Entries
  | [], entries =>
    alter last (fun
      | none => some (.value v)
      | some _ => none) entries
  | part :: path, entries =>
    alter part (fun
      | none => (insert last v path []).map (.table .dotted)
      | some (.table origin inner) =>
        if origin = .header ∨ (path = [] ∧ origin ≠ .dotted) then none
        else (insert last v path inner).map (.table origin)
      | some (.tables blocks) =>
        if path = [] then none else (alterLast (insert last v path) blocks).map .tables
      | some (.value _) => none) entries

/-- Adds a value under a key. -/
def insertKey (entries : Entries) (e : List String × Toml) : Option Entries :=
  match e.1.reverse with
  | last :: path => insert last e.2 path.reverse entries
  | [] => none

mutual

/-- The value that a key stands for. -/
def Entry.toToml : Entry → Toml
  | .value v => v
  | .table _ entries => .table (entriesToToml entries)
  | .tables blocks => .array (blocksToToml blocks)

/-- The values of a table. -/
def entriesToToml : List (String × Entry) → List (String × Toml)
  | [] => []
  | (key, e) :: rest => (key, Entry.toToml e) :: entriesToToml rest

/-- The tables of an array. -/
def blocksToToml : List (List (String × Entry)) → List Toml
  | [] => []
  | block :: rest => .table (entriesToToml block) :: blocksToToml rest

end

/-! ### Sections -/

/-- What a section of a document begins with. -/
inductive Header where
  | table (path : List String)
  | arrayTable (path : List String)

/-- A section: its header, where it has one, and its entries. -/
structure Section where
  header : Option Header
  entries : List (List String × Toml)

/-- Adds a section to the tables of those before it. -/
def addSection (root : Entries) (s : Section) : Option Entries :=
  let fill (entries : Entries) : Option Entries := s.entries.foldlM insertKey entries
  match s.header with
  | none => fill root
  | some (.table path) =>
    match path.reverse with
    | [] => none
    | last :: outer =>
      alterAt (alter last fun
        | none => (fill []).map (.table .header)
        | some (.table .outer entries) => (fill entries).map (.table .header)
        | some _ => none) outer.reverse root
  | some (.arrayTable path) =>
    match path.reverse with
    | [] => none
    | last :: outer =>
      alterAt (alter last fun
        | none => (fill []).map fun block => .tables [block]
        | some (.tables blocks) => (fill []).map fun block => .tables (blocks ++ [block])
        | some _ => none) outer.reverse root

end RecordFilter.Toml
