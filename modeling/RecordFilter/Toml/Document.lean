import RecordFilter.Toml.Assembly
import RecordFilter.Toml.Numeral

/-!
# `RecordFilter.Toml.Document`: the values and expressions of a document

A document is a list of expressions: headers of tables, headers of tables in an array, and keys
with values. A header begins a section, and a document is the table of all its sections.
-/

set_option autoImplicit false

namespace RecordFilter.Toml

namespace Grammar

open Reader

/-! ### Values -/

/-- A boolean. -/
def boolean : Reader Toml :=
  (chars ['t', 'r', 'u', 'e'] *> pure (.boolean true))
    <|> (chars ['f', 'a', 'l', 's', 'e'] *> pure (.boolean false))

/-- A value that holds no others. -/
def scalar : Reader Toml :=
  (Toml.string <$> string) <|> datetime <|> float <|> integer <|> boolean

/-- An array of values; a comma may stand after the last one. -/
def array (item : Reader Toml) : Reader Toml := do
  char '['
  let items ← opt (separated (blankLines *> item <* blankLines) (char ','))
  if items.isSome then
    let _ ← opt (char ',')
  blankLines
  char ']'
  return .array (items.getD [])

/-- A key and its value. -/
def keyValue (item : Reader Toml) : Reader (List String × Toml) := do
  let path ← key
  char '='
  spaces
  let v ← item
  return (path, v)

/-- A table on one line. -/
def inlineTable (item : Reader Toml) : Reader Toml := do
  char '\x7b'
  let entries ← opt (separated (keyValue item <* spaces) (char ','))
  spaces
  char '\x7d'
  match (entries.getD []).foldlM insertKey [] with
  | some es => return .table (entriesToToml es)
  | none => failure

/-- A value whose arrays and tables nest at most so deep. -/
def value : Nat → Reader Toml
  | 0 => scalar
  | depth + 1 => scalar <|> array (value depth) <|> inlineTable (value depth)

/-! ### Documents -/

/-- An expression of a document. -/
inductive Expression where
  | blank
  | header (header : Header)
  | entry (entry : List String × Toml)

/-- A header in brackets. -/
def header : Reader Header :=
  (do
    chars ['[', '[']
    let path ← key
    chars [']', ']']
    return .arrayTable path)
    <|> (do
      char '['
      let path ← key
      char ']'
      return .table path)

/-- An expression with the end of its line. -/
def expression : Reader Expression := do
  spaces
  match ← peek? with
  | some '#' =>
    comment
    lineEnd
    return .blank
  | some '[' =>
    let h ← header
    lineRest
    return .header h
  | some '\n' | some '\r' =>
    newline
    return .blank
  | _ =>
    let e ← keyValue (value (nestingLimit - 1))
    lineRest
    return .entry e

/-- The expressions of a document. -/
def expressions : Reader (List Expression) := do
  let _ ← opt (char (Char.ofNat 0xFEFF))
  let es ← many expression
  spaces
  atEnd
  return es

/-- The sections of the expressions after an open section. -/
def sectionsFrom : Section → List Expression → List Section
  | s, [] => [s]
  | s, .blank :: rest => sectionsFrom s rest
  | s, .entry e :: rest => sectionsFrom { s with entries := s.entries ++ [e] } rest
  | s, .header h :: rest => s :: sectionsFrom ⟨some h, []⟩ rest

end Grammar

/-- The table that a document spells. -/
def ofText? (s : String) : Option (List (String × Toml)) := do
  let (es, _) ← Grammar.expressions s.toList
  let root ← (Grammar.sectionsFrom ⟨none, []⟩ es).foldlM addSection []
  return entriesToToml root

end RecordFilter.Toml
