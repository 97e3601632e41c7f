/-!
# `RecordFilter.Toml.Reader`: readers of characters

A reader takes characters from the front of a text, or fails and leaves the text as it is. A
choice tries its second reader where the first one failed. `Reader.many` goes on while its reader
succeeds and the text becomes shorter, so it ends.
-/

set_option autoImplicit false

namespace RecordFilter.Toml

/-- Reads a value from the front of the characters. -/
abbrev Reader (α : Type) : Type :=
  StateT (List Char) Option α

namespace Reader

/-- The next character, which is not taken. -/
def peek? : Reader (Option Char) := do
  return (← get).head?

/-- One character of a class. -/
def satisfy (p : Char → Bool) : Reader Char := do
  match ← get with
  | c :: rest => if p c then set rest; return c else failure
  | [] => failure

/-- One given character. -/
def char (c : Char) : Reader Unit := do
  let _ ← satisfy (· == c)

/-- The given characters. -/
def chars : List Char → Reader Unit
  | [] => pure ()
  | c :: cs => do
    char c
    chars cs

/-- The longest run of characters of a class, maybe empty. -/
def run (p : Char → Bool) : Reader (List Char) := do
  let s ← get
  set (s.dropWhile p)
  return s.takeWhile p

/-- The longest run of characters of a class, at least one. -/
def run1 (p : Char → Bool) : Reader (List Char) := do
  let cs ← run p
  if cs.isEmpty then failure else return cs

/-- As many characters of a class as the count says. -/
def exactly (p : Char → Bool) : Nat → Reader (List Char)
  | 0 => return []
  | n + 1 => do
    let c ← satisfy p
    let cs ← exactly p n
    return c :: cs

/-- Succeeds where the reader would, and takes nothing. -/
def ahead {α : Type} (p : Reader α) : Reader Unit := do
  let s ← get
  let _ ← p
  set s

/-- The value of the reader, if it succeeds. -/
def opt {α : Type} (p : Reader α) : Reader (Option α) :=
  (some <$> p) <|> pure none

/-- Succeeds at the end of the text. -/
def atEnd : Reader Unit := do
  if (← get).isEmpty then return () else failure

/-- The values that the reader gives one after the other, and the characters left. -/
def manyFrom {α : Type} (p : Reader α) (s : List Char) : List α × List Char :=
  match p s with
  | some (a, rest) =>
    if rest.length < s.length then
      let r := manyFrom p rest
      (a :: r.1, r.2)
    else ([], s)
  | none => ([], s)
termination_by s.length

/-- The reader as often as it succeeds. -/
def many {α : Type} (p : Reader α) : Reader (List α) := fun s =>
  some (manyFrom p s)

/-- The reader once or more, with separators between. -/
def separated {α : Type} (p : Reader α) (separator : Reader Unit) : Reader (List α) := do
  let first ← p
  let others ← many (separator *> p)
  return first :: others

end Reader

end RecordFilter.Toml
