import RecordFilter.Toml.Reader

/-!
# `RecordFilter.Toml.Text`: blanks, strings and keys

The parts of TOML that are made of characters: white space, line ends and comments, the four
kinds of strings, and keys with dots. A line end inside a string of several lines is a line feed,
also where a carriage return stands before it.
-/

set_option autoImplicit false

namespace RecordFilter.Toml.Grammar

open Reader

/-! ### Blanks, lines and comments -/

/-- A space or a tab. -/
def isSpace (c : Char) : Bool :=
  c == ' ' || c == '\t'

/-- A character that a line can hold: a tab, or no control character. -/
def isLineChar (c : Char) : Bool :=
  c == '\t' || (decide (0x20 ≤ c.toNat) && c.toNat != 0x7F)

/-- Spaces and tabs. -/
def spaces : Reader Unit := do
  let _ ← run isSpace

/-- A line end. -/
def newline : Reader Unit :=
  char '\n' <|> chars ['\r', '\n']

/-- A comment up to the end of its line. -/
def comment : Reader Unit := do
  char '#'
  let _ ← run isLineChar

/-- A line end, or the end of the text. -/
def lineEnd : Reader Unit :=
  newline <|> atEnd

/-- The rest of a line after its content. -/
def lineRest : Reader Unit := do
  spaces
  let _ ← opt comment
  lineEnd

/-- Blanks, line ends and comments between the items of an array. -/
def blankLines : Reader Unit := do
  let _ ← many (spaces *> ((comment *> newline) <|> newline))
  spaces

/-! ### Strings -/

/-- A hexadecimal digit. -/
def isHexDigit (c : Char) : Bool :=
  c.isDigit || (decide ('a' ≤ c) && decide (c ≤ 'f')) || (decide ('A' ≤ c) && decide (c ≤ 'F'))

/-- The value of a hexadecimal digit. -/
def hexDigitValue (c : Char) : Nat :=
  if c.isDigit then c.toNat - '0'.toNat
  else if 'a' ≤ c then c.toNat - 'a'.toNat + 10
  else c.toNat - 'A'.toNat + 10

/-- The number that digits spell in a base. -/
def natOfDigitsIn (base : Nat) (digits : List Char) : Nat :=
  digits.foldl (fun n c => base * n + hexDigitValue c) 0

/-- A character by its code point in hexadecimal digits. -/
def codePoint (digits : Nat) : Reader Char := do
  let n := natOfDigitsIn 16 (← exactly isHexDigit digits)
  if n.isValidChar then return Char.ofNat n else failure

/-- An escape in a string. -/
def escape : Reader Char := do
  char '\\'
  match ← satisfy fun _ => true with
  | 'b' => return '\x08'
  | 't' => return '\t'
  | 'n' => return '\n'
  | 'f' => return '\x0c'
  | 'r' => return '\r'
  | '"' => return '"'
  | '\\' => return '\\'
  | 'u' => codePoint 4
  | 'U' => codePoint 8
  | _ => failure

/-- A character that stands for itself in a string with escapes. -/
def isPlain (c : Char) : Bool :=
  isLineChar c && c != '"' && c != '\\'

/-- A character that stands for itself in a string without escapes. -/
def isVerbatim (c : Char) : Bool :=
  isLineChar c && c != '\''

/-- A string in double quotes. -/
def basicString : Reader String := do
  char '"'
  let parts ← many (run1 isPlain <|> (do return [← escape]))
  char '"'
  return String.ofList parts.flatten

/-- A string in single quotes. -/
def literalString : Reader String := do
  char '\''
  let cs ← run isVerbatim
  char '\''
  return String.ofList cs

/-- One or two quotes with something after them. -/
def fewQuotes (quote : Char) (after : Reader Unit) : Reader (List Char) :=
  (chars [quote, quote] *> ahead after *> pure [quote, quote])
    <|> (char quote *> ahead after *> pure [quote])

/-- A backslash at the end of a line, with all the blanks and line ends after it. -/
def lineContinuation : Reader Unit := do
  char '\\'
  spaces
  newline
  let _ ← many (newline <|> (do let _ ← satisfy isSpace))

/-- The body and the end of a string of several lines. Up to two quotes can stand anywhere, also
in front of the three at the end. -/
def longString (quote : Char) (content : Reader (List Char)) : Reader String := do
  let close := chars [quote, quote, quote]
  close
  let _ ← opt newline
  let other := do let _ ← satisfy (· != quote)
  let parts ← many (content <|> fewQuotes quote other)
  let last ← opt (fewQuotes quote close)
  close
  return String.ofList (parts.flatten ++ last.getD [])

/-- A string of several lines in double quotes. -/
def longBasicString : Reader String :=
  longString '"' (run1 isPlain <|> (lineContinuation *> pure []) <|> (do return [← escape])
    <|> (newline *> pure ['\n']))

/-- A string of several lines in single quotes. -/
def longLiteralString : Reader String :=
  longString '\'' (run1 isVerbatim <|> (newline *> pure ['\n']))

/-- A string of any kind. -/
def string : Reader String :=
  longBasicString <|> basicString <|> longLiteralString <|> literalString

/-! ### Keys -/

/-- A character of a key without quotes. -/
def isKeyChar (c : Char) : Bool :=
  c.isAlphanum || c == '_' || c == '-'

/-- One part of a key. -/
def simpleKey : Reader String :=
  basicString <|> literalString <|> (do return String.ofList (← run1 isKeyChar))

/-- Nesting of keys and of values stays below this limit. -/
def nestingLimit : Nat :=
  80

/-- A key with dots between its parts. -/
def key : Reader (List String) := do
  let parts ← separated (spaces *> simpleKey <* spaces) (char '.')
  if parts.length < nestingLimit then return parts else failure

end RecordFilter.Toml.Grammar
