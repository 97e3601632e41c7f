import RecordFilter.Json.Basic
import RecordFilter.Json.Numeral

/-!
# `RecordFilter.Json.Token`: the tokens of JSON text

`Json.tokens?` splits a text into tokens with a machine that reads one character at a time. A
number or a word ends at the first character that cannot continue it. A string may hold every
character but the control characters; its escapes are checked here, and its surrogates are
joined in pairs when it ends.
-/

set_option autoImplicit false

namespace RecordFilter.Json

/-- A token. A number that is out of range, and a string with a surrogate that has no partner,
are tokens without a value. -/
inductive Token where
  | openArray
  | closeArray
  | openObject
  | closeObject
  | comma
  | colon
  | null
  | bool (value : Bool)
  | number (value : Option Number)
  | str (text : Option String)

/-- What the machine is inside of. Characters and codes read so far are in reverse. -/
inductive Scan where
  | between
  | number (chars : List Char)
  | word (chars : List Char)
  | str (codes : List Nat)
  | escape (codes : List Nat)
  | unicode (codes : List Nat) (digits : Nat) (value : Nat)

/-- The characters that can stand in a number. -/
def isNumberChar (c : Char) : Bool :=
  c.isDigit || c == '-' || c == '+' || c == '.' || c == 'e' || c == 'E'

/-- The value of a hexadecimal digit. -/
def hexValue? (c : Char) : Option Nat :=
  if c.isDigit then some (c.toNat - '0'.toNat)
  else if 'a' ≤ c ∧ c ≤ 'f' then some (c.toNat - 'a'.toNat + 10)
  else if 'A' ≤ c ∧ c ≤ 'F' then some (c.toNat - 'A'.toNat + 10)
  else none

/-- The first half of a surrogate pair. -/
def isHighSurrogate (n : Nat) : Bool :=
  decide (0xD800 ≤ n) && decide (n < 0xDC00)

/-- The second half of a surrogate pair. -/
def isLowSurrogate (n : Nat) : Bool :=
  decide (0xDC00 ≤ n) && decide (n < 0xE000)

/-- The characters of a string's codes: each pair of surrogates is one character, and a
surrogate without its partner is none. -/
def joinCodes? : List Nat → Option (List Char)
  | [] => some []
  | [n] => if isHighSurrogate n || isLowSurrogate n then none else some [Char.ofNat n]
  | n :: m :: rest =>
    if isHighSurrogate n then
      if isLowSurrogate m then
        (joinCodes? rest).map (Char.ofNat (0x10000 + (n - 0xD800) * 0x400 + (m - 0xDC00)) :: ·)
      else none
    else if isLowSurrogate n then none
    else (joinCodes? (m :: rest)).map (Char.ofNat n :: ·)

/-- The code of a short escape. -/
def shortEscape? : Char → Option Nat
  | '"' => some '"'.toNat
  | '\\' => some '\\'.toNat
  | '/' => some '/'.toNat
  | 'b' => some 8
  | 'f' => some 12
  | 'n' => some 10
  | 'r' => some 13
  | 't' => some 9
  | _ => none

/-- The token of a word. -/
def wordToken? (chars : List Char) : Option Token :=
  match String.ofList chars.reverse with
  | "null" => some .null
  | "true" => some (.bool true)
  | "false" => some (.bool false)
  | _ => none

/-- The token of the characters of a number. -/
def numberToken? (chars : List Char) : Option Token :=
  (numeral? chars.reverse).map .number

/-- The token of the codes of a string. -/
def stringToken (codes : List Nat) : Token :=
  .str ((joinCodes? codes.reverse).map String.ofList)

/-- Reads a character outside of numbers, words and strings. -/
def scanFirst (c : Char) : Option (List Token × Scan) :=
  match c with
  | ' ' | '\n' | '\r' | '\t' => some ([], .between)
  | '[' => some ([.openArray], .between)
  | ']' => some ([.closeArray], .between)
  | '\x7b' => some ([.openObject], .between)
  | '\x7d' => some ([.closeObject], .between)
  | ',' => some ([.comma], .between)
  | ':' => some ([.colon], .between)
  | '"' => some ([], .str [])
  | c =>
    if isNumberChar c && c != 'e' && c != 'E' then some ([], .number [c])
    else if c.isLower then some ([], .word [c])
    else none

/-- Reads one character: the tokens that it ends, and what the machine is inside of then. -/
def scanChar (s : Scan) (c : Char) : Option (List Token × Scan) :=
  match s with
  | .between => scanFirst c
  | .number chars =>
    if isNumberChar c then some ([], .number (c :: chars))
    else do
      let token ← numberToken? chars
      let (tokens, next) ← scanFirst c
      return (token :: tokens, next)
  | .word chars =>
    if c.isLower then some ([], .word (c :: chars))
    else do
      let token ← wordToken? chars
      let (tokens, next) ← scanFirst c
      return (token :: tokens, next)
  | .str codes =>
    if c = '"' then some ([stringToken codes], .between)
    else if c = '\\' then some ([], .escape codes)
    else if c.toNat < 0x20 then none
    else some ([], .str (c.toNat :: codes))
  | .escape codes =>
    if c = 'u' then some ([], .unicode codes 4 0)
    else (shortEscape? c).map fun code => ([], .str (code :: codes))
  | .unicode codes digits value =>
    (hexValue? c).map fun d =>
      if digits ≤ 1 then ([], .str ((16 * value + d) :: codes))
      else ([], .unicode codes (digits - 1) (16 * value + d))

/-- The tokens at the end of the text; a string that has not ended has none. -/
def scanEnd? : Scan → Option (List Token)
  | .between => some []
  | .number chars => (numberToken? chars).map fun t => [t]
  | .word chars => (wordToken? chars).map fun t => [t]
  | _ => none

/-- The tokens of the characters after what the machine is inside of. -/
def scanChars? : Scan → List Char → Option (List Token)
  | s, [] => scanEnd? s
  | s, c :: cs => do
    let (tokens, next) ← scanChar s c
    let rest ← scanChars? next cs
    return tokens ++ rest

/-- The tokens of a text. -/
def tokens? (text : String) : Option (List Token) :=
  scanChars? .between text.toList

end RecordFilter.Json
