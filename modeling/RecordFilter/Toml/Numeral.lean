import RecordFilter.Number.Numeral
import RecordFilter.Toml.Basic
import RecordFilter.Toml.Text

/-!
# `RecordFilter.Toml.Numeral`: numbers and date-times

An integer has the range of a signed word of 64 bits. Single underscores may stand between
digits. A float that is too great is refused, but for a negative one. The numbers of a date-time
are checked against the calendar and the clock.
-/

set_option autoImplicit false

namespace RecordFilter.Toml.Grammar

open Reader

/-! ### Numbers -/

/-- Digits of a class with single underscores between. -/
def digits (p : Char → Bool) : Reader (List Char) :=
  List.flatten <$> separated (run1 p) (char '_')

/-- An optional sign. -/
def sign : Reader (List Char) :=
  (do return [← satisfy fun c => c == '+' || c == '-']) <|> pure []

/-- A decimal integer: a zero alone, or digits that do not start with one. -/
def decimal : Reader (List Char) := do
  let s ← sign
  match ← peek? with
  | some '0' =>
    char '0'
    return s ++ ['0']
  | _ => return s ++ (← digits Char.isDigit)

/-- The integer, if a signed word of 64 bits can hold it: from `-2 ^ 63` and below `2 ^ 63`. -/
def wordInteger (n : Int) : Reader Toml :=
  if -9223372036854775808 ≤ n ∧ n < 9223372036854775808 then return .integer n else failure

/-- An integer with a mark for its base. -/
def basedInteger (mark : Char) (base : Nat) (p : Char → Bool) : Reader Toml := do
  chars ['0', mark]
  wordInteger (natOfDigitsIn base (← digits p))

/-- An integer. -/
def integer : Reader Toml :=
  basedInteger 'x' 16 isHexDigit
    <|> basedInteger 'o' 8 (fun c => decide ('0' ≤ c) && decide (c ≤ '7'))
    <|> basedInteger 'b' 2 (fun c => c == '0' || c == '1')
    <|> (do
      let cs ← decimal
      let (negative, ds) := RecordFilter.Numeral.readSign cs
      let n : Int := RecordFilter.Numeral.natOfDigits ds
      wordInteger (if negative then -n else n))

/-- The places of a float. -/
def places : Reader (List Char) := do
  char '.'
  return '.' :: (← digits Char.isDigit)

/-- The exponent of a float. -/
def exponent : Reader (List Char) := do
  let e ← satisfy fun c => c == 'e' || c == 'E'
  let s ← sign
  return e :: (s ++ (← digits Char.isDigit))

/-- A float with places, an exponent or both. -/
def decimalFloat : Reader Toml := do
  let whole ← decimal
  let rest ← exponent <|> (do return (← places) ++ (← opt exponent).getD [])
  let text := whole ++ rest
  match RecordFilter.Numeral.ofChars? text with
  | some n => if n.negative || n.isFinite then return .float (String.ofList text) else failure
  | none => failure

/-- A float that is no number of the real line. -/
def specialFloat : Reader Toml := do
  let s ← sign
  let word ← (do chars ['i', 'n', 'f']; return ['i', 'n', 'f'])
    <|> (do chars ['n', 'a', 'n']; return ['n', 'a', 'n'])
  return .float (String.ofList (s ++ word))

/-- A float. -/
def float : Reader Toml :=
  decimalFloat <|> specialFloat

/-! ### Date-times -/

/-- A number of so many digits between two bounds, as it is written. -/
def clock (width low high : Nat) : Reader (Nat × List Char) := do
  let cs ← exactly Char.isDigit width
  let n := RecordFilter.Numeral.natOfDigits cs
  if low ≤ n ∧ n ≤ high then return (n, cs) else failure

/-- The length of a month in a year that is written with four digits. -/
def monthLength (year month : Nat) : Nat :=
  match month with
  | 2 => if year % 4 = 0 ∧ (year % 100 ≠ 0 ∨ year % 400 = 0) then 29 else 28
  | 4 | 6 | 9 | 11 => 30
  | _ => 31

/-- A date. -/
def fullDate : Reader (List Char) := do
  let (year, y) ← clock 4 0 9999
  char '-'
  let (month, m) ← clock 2 1 12
  char '-'
  let (_, d) ← clock 2 1 (monthLength year month)
  return y ++ '-' :: (m ++ '-' :: d)

/-- A time of the day. -/
def dayTime : Reader (List Char) := do
  let (_, h) ← clock 2 0 23
  char ':'
  let (_, m) ← clock 2 0 59
  char ':'
  let (_, s) ← clock 2 0 60
  let fraction ← opt (do
    char '.'
    return '.' :: (← run1 Char.isDigit))
  return h ++ ':' :: (m ++ ':' :: (s ++ fraction.getD []))

/-- The offset of a time. -/
def timeOffset : Reader (List Char) :=
  (do return [← satisfy fun c => c == 'Z' || c == 'z'])
    <|> (do
      let s ← satisfy fun c => c == '+' || c == '-'
      let (_, h) ← clock 2 0 23
      char ':'
      let (_, m) ← clock 2 0 59
      return s :: (h ++ ':' :: m))

/-- The time after a date. -/
def timeAfterDate : Reader (List Char) := do
  let mark ← satisfy fun c => c == 'T' || c == 't' || c == ' '
  let time ← dayTime
  let offset ← opt timeOffset
  return mark :: (time ++ offset.getD [])

/-- A date, a time of the day, or both. -/
def datetime : Reader Toml :=
  (do
    let date ← fullDate
    let time ← opt timeAfterDate
    return .datetime (String.ofList (date ++ time.getD [])))
    <|> (do return .datetime (String.ofList (← dayTime)))

end RecordFilter.Toml.Grammar
