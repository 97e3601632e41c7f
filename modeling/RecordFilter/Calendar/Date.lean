import RecordFilter.Calendar.Civil
import RecordFilter.Calendar.Weekday

/-!
# `RecordFilter.Calendar.Date`: the supported dates

A `Date` is a day from the first of January of the year -262143 to the last of December of the
year 262142, kept as its day number. Shifts by days and months give `none` outside of this range.

A date is written as year, month and day with hyphens. Years from 0 to 9999 have four digits and
no sign, and all other years a sign and at least four digits. `Date.ofText?` reads the form
without a sign only.
-/

set_option autoImplicit false

namespace RecordFilter

/-- A supported day. -/
structure Date where
  number : Int
  earliest_le : daysBeforeYear (-262143) + 1 ≤ number
  le_latest : number ≤ daysBeforeYear 262143
  deriving DecidableEq

namespace Date

/-- The number of the first supported day. -/
def earliest : Int :=
  daysBeforeYear (-262143) + 1

/-- The number of the last supported day. -/
def latest : Int :=
  daysBeforeYear 262143

instance : LT Date := ⟨fun a b => a.number < b.number⟩

instance : LE Date := ⟨fun a b => a.number ≤ b.number⟩

/-- The day of that number, if it is supported. -/
def ofNumber? (n : Int) : Option Date :=
  if h : earliest ≤ n ∧ n ≤ latest then some ⟨n, h.1, h.2⟩ else none

/-- The civil date of a day. -/
def civil (d : Date) : Civil :=
  Civil.ofDayNumber d.number

/-- The day of a civil date, if it is supported. -/
def ofCivil? (c : Civil) : Option Date :=
  ofNumber? c.dayNumber

/-- The day of that year, month and day of the month, if there is one and it is supported. -/
def of? (year : Int) (month day : Nat) : Option Date :=
  (Civil.of? year month day).bind ofCivil?

/-- The day `n` days later, or earlier where `n` is negative. -/
def addDays? (d : Date) (n : Int) : Option Date :=
  ofNumber? (d.number + n)

/-- The day `n` months later, or earlier where `n` is negative, with the day of the month cut to
the length of the month. -/
def addMonths? (d : Date) (n : Int) : Option Date :=
  ofCivil? (d.civil.addMonths n)

/-- The first day of the month. -/
def firstOfMonth? (d : Date) : Option Date :=
  ofCivil? d.civil.firstOfMonth

/-- The weekday of a day. -/
def weekday (d : Date) : Weekday :=
  Weekday.ofDayNumber d.number

/-! ### Text -/

/-- The decimal digits of a number, with zeros in front up to a width. -/
def padded (width n : Nat) : List Char :=
  let digits := Nat.toDigits 10 n
  List.replicate (width - digits.length) '0' ++ digits

/-- The year of a written date. -/
def yearChars (y : Int) : List Char :=
  if 0 ≤ y ∧ y ≤ 9999 then padded 4 y.natAbs
  else (if y < 0 then '-' else '+') :: padded 4 y.natAbs

/-- A date as characters. -/
def chars (d : Date) : List Char :=
  yearChars d.civil.year ++ '-' :: (padded 2 d.civil.month ++ '-' :: padded 2 d.civil.day)

/-- A date as text. -/
def text (d : Date) : String :=
  String.ofList d.chars

/-- The value of the digits, if all the characters are digits. -/
def digits? (cs : List Char) : Option Nat :=
  if cs.all Char.isDigit then some (cs.foldl (fun n c => 10 * n + (c.toNat - 48)) 0) else none

/-- The date of ten characters: four digits, two digits and two digits with hyphens between. -/
def ofChars? : List Char → Option Date
  | [y1, y2, y3, y4, '-', m1, m2, '-', d1, d2] => do
    let year ← digits? [y1, y2, y3, y4]
    let month ← digits? [m1, m2]
    let day ← digits? [d1, d2]
    of? year month day
  | _ => none

/-- The date that the text spells. -/
def ofText? (s : String) : Option Date :=
  ofChars? s.toList

end Date

end RecordFilter
