/-!
# `RecordFilter.Calendar.Weekday`: the days of the week

A weekday is read from its English name or the first three letters of it, in capital or small
letters.
-/

set_option autoImplicit false

namespace RecordFilter

/-- A day of the week. -/
inductive Weekday where
  | monday
  | tuesday
  | wednesday
  | thursday
  | friday
  | saturday
  | sunday
  deriving DecidableEq, Inhabited

namespace Weekday

/-- The days of the week, from Monday. -/
def all : List Weekday :=
  [.monday, .tuesday, .wednesday, .thursday, .friday, .saturday, .sunday]

/-- The days since Monday. -/
def index : Weekday → Nat
  | .monday => 0
  | .tuesday => 1
  | .wednesday => 2
  | .thursday => 3
  | .friday => 4
  | .saturday => 5
  | .sunday => 6

/-- The English name. -/
def name : Weekday → String
  | .monday => "Monday"
  | .tuesday => "Tuesday"
  | .wednesday => "Wednesday"
  | .thursday => "Thursday"
  | .friday => "Friday"
  | .saturday => "Saturday"
  | .sunday => "Sunday"

/-- The first three letters of the name. -/
def abbreviation (w : Weekday) : String :=
  String.ofList (w.name.toList.take 3)

/-- The two texts are equal but for the case of ASCII letters. -/
def sameLetters (s t : String) : Bool :=
  s.toList.map Char.toLower == t.toList.map Char.toLower

/-- The weekday of that name or abbreviation, in any case. -/
def ofText? (s : String) : Option Weekday :=
  all.find? fun w => sameLetters s w.name || sameLetters s w.abbreviation

/-- The weekday of a day number: day 1 is a Monday. -/
def ofDayNumber (n : Int) : Weekday :=
  match ((n - 1) % 7).toNat with
  | 0 => .monday
  | 1 => .tuesday
  | 2 => .wednesday
  | 3 => .thursday
  | 4 => .friday
  | 5 => .saturday
  | _ => .sunday

/-- The weekday of a day number is as many days after Monday as the day is after one. -/
theorem index_ofDayNumber (n : Int) : ((ofDayNumber n).index : Int) = (n - 1) % 7 := by
  have h0 := Int.emod_nonneg (n - 1) (b := 7) (by decide)
  have h7 := Int.emod_lt_of_pos (n - 1) (b := 7) (by decide)
  unfold ofDayNumber
  generalize (n - 1) % 7 = r at h0 h7 ⊢
  have h : r = 0 ∨ r = 1 ∨ r = 2 ∨ r = 3 ∨ r = 4 ∨ r = 5 ∨ r = 6 := by omega
  rcases h with rfl | rfl | rfl | rfl | rfl | rfl | rfl <;> rfl

end Weekday

end RecordFilter
