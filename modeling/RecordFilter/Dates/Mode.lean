import RecordFilter.Text.EditDistance
import RecordFilter.Text.Lowercase

/-!
# `RecordFilter.Dates.Mode`: the modes of a date filter

A mode says how the boundaries of a date filter follow from the anchor date. Its name is written
in the payload exactly. A text that is no name may be close to one: `DateMode.similar?` compares
in lower case and suggests the first name with the least edit distance, if that is at most 3.
-/

set_option autoImplicit false

namespace RecordFilter

/-- A mode: a single day, a window that ends or begins at the anchor, or the calendar unit that
holds the anchor. -/
inductive DateMode where
  | today
  | tomorrow
  | yesterday
  | oneWeekAgo
  | oneWeekFromNow
  | oneMonthAgo
  | oneMonthFromNow
  | daysAgo
  | daysFromNow
  | exactDate
  | pastWeek
  | pastMonth
  | pastYear
  | pastNumberOfDays
  | nextWeek
  | nextMonth
  | nextYear
  | nextNumberOfDays
  | calendarWeek
  | calendarMonth
  | calendarYear
  deriving DecidableEq, Inhabited

namespace DateMode

/-- Every mode, in the order in which suggestions are looked for. -/
def all : List DateMode :=
  [.today, .tomorrow, .yesterday, .oneWeekAgo, .oneWeekFromNow, .oneMonthAgo, .oneMonthFromNow,
    .daysAgo, .daysFromNow, .exactDate, .pastWeek, .pastMonth, .pastYear, .pastNumberOfDays,
    .nextWeek, .nextMonth, .nextYear, .nextNumberOfDays, .calendarWeek, .calendarMonth,
    .calendarYear]

/-- The name of a mode in the payload. -/
def name : DateMode → String
  | .today => "today"
  | .tomorrow => "tomorrow"
  | .yesterday => "yesterday"
  | .oneWeekAgo => "oneWeekAgo"
  | .oneWeekFromNow => "oneWeekFromNow"
  | .oneMonthAgo => "oneMonthAgo"
  | .oneMonthFromNow => "oneMonthFromNow"
  | .daysAgo => "daysAgo"
  | .daysFromNow => "daysFromNow"
  | .exactDate => "exactDate"
  | .pastWeek => "pastWeek"
  | .pastMonth => "pastMonth"
  | .pastYear => "pastYear"
  | .pastNumberOfDays => "pastNumberOfDays"
  | .nextWeek => "nextWeek"
  | .nextMonth => "nextMonth"
  | .nextYear => "nextYear"
  | .nextNumberOfDays => "nextNumberOfDays"
  | .calendarWeek => "calendarWeek"
  | .calendarMonth => "calendarMonth"
  | .calendarYear => "calendarYear"

/-- The modes that read a number of days. -/
def usesNumberOfDays : DateMode → Bool
  | .daysAgo | .daysFromNow | .pastNumberOfDays | .nextNumberOfDays => true
  | _ => false

/-- The mode of that name. -/
def ofName? (s : String) : Option DateMode :=
  all.find? fun m => m.name == s

/-- The edit distance of a text to the name of a mode, both in lower case. -/
def distance (s : String) (m : DateMode) : Nat :=
  Text.editDistance (Text.lowercase s) (Text.lowercase m.name)

/-- The greatest distance at which a name is suggested. -/
def suggestionDistance : Nat :=
  3

/-- The first mode of the list with the least distance. -/
def nearest (s : String) : DateMode → List DateMode → DateMode
  | best, [] => best
  | best, m :: ms => nearest s (if distance s m < distance s best then m else best) ms

/-- The mode to suggest for a text that is no name. -/
def similar? (s : String) : Option DateMode :=
  let best := nearest s .today all
  if distance s best ≤ suggestionDistance then some best else none

end DateMode

end RecordFilter
