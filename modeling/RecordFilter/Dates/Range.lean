import RecordFilter.Dates.Filter

/-!
# `RecordFilter.Dates.Range`: the boundaries of a date filter

`DateFilter.resolve` computes the two boundaries of a filter from an anchor date. A filter for a
single day has this day as both boundaries. A window is told from outside: the boundaries are the
last day before it and the first day after it. Boundaries are computed from left to right, and
the first one that is not supported, or the first parameter that is missing, is the fault.
-/

set_option autoImplicit false

namespace RecordFilter

/-- The boundaries of a date filter. -/
structure DateRange where
  start : Date
  stop : Date
  deriving DecidableEq

/-- The range of a single day. -/
def DateRange.day (d : Date) : DateRange :=
  ⟨d, d⟩

namespace Date

/-- A date that has to be supported. -/
def supported : Option Date → Except FilterFault Date
  | some d => .ok d
  | none => .error (.invalidDate .outOfRange)

/-- The day `n` days later; it has to be supported. -/
def shiftDays (d : Date) (n : Int) : Except FilterFault Date :=
  supported (d.addDays? n)

/-- The day `n` months later; it has to be supported. -/
def shiftMonths (d : Date) (n : Int) : Except FilterFault Date :=
  supported (d.addMonths? n)

/-- The days since the last day that a week starts on. -/
def daysIntoWeek (d : Date) (weekStart : Weekday) : Nat :=
  (7 + d.weekday.index - weekStart.index) % 7

end Date

namespace DateFilter

/-- A filter with a mode only. -/
def ofMode (mode : DateMode) : DateFilter :=
  ⟨mode, none, none⟩

/-- The number of days of a filter, which its mode needs. -/
def days (f : DateFilter) : Except FilterFault Nat :=
  match f.numberOfDays with
  | some n => .ok n
  | none => .error (.invalidDate (.missingNumberOfDays f.mode))

/-- The input date of a filter, which its mode needs. -/
def date (f : DateFilter) : Except FilterFault Date :=
  match f.input with
  | some d => .ok d
  | none => .error (.invalidDate .missingInput)

/-- The boundaries of a filter at an anchor, where weeks start on the given day. -/
def resolve (weekStart : Weekday) (f : DateFilter) (anchor : Date) :
    Except FilterFault DateRange :=
  match f.mode with
  | .today => .ok (.day anchor)
  | .tomorrow => return .day (← anchor.shiftDays 1)
  | .yesterday => return .day (← anchor.shiftDays (-1))
  | .oneWeekAgo => return .day (← anchor.shiftDays (-7))
  | .oneWeekFromNow => return .day (← anchor.shiftDays 7)
  | .oneMonthAgo => return .day (← anchor.shiftMonths (-1))
  | .oneMonthFromNow => return .day (← anchor.shiftMonths 1)
  | .daysAgo => return .day (← anchor.shiftDays (-(← f.days)))
  | .daysFromNow => return .day (← anchor.shiftDays (← f.days))
  | .exactDate => return .day (← f.date)
  | .pastWeek => return ⟨← anchor.shiftDays (-7), ← anchor.shiftDays 1⟩
  | .pastMonth => return ⟨← anchor.shiftMonths (-1), ← anchor.shiftDays 1⟩
  | .pastYear => return ⟨← anchor.shiftMonths (-12), ← anchor.shiftDays 1⟩
  | .pastNumberOfDays =>
    return ⟨← anchor.shiftDays (-((← f.days) + 1)), ← anchor.shiftDays 1⟩
  | .nextWeek => return ⟨← anchor.shiftDays (-1), ← anchor.shiftDays 7⟩
  | .nextMonth => return ⟨← anchor.shiftDays (-1), ← anchor.shiftMonths 1⟩
  | .nextYear => return ⟨← anchor.shiftDays (-1), ← anchor.shiftMonths 12⟩
  | .nextNumberOfDays =>
    return ⟨← anchor.shiftDays (-1), ← anchor.shiftDays ((← f.days) + 1)⟩
  | .calendarWeek => do
    let first ← anchor.shiftDays (-(anchor.daysIntoWeek weekStart))
    return ⟨← first.shiftDays (-1), ← first.shiftDays 7⟩
  | .calendarMonth => do
    let first ← Date.supported anchor.firstOfMonth?
    return ⟨← first.shiftDays (-1), ← first.shiftMonths 1⟩
  | .calendarYear =>
    return ⟨← Date.supported (Date.ofCivil? (.newYearsEve (anchor.civil.year - 1))),
      ← Date.supported (Date.ofCivil? (.newYear (anchor.civil.year + 1)))⟩

end DateFilter

end RecordFilter
