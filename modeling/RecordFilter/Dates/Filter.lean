import RecordFilter.Calendar.Date
import RecordFilter.Fault
import RecordFilter.Text.Blank
import RecordFilter.Tree.Value

/-!
# `RecordFilter.Dates.Filter`: validated date filters

`DateValue.filter` checks the fields of a date object in the order number of days, input, mode,
and reports the first that is bad. Empty texts count as absent, and so does a number of days that
is blank. `Value.dateFilter` does the same for any value: all but a date object with a field that
says something are refused.
-/

set_option autoImplicit false

namespace RecordFilter

/-- A mode with the parameters that were given; it is not required that the mode reads them. -/
structure DateFilter where
  mode : DateMode
  numberOfDays : Option Nat
  input : Option Date
  deriving DecidableEq

/-- The mode of that name, or the fault that suggests a similar one. -/
def DateMode.parse (s : String) : Except FilterFault DateMode :=
  match ofName? s with
  | some mode => .ok mode
  | none => .error (.invalidDate (.unknownMode s (similar? s)))

/-- Numbers of days are below this limit, which is `2 ^ 32`. -/
def numberOfDaysLimit : Nat :=
  4294967296

/-- A number of days in a text: digits, with an optional plus in front. -/
def daysOfChars? (cs : List Char) : Option Nat :=
  let digits := match cs with
    | '+' :: rest => rest
    | _ => cs
  if digits.isEmpty then none else Date.digits? digits

namespace DateValue

/-- The number of days of a date object. -/
def checkedDays (d : DateValue) : Except FilterFault (Option Nat) :=
  let read : Option Nat → Except FilterFault (Option Nat)
    | some n => if n < numberOfDaysLimit then .ok (some n)
      else .error (.invalidDate .badNumberOfDays)
    | none => .error (.invalidDate .badNumberOfDays)
  match d.numberOfDays with
  | none => .ok none
  | some (.text s) =>
    let trimmed := Text.trimChars s.toList
    if trimmed.isEmpty then .ok none else read (daysOfChars? trimmed)
  | some (.number n) => read n.toNat?
  | some (.other _) => .error (.invalidDate .badNumberOfDays)

/-- The input date of a date object. -/
def checkedInput (d : DateValue) : Except FilterFault (Option Date) :=
  match d.input with
  | none => .ok none
  | some (.text s) =>
    if s.isEmpty then .ok none
    else
      match Date.ofText? s with
      | some date => .ok (some date)
      | none => .error (.invalidDate .badInput)
  | some (.number _) | some (.other _) => .error (.invalidDate .badInput)

/-- The mode of a date object. -/
def checkedMode (d : DateValue) : Except FilterFault DateMode :=
  match d.mode with
  | none => .error (.invalidDate .missingMode)
  | some (.text s) =>
    if s.isEmpty then .error (.invalidDate .missingMode) else DateMode.parse s
  | some (.number _) | some (.other _) => .error (.invalidDate .badMode)

/-- The filter that a date object describes. -/
def filter (d : DateValue) : Except FilterFault DateFilter := do
  let days ← d.checkedDays
  let input ← d.checkedInput
  let mode ← d.checkedMode
  return ⟨mode, days, input⟩

end DateValue

/-- The date filter that a value describes. -/
def Value.dateFilter : Value → Except FilterFault DateFilter
  | .date d => if d.isEmpty then .error (.invalidDate .notADate) else d.filter
  | _ => .error (.invalidDate .notADate)

end RecordFilter
