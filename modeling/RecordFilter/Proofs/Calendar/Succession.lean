import RecordFilter.Proofs.Calendar.CivilDay

/-!
# `RecordFilter.Proofs.Calendar.Succession`: counting days and months by hand

What it means that a date is some days or months after another one, in the terms of a calendar on
the wall: years, months and days of the month, but no day numbers. `Civil.next` turns the page,
and `Civil.later` does so several times. `Civil.IsMonthsAfter` counts months and cuts the day to
the length of the month.

* `Civil.dayNumber_next`: the next date has the next day number, at the end of a month and of a
  year as well. So the day numbers count the pages.
* `Civil.later_eq_iff`: to be `n` days later is to have a number that is `n` greater.
* `Civil.isMonthsAfter_iff`, `Civil.isYearsAfter_iff`: `Civil.addMonths` is the only date some
  months or years after another one.
* `Civil.isInRange_iff`: the supported days are those of the years from -262143 to 262142.
-/

set_option autoImplicit false

namespace RecordFilter

/-! ### Months -/

/-- The days before the next month are those before the month and those of the month. -/
theorem daysBeforeMonth_succ (y : Int) {m : Nat} (h : 1 ≤ m) (hm : m ≤ 12) :
    daysBeforeMonth y (m + 1) = daysBeforeMonth y m + daysInMonth y m := by
  have hlt : m - 1 < (monthLengths y).length := by
    rw [length_monthLengths]; omega
  unfold daysBeforeMonth daysInMonth
  rw [Nat.add_sub_cancel, show (monthLengths y).take m = (monthLengths y).take (m - 1 + 1) by
    rw [Nat.sub_add_cancel h], List.take_succ_eq_append_getElem hlt, daysOfMonths_append,
    List.getElem?_eq_getElem hlt]
  rfl

/-- The days up to December are those of the year. -/
theorem daysBeforeMonth_december (y : Int) :
    daysBeforeMonth y 12 + daysInMonth y 12 = daysInYear y := by
  rw [← daysBeforeMonth_succ y (by decide) (by decide), ← daysOfMonths_monthLengths]
  rfl

/-- No month is without days. -/
theorem one_le_daysInMonth (y : Int) {m : Nat} (h : m ≤ 12) : 1 ≤ daysInMonth y m := by
  have hlength := daysInMonth_ge y m h
  omega

namespace Civil

variable {c d : Civil}

/-! ### The next day -/

/-- The date on the next page of a calendar: the next day of the month, or else the first day of
the next month, or else of the next year. -/
def next (c : Civil) : Civil :=
  if h : c.day < daysInMonth c.year c.month then
    ⟨c.year, c.month, c.day + 1, c.one_le_month, c.month_le, Nat.le_add_left 1 c.day, h⟩
  else if h : c.month < 12 then
    ⟨c.year, c.month + 1, 1, Nat.le_add_left 1 c.month, h, Nat.one_pos,
      one_le_daysInMonth c.year h⟩
  else newYear (c.year + 1)

/-- The next date has the next day number. -/
theorem dayNumber_next (c : Civil) : c.next.dayNumber = c.dayNumber + 1 := by
  have hlength := c.day_le
  unfold next
  -- The next page stays in the month, in the year, or in neither.
  split
  · show daysBeforeYear c.year + (daysBeforeMonth c.year c.month : Int) + ((c.day + 1 : Nat) : Int)
      = daysBeforeYear c.year + (daysBeforeMonth c.year c.month : Int) + (c.day : Int) + 1
    omega
  · have hday : c.day = daysInMonth c.year c.month := by omega
    have hnumber : c.dayNumber = daysBeforeYear c.year + daysBeforeMonth c.year c.month
        + daysInMonth c.year c.month := by
      rw [← hday]
      rfl
    split
    · have hsucc := daysBeforeMonth_succ c.year c.one_le_month c.month_le
      show daysBeforeYear c.year + (daysBeforeMonth c.year (c.month + 1) : Int) + 1 = _
      omega
    · -- The last day of December is followed by the new year.
      have hmonth : c.month = 12 := by
        have hle := c.month_le
        omega
      have hyear := daysBeforeYear_succ c.year
      have hdays := daysBeforeMonth_december c.year
      rw [hmonth] at hnumber
      show daysBeforeYear (c.year + 1) + 0 + 1 = _
      omega

/-- A date is known by its day number. -/
theorem dayNumber_inj : c.dayNumber = d.dayNumber ↔ c = d := by
  constructor
  · intro h
    rw [← ofDayNumber_dayNumber c, h, ofDayNumber_dayNumber]
  · intro h
    rw [h]

/-- Every number is that of a date. -/
theorem exists_dayNumber (n : Int) : ∃ c : Civil, c.dayNumber = n :=
  ⟨ofDayNumber n, dayNumber_ofDayNumber n⟩

/-- The date `n` pages further. -/
def later (c : Civil) : Nat → Civil
  | 0 => c
  | n + 1 => (c.later n).next

/-- Each page that is turned is one more day. -/
theorem dayNumber_later (c : Civil) (n : Nat) : (c.later n).dayNumber = c.dayNumber + n := by
  induction n with
  | zero => simp [later]
  | succ n ih =>
    rw [later, dayNumber_next, ih]
    omega

/-- To be `n` days later is to have a number that is `n` greater. -/
theorem later_eq_iff {n : Nat} : c.later n = d ↔ d.dayNumber = c.dayNumber + n := by
  rw [← dayNumber_inj, dayNumber_later, eq_comm]

/-- The weekday of a date. -/
def weekday (c : Civil) : Weekday :=
  Weekday.ofDayNumber c.dayNumber

/-! ### Months later -/

/-- `d` is `n` months after `c`, or before it where `n` is negative. If the month of `d` is too
short for the day of `c`, then `d` is its last day. -/
def IsMonthsAfter (d : Civil) (n : Int) (c : Civil) : Prop :=
  12 * d.year + d.month = 12 * c.year + c.month + n ∧
    d.day = min c.day (daysInMonth d.year d.month)

/-- `d` is `n` years after `c`, or before it where `n` is negative. Of the days of a month, only
the 29th of February is not there in all years. -/
def IsYearsAfter (d : Civil) (n : Int) (c : Civil) : Prop :=
  d.year = c.year + n ∧ d.month = c.month ∧ d.day = min c.day (daysInMonth d.year d.month)

/-- Dates with the same year, month and day are the same. -/
theorem ext_fields (hyear : c.year = d.year) (hmonth : c.month = d.month)
    (hday : c.day = d.day) : c = d := by
  obtain ⟨year, month, day, _, _, _, _⟩ := c
  obtain ⟨year', month', day', _, _, _, _⟩ := d
  cases hyear
  cases hmonth
  cases hday
  rfl

/-- There is one date that is `n` months after another one. -/
theorem isMonthsAfter_iff {n : Int} : d.IsMonthsAfter n c ↔ d = c.addMonths n := by
  have hc := c.one_le_month
  constructor
  · intro ⟨hmonths, hday⟩
    -- Counted in months, the two dates fix the year and the month, and these fix the day.
    have hd := d.one_le_month
    have hd' := d.month_le
    have hyear : d.year = (c.addMonths n).year := by
      show d.year = (12 * c.year + (c.month - 1 : Nat) + n) / 12
      omega
    have hmonth : d.month = (c.addMonths n).month := by
      show d.month = ((12 * c.year + (c.month - 1 : Nat) + n) % 12).toNat + 1
      omega
    refine ext_fields hyear hmonth ?_
    rw [hday, hyear, hmonth]
    rfl
  · intro h
    rw [h]
    refine ⟨?_, rfl⟩
    show 12 * ((12 * c.year + (c.month - 1 : Nat) + n) / 12)
      + (((12 * c.year + (c.month - 1 : Nat) + n) % 12).toNat + 1 : Nat) = _
    omega

/-- A year is twelve months. -/
theorem isYearsAfter_iff {n : Int} : d.IsYearsAfter n c ↔ d = c.addMonths (12 * n) := by
  rw [← isMonthsAfter_iff, IsYearsAfter, IsMonthsAfter, ← and_assoc]
  refine and_congr_left fun _ => ?_
  have hc := c.one_le_month
  have hc' := c.month_le
  have hd := d.one_le_month
  have hd' := d.month_le
  omega

/-! ### Supported years -/

/-- The year of a date is one of the supported ones. -/
def IsInRange (c : Civil) : Prop :=
  -262143 ≤ c.year ∧ c.year ≤ 262142

/-- The supported days are those of the supported years. -/
theorem isInRange_iff : c.IsInRange ↔ Date.IsSupported c.dayNumber := by
  -- The day of a date lies in the year of the date.
  have hbegin := daysBeforeYear_yearOf_lt c.dayNumber
  have hend := le_daysBeforeYear_yearOf_succ c.dayNumber
  rw [c.yearOf_dayNumber] at hbegin hend
  unfold IsInRange Date.IsSupported Date.earliest Date.latest
  constructor
  · intro ⟨hfirst, hlast⟩
    have hle := daysBeforeYear_le hfirst
    have hle' := daysBeforeYear_le (show c.year + 1 ≤ 262143 by omega)
    omega
  · intro ⟨hfirst, hlast⟩
    -- An earlier year ends too early, and a later one begins too late.
    refine ⟨Int.not_lt.mp fun hless => ?_, Int.not_lt.mp fun hgreater => ?_⟩
    · have hle := daysBeforeYear_le (show c.year + 1 ≤ -262143 by omega)
      omega
    · have hle := daysBeforeYear_le (show 262143 ≤ c.year by omega)
      omega

end Civil

end RecordFilter
