import RecordFilter.Proofs.Dates.Table

/-!
# `RecordFilter.Proofs.Dates.CalendarUnits`: weeks, months and years tile the calendar

A filter for a calendar unit is about the days strictly between its boundaries. These days are
the unit that holds the anchor, and no others. A week is seven days in a row, the first of which
has the weekday that weeks start on. A month is the days of one year and month, and a year those
of one year.

* `CalendarUnit.same_iff_of_spans`: from the first to the last day of a unit are exactly the days
  of the unit.
* `CalendarUnit.Same.symm`, `CalendarUnit.Same.trans`: no day is in two units.
* `surrounds_iff_same`: the days strictly between the boundaries are those of the unit.
* `calendarUnit_tiles`: the ranges of two anchors are equal when each anchor is inside the range
  of the other one, and have no day in common otherwise.
-/

set_option autoImplicit false

namespace RecordFilter

/-! ### Units -/

/-- The units of the calendar that a filter can ask for. -/
inductive CalendarUnit where
  | week
  | month
  | year
  deriving DecidableEq

/-- The mode that asks for a unit. -/
def CalendarUnit.mode : CalendarUnit → DateMode
  | .week => .calendarWeek
  | .month => .calendarMonth
  | .year => .calendarYear

/-- The two dates lie in the same unit. Of the weeks, this is the one block of seven days that
begins with the weekday `weekStart` and holds both. -/
def CalendarUnit.Same (weekStart : Weekday) (c d : Civil) : CalendarUnit → Prop
  | .week => ∃ first : Civil, first.weekday = weekStart ∧
      (∃ m < 7, first.later m = c) ∧ ∃ n < 7, first.later n = d
  | .month => d.year = c.year ∧ d.month = c.month
  | .year => d.year = c.year

/-- The first and the last day of the unit that holds a date. -/
def CalendarUnit.Spans (weekStart : Weekday) (c first last : Civil) : CalendarUnit → Prop
  | .week => Civil.IsWeekOf weekStart c first last
  | .month => c.IsMonthOf first last
  | .year => c.IsYearOf first last

/-- The date lies strictly between the boundaries. -/
def DateRange.Surrounds (r : DateRange) (c : Civil) : Prop :=
  r.start.number < c.dayNumber ∧ c.dayNumber < r.stop.number

namespace Civil

variable {weekStart : Weekday} {c d first last : Civil}

/-! ### The days of a unit -/

/-- A date is one of the seven from a first day of a week exactly when this day starts the week
of the date. -/
theorem exists_later_eq_iff (hweekday : first.weekday = weekStart) :
    (∃ n < 7, first.later n = c) ↔ first.dayNumber = weekStartOf weekStart c.dayNumber := by
  constructor
  · intro ⟨n, hn, h⟩
    exact (isWeekOf_iff.mp ⟨hweekday, rfl, n, by omega, h⟩).1
  · intro h
    obtain ⟨-, -, n, hn, hc⟩ := isWeekOf_iff.mpr ⟨h, dayNumber_later first 6⟩
    exact ⟨n, by omega, hc⟩

/-- Two dates lie in one block of seven days when the same day starts it for both. -/
theorem same_week_iff : CalendarUnit.Same weekStart c d .week ↔
    weekStartOf weekStart d.dayNumber = weekStartOf weekStart c.dayNumber := by
  constructor
  · intro ⟨first, hweekday, hc, hd⟩
    rw [← (exists_later_eq_iff hweekday).mp hc, ← (exists_later_eq_iff hweekday).mp hd]
  · intro h
    obtain ⟨first, hfirst⟩ := exists_dayNumber (weekStartOf weekStart c.dayNumber)
    -- The day that starts the week of a date has the weekday that weeks start on.
    have hweekday : first.weekday = weekStart :=
      (isWeekOf_iff.mpr ⟨hfirst, dayNumber_later first 6⟩).1
    exact ⟨first, hweekday, (exists_later_eq_iff hweekday).mpr hfirst,
      (exists_later_eq_iff hweekday).mpr (hfirst.trans h.symm)⟩

/-- The dates that the same day starts the week of are the seven from this day on. -/
theorem weekStartOf_eq_iff {m n : Int} : weekStartOf weekStart n = weekStartOf weekStart m ↔
    weekStartOf weekStart m ≤ n ∧ n ≤ weekStartOf weekStart m + 6 := by
  have hm := Weekday.index_ofDayNumber m
  have hn := Weekday.index_ofDayNumber n
  have hstart := weekStart.index_le
  unfold weekStartOf
  omega

/-- The dates of a month are those from its first to its last day. -/
theorem same_month_iff : d.year = c.year ∧ d.month = c.month ↔
    c.firstOfMonth.dayNumber ≤ d.dayNumber ∧ d.dayNumber ≤ c.lastOfMonth.dayNumber := by
  have hfirst : c.firstOfMonth.dayNumber
      = daysBeforeYear c.year + daysBeforeMonth c.year c.month + 1 := rfl
  have hlast : c.lastOfMonth.dayNumber = daysBeforeYear c.year + daysBeforeMonth c.year c.month
      + daysInMonth c.year c.month := rfl
  rw [hfirst, hlast]
  constructor
  · intro ⟨hyear, hmonth⟩
    have hday := d.one_le_day
    have hday' := d.day_le
    unfold dayNumber
    rw [hyear, hmonth] at *
    omega
  · intro ⟨hle, hle'⟩
    -- The month has a date with this number, and the number belongs to no other date.
    let day := (d.dayNumber - (daysBeforeYear c.year + daysBeforeMonth c.year c.month)).toNat
    let e : Civil := ⟨c.year, c.month, day, c.one_le_month, c.month_le, by omega, by omega⟩
    have he : e.dayNumber = d.dayNumber := by
      show daysBeforeYear c.year + daysBeforeMonth c.year c.month + (day : Int) = d.dayNumber
      omega
    rw [← dayNumber_inj.mp he]
    exact ⟨rfl, rfl⟩

/-- The dates of a year are those from its first to its last day. -/
theorem same_year_iff : d.year = c.year ↔
    (newYear c.year).dayNumber ≤ d.dayNumber ∧ d.dayNumber ≤ (newYearsEve c.year).dayNumber := by
  have hfirst : (newYear c.year).dayNumber = daysBeforeYear c.year + 1 := by
    show daysBeforeYear c.year + 0 + 1 = _
    omega
  have hlast : (newYearsEve c.year).dayNumber = daysBeforeYear (c.year + 1) := by
    have hnext := congrArg dayNumber (newYearsEve_later_one c.year)
    have hyear : (newYear (c.year + 1)).dayNumber = daysBeforeYear (c.year + 1) + 0 + 1 := rfl
    rw [dayNumber_later] at hnext
    omega
  rw [hfirst, hlast, ← d.yearOf_dayNumber]
  constructor
  · intro h
    have hbegin := daysBeforeYear_yearOf_lt d.dayNumber
    have hend := le_daysBeforeYear_yearOf_succ d.dayNumber
    rw [h] at hbegin hend
    omega
  · intro ⟨hle, hle'⟩
    exact yearOf_eq (by omega) hle'

end Civil

namespace CalendarUnit

variable {weekStart : Weekday} {c d e first last : Civil} {unit : CalendarUnit}

/-- From the first to the last day of a unit are exactly the days of the unit. -/
theorem same_iff_of_spans (h : unit.Spans weekStart c first last) :
    unit.Same weekStart c d ↔
      first.dayNumber ≤ d.dayNumber ∧ d.dayNumber ≤ last.dayNumber := by
  cases unit with
  | week =>
    obtain ⟨hfirst, hlast⟩ := isWeekOf_iff.mp h
    rw [Civil.same_week_iff, Civil.weekStartOf_eq_iff, hlast, hfirst]
  | month =>
    obtain ⟨rfl, rfl⟩ := h
    exact Civil.same_month_iff
  | year =>
    obtain ⟨rfl, rfl⟩ := h
    exact Civil.same_year_iff

/-- A day is in its own unit. -/
theorem Same.refl (weekStart : Weekday) (c : Civil) (unit : CalendarUnit) :
    unit.Same weekStart c c := by
  cases unit with
  | week => exact Civil.same_week_iff.mpr rfl
  | month => exact ⟨rfl, rfl⟩
  | year => exact rfl

/-- If one day is in the unit of another one, they share it. -/
theorem Same.symm (h : unit.Same weekStart c d) : unit.Same weekStart d c := by
  cases unit with
  | week => exact Civil.same_week_iff.mpr (Civil.same_week_iff.mp h).symm
  | month => exact ⟨h.1.symm, h.2.symm⟩
  | year => exact Eq.symm h

/-- A day of two units makes them one. -/
theorem Same.trans (h : unit.Same weekStart c d) (h' : unit.Same weekStart d e) :
    unit.Same weekStart c e := by
  cases unit with
  | week =>
    exact Civil.same_week_iff.mpr
      ((Civil.same_week_iff.mp h').trans (Civil.same_week_iff.mp h))
  | month => exact ⟨h'.1.trans h.1, h'.2.trans h.2⟩
  | year => exact Eq.trans h' h

end CalendarUnit

/-! ### Ranges -/

variable {weekStart : Weekday} {unit : CalendarUnit} {f : DateFilter} {anchor : Date}
  {r s : DateRange}

/-- The boundaries of a unit are next to its first and its last day. -/
theorem exists_spans_of_resolve (hmode : f.mode = unit.mode)
    (hr : f.resolve weekStart anchor = .ok r) :
    ∃ first last, unit.Spans weekStart anchor.civil first last ∧
      first.dayNumber - 1 = r.start.number ∧ last.dayNumber + 1 = r.stop.number := by
  have htable := resolve_eq_ok_iff_hasBoundaries.mp hr
  have hencloses : Encloses (fun first last => unit.Spans weekStart anchor.civil first last)
      r.start.civil r.stop.civil := by
    unfold DateFilter.HasBoundaries at htable
    rw [hmode] at htable
    cases unit with
    | week | month | year => exact htable
  have hnumbers := encloses_iff.mp hencloses
  simpa only [Date.dayNumber_civil] using hnumbers

/-- The days strictly between the boundaries are those of the unit that holds the anchor. -/
theorem surrounds_iff_same (hmode : f.mode = unit.mode)
    (hr : f.resolve weekStart anchor = .ok r) (d : Civil) :
    r.Surrounds d ↔ unit.Same weekStart anchor.civil d := by
  obtain ⟨first, last, hspans, hstart, hstop⟩ := exists_spans_of_resolve hmode hr
  rw [CalendarUnit.same_iff_of_spans hspans]
  unfold DateRange.Surrounds
  omega

/-- Ranges with the same days strictly between their boundaries are the same, if there is one. -/
theorem DateRange.eq_of_surrounds_iff {c : Civil} (hc : r.Surrounds c)
    (h : ∀ d, r.Surrounds d ↔ s.Surrounds d) : s = r := by
  have hnumbers : ∀ n : Int, (r.start.number < n ∧ n < r.stop.number) ↔
      (s.start.number < n ∧ n < s.stop.number) := by
    intro n
    obtain ⟨d, rfl⟩ := Civil.exists_dayNumber n
    exact h d
  have hc' := (h c).mp hc
  unfold DateRange.Surrounds at hc hc'
  -- The first and the last day inside of one range are inside of the other one.
  have hfirst := (hnumbers (r.start.number + 1)).mp (by omega)
  have hlast := (hnumbers (r.stop.number - 1)).mp (by omega)
  have hfirst' := (hnumbers (s.start.number + 1)).mpr (by omega)
  have hlast' := (hnumbers (s.stop.number - 1)).mpr (by omega)
  have hstart : s.start = r.start := Date.number_injective (by omega)
  have hstop : s.stop = r.stop := Date.number_injective (by omega)
  obtain ⟨start, stop⟩ := s
  rw [show start = r.start from hstart, show stop = r.stop from hstop]

/-- Exactly the seven days from the day after the first boundary on are inside of a week. -/
theorem surrounds_week_iff (hmode : f.mode = .calendarWeek)
    (hr : f.resolve weekStart anchor = .ok r) :
    r.start.civil.next.weekday = weekStart ∧
      (∃ n ≤ 6, r.start.civil.next.later n = anchor.civil) ∧
      ∀ d, r.Surrounds d ↔ ∃ n < 7, r.start.civil.next.later n = d := by
  obtain ⟨first, last, hspans, hstart, hstop⟩ :=
    exists_spans_of_resolve (show f.mode = CalendarUnit.week.mode from hmode) hr
  have hnext : r.start.civil.next = first := by
    rw [← Civil.dayNumber_inj, Civil.dayNumber_next, Date.dayNumber_civil]
    omega
  -- The week ends six days after its first day, and the range one day later.
  have hlast := (isWeekOf_iff.mp hspans).2
  obtain ⟨hweekday, -, hanchor⟩ := hspans
  rw [hnext]
  refine ⟨hweekday, hanchor, fun d => ?_⟩
  simp only [Civil.later_eq_iff, DateRange.Surrounds]
  constructor
  · intro hd
    exact ⟨(d.dayNumber - first.dayNumber).toNat, by omega, by omega⟩
  · rintro ⟨n, hn, hd⟩
    omega

/-- Where a filter for a calendar unit resolves, the days strictly between its boundaries are
those of the unit that holds the anchor; of a week these are the seven days from its first one,
which has the weekday that weeks start on. Two anchors that are each inside of the range of the
other one have the same range, and the ranges of all others have no day in common. -/
theorem calendarUnit_tiles (weekStart : Weekday) (unit : CalendarUnit) (f : DateFilter)
    (hmode : f.mode = unit.mode) (anchor : Date) (r : DateRange)
    (hr : f.resolve weekStart anchor = .ok r) :
    (∀ d, r.Surrounds d ↔ unit.Same weekStart anchor.civil d) ∧
      (unit = .week → r.start.civil.next.weekday = weekStart ∧
        (∃ n ≤ 6, r.start.civil.next.later n = anchor.civil) ∧
        ∀ d, r.Surrounds d ↔ ∃ n < 7, r.start.civil.next.later n = d) ∧
      ∀ (g : DateFilter) (other : Date) (s : DateRange), g.mode = unit.mode →
        g.resolve weekStart other = .ok s →
          (r.Surrounds other.civil ∧ s.Surrounds anchor.civil → s = r) ∧
          (¬ (r.Surrounds other.civil ∧ s.Surrounds anchor.civil) →
            ∀ d, ¬ (r.Surrounds d ∧ s.Surrounds d)) := by
  have hinside := surrounds_iff_same hmode hr
  refine ⟨hinside, ?_, ?_⟩
  · intro hweek
    rw [hweek] at hmode
    exact surrounds_week_iff hmode hr
  intro g other s hmode' hs
  have hinside' := surrounds_iff_same hmode' hs
  simp only [hinside, hinside']
  refine ⟨fun ⟨hother, _⟩ => ?_, fun hapart d hd => ?_⟩
  · have hanchor : r.Surrounds anchor.civil := (hinside _).mpr (.refl _ _ _)
    refine DateRange.eq_of_surrounds_iff hanchor fun d => ?_
    rw [hinside, hinside']
    exact ⟨hother.symm.trans, hother.trans⟩
  · -- A day inside of both ranges would put each anchor into the unit of the other one.
    have hother := hd.1.trans hd.2.symm
    exact hapart ⟨hother, hother.symm⟩

/-- A week from Saturday holds the last day of the year 2023 and the fourth of January. The next
Saturday begins another week, which has no day in common with it. -/
theorem week_across_new_year :
    let f : DateFilter := .ofMode .calendarWeek
    let newYearsEve : Date := ⟨738885, by decide, by decide⟩
    let thursday : Date := ⟨738889, by decide, by decide⟩
    let nextSaturday : Date := ⟨738891, by decide, by decide⟩
    let r : DateRange := ⟨⟨738883, by decide, by decide⟩, ⟨738891, by decide, by decide⟩⟩
    let s : DateRange := ⟨⟨738890, by decide, by decide⟩, ⟨738898, by decide, by decide⟩⟩
    f.mode = CalendarUnit.week.mode ∧ f.resolve .saturday newYearsEve = .ok r ∧
      f.resolve .saturday nextSaturday = .ok s ∧
      CalendarUnit.week.Same .saturday newYearsEve.civil thursday.civil ∧
      (newYearsEve.civil.year, thursday.civil.year) = (2023, 2024) ∧
      ∀ d, ¬ (r.Surrounds d ∧ s.Surrounds d) := by
  intro f newYearsEve thursday nextSaturday r s
  have hr : f.resolve .saturday newYearsEve = .ok r :=
    resolve_eq_ok_iff.mpr (by decide)
  have hs : f.resolve .saturday nextSaturday = .ok s :=
    resolve_eq_ok_iff.mpr (by decide)
  have hnumber : ∀ d : Date, d.civil.dayNumber = d.number := fun d =>
    Civil.dayNumber_ofDayNumber d.number
  obtain ⟨hinside, -, hothers⟩ := calendarUnit_tiles .saturday .week f rfl newYearsEve r hr
  have hthursday : r.Surrounds thursday.civil := by
    unfold DateRange.Surrounds
    rw [hnumber]
    decide
  refine ⟨rfl, hr, hs, (hinside _).mp hthursday, by decide, ?_⟩
  refine (hothers f nextSaturday s rfl hs).2 ?_
  unfold DateRange.Surrounds
  rw [hnumber]
  decide

end RecordFilter
