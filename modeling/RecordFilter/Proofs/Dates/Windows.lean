import RecordFilter.Proofs.Calendar.DateText
import RecordFilter.Proofs.Calendar.Months
import RecordFilter.Proofs.Dates.CalendarUnits

/-!
# `RecordFilter.Proofs.Dates.Windows`: the days of trailing and leading windows

A trailing window ends at the anchor and a leading one begins there, and both hold the anchor. The
length of a window is a number of days, or it follows from a shift by a month or a year, which cuts
the day to the length of the month that it reaches. So a month is from 28 to 31 days long, and a
year 365 or 366, whatever the anchor is.

* `WindowSpan.exists_length_of_isBefore`, `WindowSpan.exists_length_of_isAfter`: how many days lie
  between the anchor and the shifted anchor.
* `exists_shape_of_resolve`: a filter that resolves is for a single day, for a window, or for a
  unit of the calendar.
* `window_selects_days`: the days strictly between the boundaries of a filter.
-/

set_option autoImplicit false

namespace RecordFilter

/-! ### Windows -/

/-- The spans of time that a window can be asked for. A window of `n` days has the anchor besides
them. -/
inductive WindowSpan where
  | days (n : Nat)
  | week
  | month
  | year
  deriving DecidableEq

namespace WindowSpan

/-- The mode that asks for the window up to the anchor. -/
def past : WindowSpan → DateMode
  | .days _ => .pastNumberOfDays
  | .week => .pastWeek
  | .month => .pastMonth
  | .year => .pastYear

/-- The mode that asks for the window from the anchor on. -/
def next : WindowSpan → DateMode
  | .days _ => .nextNumberOfDays
  | .week => .nextWeek
  | .month => .nextMonth
  | .year => .nextYear

/-- The filter gives the number of days of the span, if the span has one. -/
def IsGivenBy (f : DateFilter) : WindowSpan → Prop
  | .days n => f.numberOfDays = some n
  | .week | .month | .year => True

/-- The last day before the window that ends at the anchor. -/
def IsBefore (anchor before : Civil) : WindowSpan → Prop
  | .days n => before.later (n + 1) = anchor
  | .week => before.later 7 = anchor
  | .month => before.IsMonthsAfter (-1) anchor
  | .year => before.IsMonthsAfter (-12) anchor

/-- The first day after the window that begins at the anchor. -/
def IsAfter (anchor after : Civil) : WindowSpan → Prop
  | .days n => anchor.later (n + 1) = after
  | .week => anchor.later 7 = after
  | .month => after.IsMonthsAfter 1 anchor
  | .year => after.IsMonthsAfter 12 anchor

/-- A window of the span can have `k` days. -/
def HasLength (k : Nat) : WindowSpan → Prop
  | .days n => k = n + 1
  | .week => k = 7
  | .month => 28 ≤ k ∧ k ≤ 31
  | .year => 365 ≤ k ∧ k ≤ 366

end WindowSpan

/-- The modes that ask for a single day. -/
def DateMode.singleDays : List DateMode :=
  [.today, .tomorrow, .yesterday, .oneWeekAgo, .oneWeekFromNow, .oneMonthAgo, .oneMonthFromNow,
    .daysAgo, .daysFromNow, .exactDate]

/-! ### Lengths -/

namespace WindowSpan

variable {span : WindowSpan} {anchor before after : Civil} {k : Nat}

/-- No window is empty. -/
theorem HasLength.pos (h : span.HasLength k) : 0 < k := by
  cases span with
  | days n =>
    have hk : k = n + 1 := h
    omega
  | week =>
    have hk : k = 7 := h
    omega
  | month =>
    have hk : 28 ≤ k ∧ k ≤ 31 := h
    omega
  | year =>
    have hk : 365 ≤ k ∧ k ≤ 366 := h
    omega

/-- A day that is later by a number of days within bounds. -/
theorem exists_later_eq {c d : Civil} {least most : Nat}
    (h : (least : Int) ≤ d.dayNumber - c.dayNumber ∧ d.dayNumber - c.dayNumber ≤ most) :
    ∃ k, (least ≤ k ∧ k ≤ most) ∧ c.later k = d := by
  refine ⟨(d.dayNumber - c.dayNumber).toNat, by omega, ?_⟩
  rw [Civil.later_eq_iff]
  omega

/-- The window up to the anchor has a length of its span. -/
theorem exists_length_of_isBefore (h : span.IsBefore anchor before) :
    ∃ k, span.HasLength k ∧ before.later k = anchor := by
  cases span with
  | days n => exact ⟨n + 1, rfl, h⟩
  | week => exact ⟨7, rfl, h⟩
  | month =>
    -- From a month back to the one before it is the length of the earlier one.
    have hbounds := Civil.dayNumber_sub_bounds (-31) (-28) h fun k => by
      have hstep := monthBegin_succ (k + -1)
      have hlength := monthLength_bounds (k + -1)
      rw [show k + -1 + 1 = k by omega] at hstep
      omega
    exact exists_later_eq (show ((28 : Nat) : Int) ≤ _ ∧ _ ≤ ((31 : Nat) : Int) by omega)
  | year =>
    have hbounds := Civil.dayNumber_sub_bounds (-366) (-365) h fun k => by
      have hyear := monthBegin_add_twelve (k + -12)
      rw [show k + -12 + 12 = k by omega] at hyear
      omega
    exact exists_later_eq (show ((365 : Nat) : Int) ≤ _ ∧ _ ≤ ((366 : Nat) : Int) by omega)

/-- The window from the anchor on has a length of its span. -/
theorem exists_length_of_isAfter (h : span.IsAfter anchor after) :
    ∃ k, span.HasLength k ∧ anchor.later k = after := by
  cases span with
  | days n => exact ⟨n + 1, rfl, h⟩
  | week => exact ⟨7, rfl, h⟩
  | month =>
    have hbounds := Civil.dayNumber_sub_bounds 28 31 h fun k => by
      have hstep := monthBegin_succ k
      have hlength := monthLength_bounds k
      omega
    exact exists_later_eq hbounds
  | year => exact exists_later_eq (Civil.dayNumber_sub_bounds _ _ h monthBegin_add_twelve)

end WindowSpan

/-! ### Boundaries -/

variable {weekStart : Weekday} {f : DateFilter} {anchor : Date} {r : DateRange}
  {span : WindowSpan}

/-- A shift by a year is one by twelve months. -/
theorem Civil.IsYearsAfter.isMonthsAfter {c d : Civil} {n : Int} (h : d.IsYearsAfter n c) :
    d.IsMonthsAfter (12 * n) c :=
  Civil.isMonthsAfter_iff.mpr (Civil.isYearsAfter_iff.mp h)

/-- The boundaries of the window up to the anchor. -/
theorem isBefore_of_resolve (hmode : f.mode = span.past) (hgiven : span.IsGivenBy f)
    (hr : f.resolve weekStart anchor = .ok r) :
    span.IsBefore anchor.civil r.start.civil ∧ anchor.civil.later 1 = r.stop.civil := by
  have htable := resolve_eq_ok_iff_hasBoundaries.mp hr
  unfold DateFilter.HasBoundaries at htable
  rw [hmode] at htable
  cases span with
  | days n =>
    obtain ⟨n', hn', hstart, hstop⟩ := htable
    cases hn'.symm.trans hgiven
    exact ⟨hstart, hstop⟩
  | week => exact htable
  | month => exact htable
  | year => exact ⟨htable.1.isMonthsAfter, htable.2⟩

/-- The boundaries of the window from the anchor on. -/
theorem isAfter_of_resolve (hmode : f.mode = span.next) (hgiven : span.IsGivenBy f)
    (hr : f.resolve weekStart anchor = .ok r) :
    r.start.civil.later 1 = anchor.civil ∧ span.IsAfter anchor.civil r.stop.civil := by
  have htable := resolve_eq_ok_iff_hasBoundaries.mp hr
  unfold DateFilter.HasBoundaries at htable
  rw [hmode] at htable
  cases span with
  | days n =>
    obtain ⟨n', hn', hstart, hstop⟩ := htable
    cases hn'.symm.trans hgiven
    exact ⟨hstart, hstop⟩
  | week => exact htable
  | month => exact htable
  | year => exact ⟨htable.1, htable.2.isMonthsAfter⟩

/-- A filter for a single day has this day as both boundaries. -/
theorem stop_eq_start_of_resolve (hmode : f.mode ∈ DateMode.singleDays)
    (hr : f.resolve weekStart anchor = .ok r) : r.stop = r.start := by
  have htable := resolve_eq_ok_iff_hasBoundaries.mp hr
  obtain ⟨mode, days, input⟩ := f
  refine Date.civil_injective ?_
  cases mode with
  | today | tomorrow | yesterday | oneWeekAgo | oneWeekFromNow | oneMonthAgo | oneMonthFromNow =>
    exact htable.2
  | daysAgo | daysFromNow | exactDate =>
    obtain ⟨_, _, _, hstop⟩ := htable
    exact hstop
  | pastWeek | pastMonth | pastYear | pastNumberOfDays | nextWeek | nextMonth | nextYear
  | nextNumberOfDays | calendarWeek | calendarMonth | calendarYear =>
    simp [DateMode.singleDays] at hmode

/-- A filter that resolves is for a single day, for a window, or for a unit of the calendar. -/
theorem exists_shape_of_resolve (hr : f.resolve weekStart anchor = .ok r) :
    f.mode ∈ DateMode.singleDays ∨
      (∃ span : WindowSpan, f.mode = span.past ∧ span.IsGivenBy f) ∨
      (∃ span : WindowSpan, f.mode = span.next ∧ span.IsGivenBy f) ∨
      ∃ unit : CalendarUnit, f.mode = unit.mode := by
  have htable := resolve_eq_ok_iff_hasBoundaries.mp hr
  obtain ⟨mode, days, input⟩ := f
  cases mode with
  | today | tomorrow | yesterday | oneWeekAgo | oneWeekFromNow | oneMonthAgo | oneMonthFromNow
  | daysAgo | daysFromNow | exactDate => exact .inl (by simp [DateMode.singleDays])
  | pastWeek => exact .inr (.inl ⟨.week, rfl, trivial⟩)
  | pastMonth => exact .inr (.inl ⟨.month, rfl, trivial⟩)
  | pastYear => exact .inr (.inl ⟨.year, rfl, trivial⟩)
  | pastNumberOfDays =>
    obtain ⟨n, hn, _⟩ := htable
    exact .inr (.inl ⟨.days n, rfl, hn⟩)
  | nextWeek => exact .inr (.inr (.inl ⟨.week, rfl, trivial⟩))
  | nextMonth => exact .inr (.inr (.inl ⟨.month, rfl, trivial⟩))
  | nextYear => exact .inr (.inr (.inl ⟨.year, rfl, trivial⟩))
  | nextNumberOfDays =>
    obtain ⟨n, hn, _⟩ := htable
    exact .inr (.inr (.inl ⟨.days n, rfl, hn⟩))
  | calendarWeek => exact .inr (.inr (.inr ⟨.week, rfl⟩))
  | calendarMonth => exact .inr (.inr (.inr ⟨.month, rfl⟩))
  | calendarYear => exact .inr (.inr (.inr ⟨.year, rfl⟩))

/-! ### Days -/

/-- The days between the boundaries of the window up to the anchor are the last ones up to it. -/
theorem surrounds_past (hmode : f.mode = span.past) (hgiven : span.IsGivenBy f)
    (hr : f.resolve weekStart anchor = .ok r) :
    ∃ before k, span.IsBefore anchor.civil before ∧ before.later k = anchor.civil ∧
      span.HasLength k ∧ ∀ d, r.Surrounds d ↔ ∃ i < k, d.later i = anchor.civil := by
  obtain ⟨hbefore, hstop⟩ := isBefore_of_resolve hmode hgiven hr
  obtain ⟨k, hk, hstart⟩ := WindowSpan.exists_length_of_isBefore hbefore
  refine ⟨r.start.civil, k, hbefore, hstart, hk, fun d => ?_⟩
  rw [Civil.later_eq_iff] at hstart hstop
  simp only [Date.dayNumber_civil, DateRange.Surrounds, Civil.later_eq_iff] at hstart hstop ⊢
  constructor
  · intro hd
    exact ⟨(anchor.number - d.dayNumber).toNat, by omega, by omega⟩
  · rintro ⟨i, hi, hd⟩
    omega

/-- The days between the boundaries of the window from the anchor on are the first ones from it. -/
theorem surrounds_next (hmode : f.mode = span.next) (hgiven : span.IsGivenBy f)
    (hr : f.resolve weekStart anchor = .ok r) :
    ∃ after k, span.IsAfter anchor.civil after ∧ anchor.civil.later k = after ∧
      span.HasLength k ∧ ∀ d, r.Surrounds d ↔ ∃ i < k, anchor.civil.later i = d := by
  obtain ⟨hstart, hafter⟩ := isAfter_of_resolve hmode hgiven hr
  obtain ⟨k, hk, hstop⟩ := WindowSpan.exists_length_of_isAfter hafter
  refine ⟨r.stop.civil, k, hafter, hstop, hk, fun d => ?_⟩
  rw [Civil.later_eq_iff] at hstart hstop
  simp only [Date.dayNumber_civil, DateRange.Surrounds, Civil.later_eq_iff] at hstart hstop ⊢
  constructor
  · intro hd
    exact ⟨(d.dayNumber - anchor.number).toNat, by omega, by omega⟩
  · rintro ⟨i, hi, hd⟩
    omega

/-- The anchor lies inside of every range that is not for a single day. -/
theorem surrounds_anchor (hmode : f.mode ∉ DateMode.singleDays)
    (hr : f.resolve weekStart anchor = .ok r) : r.Surrounds anchor.civil := by
  rcases exists_shape_of_resolve hr with hday | ⟨span, hpast, hgiven⟩ | ⟨span, hnext, hgiven⟩ |
    ⟨unit, hunit⟩
  · exact absurd hday hmode
  · obtain ⟨_, k, -, -, hk, hinside⟩ := surrounds_past hpast hgiven hr
    exact (hinside _).mpr ⟨0, hk.pos, rfl⟩
  · obtain ⟨_, k, -, -, hk, hinside⟩ := surrounds_next hnext hgiven hr
    exact (hinside _).mpr ⟨0, hk.pos, rfl⟩
  · exact (surrounds_iff_same hunit hr _).mpr (.refl _ _ _)

/-- Six days besides the anchor make a week. -/
theorem resolve_six_eq_resolve_week {week six : DateFilter} (hdays : six.numberOfDays = some 6)
    (hmodes : (week.mode = .pastWeek ∧ six.mode = .pastNumberOfDays) ∨
      (week.mode = .nextWeek ∧ six.mode = .nextNumberOfDays)) :
    six.resolve weekStart anchor = week.resolve weekStart anchor := by
  obtain ⟨mode, days, input⟩ := week
  obtain ⟨mode', days', input'⟩ := six
  cases hdays
  rcases hmodes with ⟨hmode, hmode'⟩ | ⟨hmode, hmode'⟩
  · cases hmode
    cases hmode'
    rfl
  · cases hmode
    cases hmode'
    rfl

/-- Where a filter for a window resolves, the days strictly between its boundaries are those up to
the anchor or those from the anchor on. There are seven of them in a week, one more than the given
number of days, and as many as a shift by a month or by a year goes past, which are from 28 to 31
or 365 to 366. A week is the window of six days. The anchor is always among the days, and only a
filter for a single day has no days between its boundaries, which are then the same. -/
theorem window_selects_days (weekStart : Weekday) (f : DateFilter) (anchor : Date) (r : DateRange)
    (hr : f.resolve weekStart anchor = .ok r) :
    (∀ span : WindowSpan, f.mode = span.past → span.IsGivenBy f →
        ∃ before k, span.IsBefore anchor.civil before ∧ before.later k = anchor.civil ∧
          span.HasLength k ∧ ∀ d, r.Surrounds d ↔ ∃ i < k, d.later i = anchor.civil) ∧
      (∀ span : WindowSpan, f.mode = span.next → span.IsGivenBy f →
        ∃ after k, span.IsAfter anchor.civil after ∧ anchor.civil.later k = after ∧
          span.HasLength k ∧ ∀ d, r.Surrounds d ↔ ∃ i < k, anchor.civil.later i = d) ∧
      (∀ week six : DateFilter, six.numberOfDays = some 6 →
        (week.mode = .pastWeek ∧ six.mode = .pastNumberOfDays) ∨
          (week.mode = .nextWeek ∧ six.mode = .nextNumberOfDays) →
        six.resolve weekStart anchor = week.resolve weekStart anchor) ∧
      (f.mode ∉ DateMode.singleDays → r.Surrounds anchor.civil) ∧
      (f.mode ∈ DateMode.singleDays → r.stop = r.start) :=
  ⟨fun _ hmode hgiven => surrounds_past hmode hgiven hr,
    fun _ hmode hgiven => surrounds_next hmode hgiven hr,
    fun _ _ hdays hmodes => resolve_six_eq_resolve_week hdays hmodes,
    fun hmode => surrounds_anchor hmode hr, fun hmode => stop_eq_start_of_resolve hmode hr⟩

/-- The year up to the leap day of 2024 goes back to the last of February, and has 366 days. -/
theorem year_up_to_leap_day :
    let f : DateFilter := .ofMode .pastYear
    let leapDay : Date := ⟨738945, by decide, by decide⟩
    let r : DateRange := ⟨⟨738579, by decide, by decide⟩, ⟨738946, by decide, by decide⟩⟩
    f.resolve .monday leapDay = .ok r ∧
      (leapDay.civil.year, leapDay.civil.month, leapDay.civil.day) = (2024, 2, 29) ∧
      (r.start.civil.year, r.start.civil.month, r.start.civil.day) = (2023, 2, 28) ∧
      ∀ d, r.Surrounds d ↔ ∃ i < 366, d.later i = leapDay.civil := by
  intro f leapDay r
  have hr : f.resolve .monday leapDay = .ok r := resolve_eq_ok_iff.mpr (by decide)
  refine ⟨hr, by decide, by decide, ?_⟩
  obtain ⟨before, k, hbefore, hk, -, hinside⟩ :=
    (window_selects_days .monday f leapDay r hr).1 .year rfl trivial
  have hstart : before = r.start.civil := by
    rw [Civil.isMonthsAfter_iff.mp hbefore]
    decide
  have hlength : k = 366 := by
    rw [hstart, Civil.later_eq_iff, Date.dayNumber_civil, Date.dayNumber_civil] at hk
    have hnumbers : (738945 : Int) = 738579 + k := hk
    omega
  rw [hlength] at hinside
  exact hinside

end RecordFilter
