import RecordFilter.Proofs.Dates.Windows

/-!
# `RecordFilter.Proofs.Dates.Order`: boundaries keep the order of the days

A later anchor does not bring an earlier boundary, in any mode. A shift by months can bring several
anchors to one day at the end of a month, and a unit of the calendar has the same boundaries for
all its days, so a boundary need not be later either.

* `boundaries?_le`: the boundaries on the calendar without ends. The proof has a case for each way
  in which a boundary follows from the anchor.
* `resolve_le_resolve`: the boundaries that a filter resolves to, and that the first is not after
  the second.
-/

set_option autoImplicit false

namespace RecordFilter

/-! ### Beginnings of units -/

/-- The week of a later day does not begin earlier. -/
theorem weekStartOf_le (weekStart : Weekday) {m n : Int} (h : m ≤ n) :
    weekStartOf weekStart m ≤ weekStartOf weekStart n := by
  have hm := Weekday.index_ofDayNumber m
  have hn := Weekday.index_ofDayNumber n
  have hstart := weekStart.index_le
  unfold weekStartOf
  omega

namespace Civil

variable {c d : Civil}

/-- The month of a later day does not begin earlier. -/
theorem dayNumber_firstOfMonth_le_of_le (h : c.dayNumber ≤ d.dayNumber) :
    c.firstOfMonth.dayNumber ≤ d.firstOfMonth.dayNumber := by
  have hmonth : monthBegin c.monthNumber ≤ monthBegin d.monthNumber :=
    monthBegin_le (monthNumber_le h)
  rw [dayNumber_eq c.firstOfMonth, dayNumber_eq d.firstOfMonth]
  show monthBegin c.monthNumber + (1 : Nat) ≤ monthBegin d.monthNumber + (1 : Nat)
  omega

/-- A later day does not lie in an earlier year. -/
theorem year_le (h : c.dayNumber ≤ d.dayNumber) : c.year ≤ d.year := by
  have hmonth := monthNumber_le h
  have hc := c.monthNumber_div
  have hd := d.monthNumber_div
  omega

/-- A later year does not begin earlier. -/
theorem dayNumber_newYear_le {y z : Int} (h : y ≤ z) :
    (newYear y).dayNumber ≤ (newYear z).dayNumber := by
  have hyear := daysBeforeYear_le h
  show daysBeforeYear y + 0 + 1 ≤ daysBeforeYear z + 0 + 1
  omega

/-- A later year does not end earlier: it ends the day before the next one. -/
theorem dayNumber_newYearsEve_le {y z : Int} (h : y ≤ z) :
    (newYearsEve y).dayNumber ≤ (newYearsEve z).dayNumber := by
  have hnext := dayNumber_newYear_le (show y + 1 ≤ z + 1 by omega)
  rw [← newYearsEve_later_one, ← newYearsEve_later_one, dayNumber_later, dayNumber_later] at hnext
  omega

end Civil

/-! ### Boundaries -/

variable {weekStart : Weekday} {f : DateFilter}

/-- Two pairs of boundaries keep the order of the numbers that they are given by. -/
theorem le_of_some_eq {a b a' b' start stop start' stop' : Int}
    (hm : some (a, b) = some (start, stop)) (hn : some (a', b') = some (start', stop'))
    (h : a ≤ a' ∧ b ≤ b') : start ≤ start' ∧ stop ≤ stop' := by
  cases hm
  cases hn
  exact h

/-- A later anchor has no earlier boundaries. -/
theorem boundaries?_le {m n start stop start' stop' : Int} (hle : m ≤ n)
    (hm : f.boundaries? weekStart m = some (start, stop))
    (hn : f.boundaries? weekStart n = some (start', stop')) : start ≤ start' ∧ stop ≤ stop' := by
  have hdays : ∀ k : Int, m + k ≤ n + k := fun k => Int.add_le_add_right hle k
  have hcivil : (Civil.ofDayNumber m).dayNumber ≤ (Civil.ofDayNumber n).dayNumber := by
    rw [Civil.dayNumber_ofDayNumber, Civil.dayNumber_ofDayNumber]
    exact hle
  have hmonths := Civil.dayNumber_addMonths_le hcivil
  obtain ⟨mode, days, input⟩ := f
  cases mode with
  | today => exact le_of_some_eq hm hn ⟨hle, hle⟩
  | tomorrow => exact le_of_some_eq hm hn ⟨hdays 1, hdays 1⟩
  | yesterday => exact le_of_some_eq hm hn ⟨hdays (-1), hdays (-1)⟩
  | oneWeekAgo => exact le_of_some_eq hm hn ⟨hdays (-7), hdays (-7)⟩
  | oneWeekFromNow => exact le_of_some_eq hm hn ⟨hdays 7, hdays 7⟩
  | oneMonthAgo => exact le_of_some_eq hm hn ⟨hmonths (-1), hmonths (-1)⟩
  | oneMonthFromNow => exact le_of_some_eq hm hn ⟨hmonths 1, hmonths 1⟩
  | daysAgo =>
    cases days with
    | none => cases hm
    | some k => exact le_of_some_eq hm hn ⟨hdays (-k), hdays (-k)⟩
  | daysFromNow =>
    cases days with
    | none => cases hm
    | some k => exact le_of_some_eq hm hn ⟨hdays k, hdays k⟩
  | exactDate =>
    -- The anchor is not looked at, so the boundaries are the same.
    cases hm.symm.trans hn
    exact ⟨Int.le_refl _, Int.le_refl _⟩
  | pastWeek => exact le_of_some_eq hm hn ⟨hdays (-7), hdays 1⟩
  | pastMonth => exact le_of_some_eq hm hn ⟨hmonths (-1), hdays 1⟩
  | pastYear => exact le_of_some_eq hm hn ⟨hmonths (-12), hdays 1⟩
  | pastNumberOfDays =>
    cases days with
    | none => cases hm
    | some k => exact le_of_some_eq hm hn ⟨hdays (-(k + 1)), hdays 1⟩
  | nextWeek => exact le_of_some_eq hm hn ⟨hdays (-1), hdays 7⟩
  | nextMonth => exact le_of_some_eq hm hn ⟨hdays (-1), hmonths 1⟩
  | nextYear => exact le_of_some_eq hm hn ⟨hdays (-1), hmonths 12⟩
  | nextNumberOfDays =>
    cases days with
    | none => cases hm
    | some k => exact le_of_some_eq hm hn ⟨hdays (-1), hdays (k + 1)⟩
  | calendarWeek =>
    have hweek := weekStartOf_le weekStart hle
    exact le_of_some_eq hm hn
      ⟨Int.sub_le_sub_right hweek 1, Int.add_le_add_right hweek 7⟩
  | calendarMonth =>
    have hfirst := Civil.dayNumber_firstOfMonth_le_of_le hcivil
    exact le_of_some_eq hm hn
      ⟨Int.sub_le_sub_right hfirst 1, Civil.dayNumber_addMonths_le hfirst 1⟩
  | calendarYear =>
    have hyear := Civil.year_le hcivil
    exact le_of_some_eq hm hn ⟨Civil.dayNumber_newYearsEve_le (Int.sub_le_sub_right hyear 1),
      Civil.dayNumber_newYear_le (Int.add_le_add_right hyear 1)⟩

/-- The first boundary of a filter is not after the second one. -/
theorem start_le_stop_of_resolve {anchor : Date} {r : DateRange}
    (hr : f.resolve weekStart anchor = .ok r) : r.start ≤ r.stop := by
  by_cases hmode : f.mode ∈ DateMode.singleDays
  · rw [stop_eq_start_of_resolve hmode hr]
    exact Int.le_refl _
  · -- The anchor lies between the boundaries.
    obtain ⟨hstart, hstop⟩ := surrounds_anchor hmode hr
    exact Int.le_of_lt (Int.lt_trans hstart hstop)

/-- Where a filter resolves at two anchors, the boundaries of the later one are not earlier than
those of the other one. At every anchor the first boundary is not after the second one. -/
theorem resolve_le_resolve (weekStart : Weekday) (f : DateFilter) :
    (∀ (anchor later : Date) (r s : DateRange), anchor ≤ later →
        f.resolve weekStart anchor = .ok r → f.resolve weekStart later = .ok s →
          r.start ≤ s.start ∧ r.stop ≤ s.stop) ∧
      ∀ (anchor : Date) (r : DateRange), f.resolve weekStart anchor = .ok r →
        r.start ≤ r.stop := by
  refine ⟨?_, fun _ _ => start_le_stop_of_resolve⟩
  intro anchor later r s hle hr hs
  exact boundaries?_le hle (resolve_eq_ok_iff.mp hr) (resolve_eq_ok_iff.mp hs)

/-- The month before the 30th of March 2023 and the month before the 31st begin on the same day:
February has neither day. -/
theorem months_up_to_end_of_march :
    let f : DateFilter := .ofMode .pastMonth
    let thirtieth : Date := ⟨738609, by decide, by decide⟩
    let last : Date := ⟨738610, by decide, by decide⟩
    let r : DateRange := ⟨⟨738579, by decide, by decide⟩, ⟨738610, by decide, by decide⟩⟩
    let s : DateRange := ⟨⟨738579, by decide, by decide⟩, ⟨738611, by decide, by decide⟩⟩
    thirtieth ≤ last ∧ f.resolve .monday thirtieth = .ok r ∧ f.resolve .monday last = .ok s ∧
      (last.civil.year, last.civil.month, last.civil.day) = (2023, 3, 31) ∧
      (r.start.civil.year, r.start.civil.month, r.start.civil.day) = (2023, 2, 28) ∧
      r.start ≤ s.start ∧ r.stop ≤ s.stop ∧ r.start ≤ r.stop := by
  intro f thirtieth last r s
  have hle : thirtieth ≤ last := by
    show (738609 : Int) ≤ 738610
    decide
  have hr : f.resolve .monday thirtieth = .ok r := resolve_eq_ok_iff.mpr (by decide)
  have hs : f.resolve .monday last = .ok s := resolve_eq_ok_iff.mpr (by decide)
  obtain ⟨htwo, hone⟩ := resolve_le_resolve .monday f
  obtain ⟨hstart, hstop⟩ := htwo thirtieth last r s hle hr hs
  exact ⟨hle, hr, hs, by decide, by decide, hstart, hstop, hone thirtieth r hr⟩

end RecordFilter
