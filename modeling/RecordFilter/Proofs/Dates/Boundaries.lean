import RecordFilter.Dates.Range
import RecordFilter.Proofs.Calendar.CivilDay
import RecordFilter.Proofs.Support.Except

/-!
# `RecordFilter.Proofs.Dates.Boundaries`: boundaries on the calendar without ends

`DateFilter.boundaries?` gives the boundaries of a filter as day numbers on the calendar that has
no first and no last day, so that nothing but a missing parameter can go wrong.
`resolve_eq_ok_iff` says that resolving a filter gives these days, and fails only where a
parameter is missing or one of the two days is not supported: no day in between is ever out of
range when both boundaries are supported.
-/

set_option autoImplicit false

namespace RecordFilter

open RecordFilter.Proofs.Support

/-! ### Shifts -/

namespace Date

/-- A supported day is the day itself. -/
theorem supported_eq_ok_iff {o : Option Date} {d : Date} : supported o = .ok d ↔ o = some d := by
  cases o <;> simp [supported]

/-- The day of a civil date, when it is supported. -/
theorem supported_ofCivil?_eq_ok_iff {c : Civil} {d : Date} :
    supported (ofCivil? c) = .ok d ↔ d.number = c.dayNumber := by
  rw [supported_eq_ok_iff, ofCivil?, ofNumber?_eq_some_iff]

/-- The day `n` days later is the one with that number, when it is supported. -/
theorem shiftDays_eq_ok_iff {d e : Date} {n : Int} :
    d.shiftDays n = .ok e ↔ e.number = d.number + n := by
  rw [shiftDays, supported_eq_ok_iff, addDays?, ofNumber?_eq_some_iff]

/-- The day `n` months later is that of the civil date, when it is supported. -/
theorem shiftMonths_eq_ok_iff {d e : Date} {n : Int} :
    d.shiftMonths n = .ok e ↔ e.number = (d.civil.addMonths n).dayNumber := by
  rw [shiftMonths, addMonths?, supported_ofCivil?_eq_ok_iff]

end Date

/-! ### Boundaries as numbers -/

/-- The number of the last day, up to that day, on which a week starts. -/
def weekStartOf (weekStart : Weekday) (n : Int) : Int :=
  n - ((Weekday.ofDayNumber n).index - weekStart.index : Int) % 7

/-- The numbers of the two boundaries, if the parameter that the mode reads is given. -/
def DateFilter.boundaries? (weekStart : Weekday) (f : DateFilter) (anchor : Int) :
    Option (Int × Int) :=
  let civil := Civil.ofDayNumber anchor
  let months := fun n : Int => (civil.addMonths n).dayNumber
  match f.mode with
  | .today => some (anchor, anchor)
  | .tomorrow => some (anchor + 1, anchor + 1)
  | .yesterday => some (anchor - 1, anchor - 1)
  | .oneWeekAgo => some (anchor - 7, anchor - 7)
  | .oneWeekFromNow => some (anchor + 7, anchor + 7)
  | .oneMonthAgo => some (months (-1), months (-1))
  | .oneMonthFromNow => some (months 1, months 1)
  | .daysAgo => f.numberOfDays.map fun n => (anchor - n, anchor - n)
  | .daysFromNow => f.numberOfDays.map fun n => (anchor + n, anchor + n)
  | .exactDate => f.input.map fun d => (d.number, d.number)
  | .pastWeek => some (anchor - 7, anchor + 1)
  | .pastMonth => some (months (-1), anchor + 1)
  | .pastYear => some (months (-12), anchor + 1)
  | .pastNumberOfDays => f.numberOfDays.map fun n => (anchor - (n + 1), anchor + 1)
  | .nextWeek => some (anchor - 1, anchor + 7)
  | .nextMonth => some (anchor - 1, months 1)
  | .nextYear => some (anchor - 1, months 12)
  | .nextNumberOfDays => f.numberOfDays.map fun n => (anchor - 1, anchor + (n + 1))
  | .calendarWeek => some (weekStartOf weekStart anchor - 1, weekStartOf weekStart anchor + 7)
  | .calendarMonth =>
    some (civil.firstOfMonth.dayNumber - 1, (civil.firstOfMonth.addMonths 1).dayNumber)
  | .calendarYear =>
    some ((Civil.newYearsEve (civil.year - 1)).dayNumber,
      (Civil.newYear (civil.year + 1)).dayNumber)

/-! ### Resolving -/

/-- The expression gives the day of that number, and fails if this day is not supported. -/
def GivesDay (x : Except FilterFault Date) (n : Int) : Prop :=
  ∀ d, x = .ok d ↔ d.number = n

variable {x y : Except FilterFault Date} {m n : Int} {r : DateRange}

/-- A single day as a range. -/
theorem day_eq_ok_iff (hx : GivesDay x n) :
    (do return .day (← x)) = Except.ok r ↔ some (n, n) = some (r.start.number, r.stop.number) := by
  show (x >>= fun d => .ok (.day d)) = .ok r ↔ _
  rw [bind_eq_ok_iff, Option.some.injEq, Prod.mk.injEq]
  constructor
  · rintro ⟨d, hd, h⟩
    cases h
    have hn := (hx d).mp hd
    exact ⟨hn.symm, hn.symm⟩
  · rintro ⟨hstart, hstop⟩
    refine ⟨r.start, (hx _).mpr hstart.symm, ?_⟩
    have hsame : r.stop = r.start := Date.number_injective (hstop.symm.trans hstart)
    obtain ⟨start, stop⟩ := r
    cases hsame
    rfl

/-- Two days as a range. -/
theorem window_eq_ok_iff (hx : GivesDay x m) (hy : GivesDay y n) :
    (do return ⟨← x, ← y⟩) = Except.ok r ↔
      some (m, n) = some (r.start.number, r.stop.number) := by
  show (x >>= fun d => y >>= fun e => .ok ⟨d, e⟩) = .ok r ↔ _
  rw [bind_eq_ok_iff, Option.some.injEq, Prod.mk.injEq]
  constructor
  · rintro ⟨d, hd, h⟩
    obtain ⟨e, he, h⟩ := bind_eq_ok_iff.mp h
    cases h
    exact ⟨((hx d).mp hd).symm, ((hy e).mp he).symm⟩
  · rintro ⟨hstart, hstop⟩
    exact ⟨r.start, (hx _).mpr hstart.symm, bind_eq_ok_iff.mpr
      ⟨r.stop, (hy _).mpr hstop.symm, rfl⟩⟩

/-- A date is given as it is, and its number is supported. -/
theorem givesDay_ok (d : Date) : GivesDay (.ok d) d.number := by
  intro e
  rw [Except.ok.injEq]
  exact ⟨fun h => congrArg Date.number h.symm, fun h => Date.number_injective h.symm⟩

/-- Shifting by days gives the number that is as much greater. -/
theorem givesDay_shiftDays (d : Date) (k : Int) : GivesDay (d.shiftDays k) (d.number + k) :=
  fun _ => Date.shiftDays_eq_ok_iff

/-- Shifting by months gives the day that is as many months away in the calendar. -/
theorem givesDay_shiftMonths (d : Date) (k : Int) :
    GivesDay (d.shiftMonths k) ((Civil.ofDayNumber d.number).addMonths k).dayNumber :=
  fun _ => Date.shiftMonths_eq_ok_iff

/-- A date of the calendar is given by its number. -/
theorem givesDay_ofCivil (c : Civil) : GivesDay (Date.supported (Date.ofCivil? c)) c.dayNumber :=
  fun _ => Date.supported_ofCivil?_eq_ok_iff

/-- The civil date of the day of a civil date is the date again. -/
theorem givesDay_shiftMonths_of_civil {d : Date} {c : Civil} (hd : d.number = c.dayNumber)
    (k : Int) : GivesDay (d.shiftMonths k) (c.addMonths k).dayNumber := by
  have hcivil : Civil.ofDayNumber d.number = c := by
    rw [hd, Civil.ofDayNumber_dayNumber]
  have h := givesDay_shiftMonths d k
  rw [hcivil] at h
  exact h

/-- The days since the week started are the difference of the weekdays. -/
theorem number_sub_daysIntoWeek (d : Date) (weekStart : Weekday) :
    d.number + -(d.daysIntoWeek weekStart : Int) = weekStartOf weekStart d.number := by
  have hweekday := Weekday.index_ofDayNumber d.number
  have hindex : weekStart.index ≤ 6 := weekStart.index_le
  unfold weekStartOf Date.daysIntoWeek Date.weekday
  omega

/-- The first day of a month is not after the days of the month. -/
theorem dayNumber_firstOfMonth_le (c : Civil) : c.firstOfMonth.dayNumber ≤ c.dayNumber := by
  have hday := c.one_le_day
  show daysBeforeYear c.year + daysBeforeMonth c.year c.month + (1 : Nat) ≤
    daysBeforeYear c.year + daysBeforeMonth c.year c.month + (c.day : Int)
  omega

/-- The window around a unit that begins on a given day. The day itself is supported when the one
before the unit and the one after it are. -/
theorem unit_eq_ok_iff {first : Int} {before after : Date → Except FilterFault Date}
    (hx : GivesDay x first) (hbefore : ∀ d, d.number = first → GivesDay (before d) (first - 1))
    (hafter : ∀ d, d.number = first → GivesDay (after d) n)
    (hfirst : Date.IsSupported (first - 1) → Date.IsSupported n → first ≤ Date.latest) :
    (do let d ← x; return ⟨← before d, ← after d⟩) = Except.ok r ↔
      some (first - 1, n) = some (r.start.number, r.stop.number) := by
  rw [bind_eq_ok_iff]
  constructor
  · rintro ⟨d, hd, h⟩
    have hnumber := (hx d).mp hd
    exact (window_eq_ok_iff (hbefore d hnumber) (hafter d hnumber)).mp h
  · intro h
    have hstart : first - 1 = r.start.number := congrArg Prod.fst (Option.some.inj h)
    have hstop : n = r.stop.number := congrArg Prod.snd (Option.some.inj h)
    have hearliest : Date.earliest ≤ first - 1 := hstart ▸ r.start.earliest_le
    have hlatest : first ≤ Date.latest :=
      hfirst (hstart ▸ r.start.isSupported_number) (hstop ▸ r.stop.isSupported_number)
    obtain ⟨d, hd⟩ := Date.exists_number_eq_iff.mpr
      (show Date.IsSupported first from ⟨by omega, hlatest⟩)
    exact ⟨d, (hx d).mpr hd, (window_eq_ok_iff (hbefore d hd) (hafter d hd)).mpr h⟩

/-- Resolving a filter gives the boundaries on the calendar without ends, when both are
supported. -/
theorem resolve_eq_ok_iff {weekStart : Weekday} {f : DateFilter} {anchor : Date} :
    f.resolve weekStart anchor = .ok r ↔
      f.boundaries? weekStart anchor.number = some (r.start.number, r.stop.number) := by
  have hday := givesDay_shiftDays anchor
  have hmonth := givesDay_shiftMonths anchor
  obtain ⟨mode, days, input⟩ := f
  cases mode with
  | today => exact day_eq_ok_iff (givesDay_ok anchor)
  | tomorrow => exact day_eq_ok_iff (hday 1)
  | yesterday => exact day_eq_ok_iff (hday (-1))
  | oneWeekAgo => exact day_eq_ok_iff (hday (-7))
  | oneWeekFromNow => exact day_eq_ok_iff (hday 7)
  | oneMonthAgo => exact day_eq_ok_iff (hmonth (-1))
  | oneMonthFromNow => exact day_eq_ok_iff (hmonth 1)
  | daysAgo =>
    cases days with
    | none => exact iff_of_false (fun h => nomatch h) (fun h => nomatch h)
    | some n => exact day_eq_ok_iff (hday (-n))
  | daysFromNow =>
    cases days with
    | none => exact iff_of_false (fun h => nomatch h) (fun h => nomatch h)
    | some n => exact day_eq_ok_iff (hday n)
  | exactDate =>
    cases input with
    | none => exact iff_of_false (fun h => nomatch h) (fun h => nomatch h)
    | some d => exact day_eq_ok_iff (givesDay_ok d)
  | pastWeek => exact window_eq_ok_iff (hday (-7)) (hday 1)
  | pastMonth => exact window_eq_ok_iff (hmonth (-1)) (hday 1)
  | pastYear => exact window_eq_ok_iff (hmonth (-12)) (hday 1)
  | pastNumberOfDays =>
    cases days with
    | none => exact iff_of_false (fun h => nomatch h) (fun h => nomatch h)
    | some n => exact window_eq_ok_iff (hday (-(n + 1))) (hday 1)
  | nextWeek => exact window_eq_ok_iff (hday (-1)) (hday 7)
  | nextMonth => exact window_eq_ok_iff (hday (-1)) (hmonth 1)
  | nextYear => exact window_eq_ok_iff (hday (-1)) (hmonth 12)
  | nextNumberOfDays =>
    cases days with
    | none =>
      -- The first boundary is computed before the missing parameter is noticed.
      refine iff_of_false (fun h => ?_) (fun h => nomatch h)
      obtain ⟨_, _, h⟩ := bind_eq_ok_iff.mp h
      cases h
    | some n => exact window_eq_ok_iff (hday (-1)) (hday (n + 1))
  | calendarWeek =>
    have hfirst : GivesDay (anchor.shiftDays (-(anchor.daysIntoWeek weekStart)))
        (weekStartOf weekStart anchor.number) := by
      rw [← number_sub_daysIntoWeek]
      exact hday _
    refine unit_eq_ok_iff hfirst ?_ ?_ ?_
    · intro d hd
      rw [← hd]
      exact givesDay_shiftDays d (-1)
    · intro d hd
      rw [← hd]
      exact givesDay_shiftDays d 7
    · -- The week does not begin after the day that follows it.
      intro _ hafter
      have hlatest := hafter.2
      omega
  | calendarMonth =>
    refine unit_eq_ok_iff (givesDay_ofCivil anchor.civil.firstOfMonth) ?_ ?_ ?_
    · intro d hd
      rw [← hd]
      exact givesDay_shiftDays d (-1)
    · intro d hd
      exact givesDay_shiftMonths_of_civil hd 1
    · -- The month does not begin after the anchor.
      intro _ _
      have hmonthStart := dayNumber_firstOfMonth_le anchor.civil
      have hanchor := anchor.le_latest
      rw [Date.dayNumber_civil] at hmonthStart
      exact Int.le_trans hmonthStart hanchor
  | calendarYear =>
    exact window_eq_ok_iff (givesDay_ofCivil (Civil.newYearsEve _)) (givesDay_ofCivil _)

end RecordFilter
