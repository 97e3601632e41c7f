import RecordFilter.Proofs.Calendar.Succession
import RecordFilter.Proofs.Dates.Boundaries
import RecordFilter.Proofs.Dates.Words

/-!
# `RecordFilter.Proofs.Dates.Table`: the boundaries of every mode

`DateFilter.HasBoundaries` is the table of the modes: it says by years, months and days of the
month which two dates are the boundaries of a filter at an anchor. The calendar of the table has
no first and no last date. A calendar unit is its first and its last day, and the boundaries are
the day before the one and the day after the other.

* `hasBoundaries_iff`: in day numbers the table is `DateFilter.boundaries?`.
* `existsUnique_hasBoundaries`: a filter with the parameters of its mode has two boundaries at
  every anchor.
* `resolve_iff_hasBoundaries`: a filter resolves to what the table says, and it does so whenever
  the table gives two supported dates.
-/

set_option autoImplicit false

namespace RecordFilter

open RecordFilter.Proofs.Support

/-! ### Calendar units -/

namespace Civil

/-- The last day of a date's month. -/
def lastOfMonth (c : Civil) : Civil :=
  ⟨c.year, c.month, daysInMonth c.year c.month, c.one_le_month, c.month_le,
    one_le_daysInMonth c.year c.month_le, Nat.le_refl _⟩

/-- The first and the last day of the week that holds a date, if weeks start on `weekStart`. -/
def IsWeekOf (weekStart : Weekday) (c first last : Civil) : Prop :=
  first.weekday = weekStart ∧ first.later 6 = last ∧ ∃ n ≤ 6, first.later n = c

/-- The first and the last day of the month that holds a date. -/
def IsMonthOf (c first last : Civil) : Prop :=
  first = c.firstOfMonth ∧ last = c.lastOfMonth

/-- The first and the last day of the year that holds a date. -/
def IsYearOf (c first last : Civil) : Prop :=
  first = newYear c.year ∧ last = newYearsEve c.year

end Civil

/-- The boundaries are the day before the first day of a unit and the day after its last one. -/
def Encloses (unit : Civil → Civil → Prop) (start stop : Civil) : Prop :=
  ∃ first last, unit first last ∧ start.later 1 = first ∧ last.later 1 = stop

/-! ### The table -/

/-- The boundaries of a filter at an anchor, where weeks start on `weekStart`. -/
def DateFilter.HasBoundaries (weekStart : Weekday) (f : DateFilter)
    (anchor start stop : Civil) : Prop :=
  match f.mode with
  | .today => start = anchor ∧ stop = start
  | .tomorrow => anchor.later 1 = start ∧ stop = start
  | .yesterday => start.later 1 = anchor ∧ stop = start
  | .oneWeekAgo => start.later 7 = anchor ∧ stop = start
  | .oneWeekFromNow => anchor.later 7 = start ∧ stop = start
  | .oneMonthAgo => start.IsMonthsAfter (-1) anchor ∧ stop = start
  | .oneMonthFromNow => start.IsMonthsAfter 1 anchor ∧ stop = start
  | .daysAgo => ∃ n, f.numberOfDays = some n ∧ start.later n = anchor ∧ stop = start
  | .daysFromNow => ∃ n, f.numberOfDays = some n ∧ anchor.later n = start ∧ stop = start
  | .exactDate => ∃ d, f.input = some d ∧ start = d.civil ∧ stop = start
  | .pastWeek => start.later 7 = anchor ∧ anchor.later 1 = stop
  | .pastMonth => start.IsMonthsAfter (-1) anchor ∧ anchor.later 1 = stop
  | .pastYear => start.IsYearsAfter (-1) anchor ∧ anchor.later 1 = stop
  | .pastNumberOfDays =>
    ∃ n, f.numberOfDays = some n ∧ start.later (n + 1) = anchor ∧ anchor.later 1 = stop
  | .nextWeek => start.later 1 = anchor ∧ anchor.later 7 = stop
  | .nextMonth => start.later 1 = anchor ∧ stop.IsMonthsAfter 1 anchor
  | .nextYear => start.later 1 = anchor ∧ stop.IsYearsAfter 1 anchor
  | .nextNumberOfDays =>
    ∃ n, f.numberOfDays = some n ∧ start.later 1 = anchor ∧ anchor.later (n + 1) = stop
  | .calendarWeek => Encloses (Civil.IsWeekOf weekStart anchor) start stop
  | .calendarMonth => Encloses anchor.IsMonthOf start stop
  | .calendarYear => Encloses anchor.IsYearOf start stop

/-- The parameters that the mode of a filter reads are given. -/
def DateFilter.HasParameters (f : DateFilter) : Prop :=
  (f.mode.usesNumberOfDays = true → ∃ n, f.numberOfDays = some n) ∧
    (f.mode = .exactDate → ∃ d, f.input = some d)

/-- Two filters have the same mode and the same parameters, as far as the mode reads them. -/
def DateFilter.ReadsAlike (f g : DateFilter) : Prop :=
  f.mode = g.mode ∧ (f.mode.usesNumberOfDays = true → f.numberOfDays = g.numberOfDays) ∧
    (f.mode = .exactDate → f.input = g.input)

/-! ### The table in day numbers -/

section

variable {weekStart : Weekday} {anchor start stop first last : Civil}

/-- The first day of a week is the last day up to the anchor on which weeks start. -/
theorem isWeekOf_iff : Civil.IsWeekOf weekStart anchor first last ↔
    first.dayNumber = weekStartOf weekStart anchor.dayNumber ∧
      last.dayNumber = first.dayNumber + 6 := by
  have hfirst := Weekday.index_ofDayNumber first.dayNumber
  have hanchor := Weekday.index_ofDayNumber anchor.dayNumber
  have hstart := weekStart.index_le
  simp only [Civil.IsWeekOf, Civil.weekday, ← Weekday.index_inj, Civil.later_eq_iff, weekStartOf]
  constructor
  · intro ⟨hweekday, hlast, n, hn, heq⟩
    omega
  · intro ⟨hnumber, hlast⟩
    refine ⟨by omega, by omega, (anchor.dayNumber - first.dayNumber).toNat, by omega, by omega⟩

/-- The day after a month is the first one of the next month. -/
theorem lastOfMonth_later_one (c : Civil) :
    c.lastOfMonth.later 1 = c.firstOfMonth.addMonths 1 := by
  show c.lastOfMonth.next = _
  rw [← Civil.isMonthsAfter_iff]
  have hlast : ¬ c.lastOfMonth.day < daysInMonth c.lastOfMonth.year c.lastOfMonth.month :=
    Nat.lt_irrefl _
  rw [Civil.next, dif_neg hlast]
  split
  · have hlength := one_le_daysInMonth c.year (show c.month + 1 ≤ 12 by assumption)
    refine ⟨?_, ?_⟩
    · show 12 * c.year + ((c.month + 1 : Nat) : Int) = 12 * c.year + (c.month : Int) + 1
      omega
    · show 1 = min 1 (daysInMonth c.year (c.month + 1))
      omega
  · have hmonth : ¬ c.month < 12 := by assumption
    have hle := c.month_le
    refine ⟨?_, rfl⟩
    show 12 * (c.year + 1) + ((1 : Nat) : Int) = 12 * c.year + (c.month : Int) + 1
    omega

/-- The day after a year is the first one of the next year. -/
theorem newYearsEve_later_one (y : Int) :
    (Civil.newYearsEve y).later 1 = Civil.newYear (y + 1) :=
  rfl

/-- The boundaries around a unit in day numbers. -/
theorem encloses_iff {unit : Civil → Civil → Prop} :
    Encloses unit start stop ↔ ∃ first last, unit first last ∧
      first.dayNumber - 1 = start.dayNumber ∧ last.dayNumber + 1 = stop.dayNumber := by
  unfold Encloses
  simp only [Civil.later_eq_iff]
  refine exists_congr fun first => exists_congr fun last => and_congr_right fun _ => ?_
  omega

end

/-- In day numbers the table is `DateFilter.boundaries?`. -/
theorem hasBoundaries_iff {weekStart : Weekday} {f : DateFilter} {anchor start stop : Civil} :
    f.HasBoundaries weekStart anchor start stop ↔
      f.boundaries? weekStart anchor.dayNumber = some (start.dayNumber, stop.dayNumber) := by
  obtain ⟨mode, days, input⟩ := f
  -- The units come first, since their first and last days have to be found. The modes with a
  -- parameter say nothing without it, and the others are equations between day numbers.
  cases mode with
  | calendarWeek =>
    simp only [DateFilter.HasBoundaries, DateFilter.boundaries?, encloses_iff, isWeekOf_iff,
      Option.some.injEq, Prod.mk.injEq]
    constructor
    · intro ⟨first, last, ⟨hfirst, hlast⟩, hstart, hstop⟩
      omega
    · intro ⟨hstart, hstop⟩
      obtain ⟨first, hfirst⟩ := Civil.exists_dayNumber (weekStartOf weekStart anchor.dayNumber)
      obtain ⟨last, hlast⟩ := Civil.exists_dayNumber (first.dayNumber + 6)
      exact ⟨first, last, ⟨hfirst, hlast⟩, by omega, by omega⟩
  | calendarMonth =>
    have hlast := congrArg Civil.dayNumber (lastOfMonth_later_one anchor)
    rw [Civil.dayNumber_later] at hlast
    simp only [DateFilter.HasBoundaries, DateFilter.boundaries?, encloses_iff, Civil.IsMonthOf,
      Civil.ofDayNumber_dayNumber, Option.some.injEq, Prod.mk.injEq, and_assoc, exists_and_left,
      exists_eq_left]
    omega
  | calendarYear =>
    have hfirst := congrArg Civil.dayNumber (newYearsEve_later_one (anchor.year - 1))
    have hlast := congrArg Civil.dayNumber (newYearsEve_later_one anchor.year)
    rw [Civil.dayNumber_later, Int.sub_add_cancel] at hfirst
    rw [Civil.dayNumber_later] at hlast
    simp only [DateFilter.HasBoundaries, DateFilter.boundaries?, encloses_iff, Civil.IsYearOf,
      Civil.ofDayNumber_dayNumber, Option.some.injEq, Prod.mk.injEq, and_assoc, exists_and_left,
      exists_eq_left]
    omega
  | exactDate =>
    cases input with
    | none => simp [DateFilter.HasBoundaries, DateFilter.boundaries?]
    | some d =>
      simp only [DateFilter.HasBoundaries, DateFilter.boundaries?, ← Civil.dayNumber_inj,
        Date.dayNumber_civil, Option.some.injEq, exists_eq_left', Option.map_some, Prod.mk.injEq]
      omega
  | daysAgo | daysFromNow | pastNumberOfDays | nextNumberOfDays =>
    cases days with
    | none => simp [DateFilter.HasBoundaries, DateFilter.boundaries?]
    | some n =>
      simp only [DateFilter.HasBoundaries, DateFilter.boundaries?, ← Civil.dayNumber_inj,
        Civil.dayNumber_later, Option.some.injEq, exists_eq_left', Option.pure_def,
        Option.bind_eq_bind, Option.bind_some, Option.map_some, Prod.mk.injEq]
      omega
  | _ =>
    simp only [DateFilter.HasBoundaries, DateFilter.boundaries?, ← Civil.dayNumber_inj,
      Civil.dayNumber_later, Civil.isMonthsAfter_iff, Civil.isYearsAfter_iff, Int.mul_neg,
      Int.mul_one, Civil.ofDayNumber_dayNumber, Option.some.injEq, Prod.mk.injEq]
    omega

/-! ### Parameters -/

section

variable {weekStart : Weekday} {f g : DateFilter} {anchor : Date}

/-- Boundaries are there exactly when the parameters of the mode are. -/
theorem exists_boundaries?_iff {n : Int} :
    (∃ b, f.boundaries? weekStart n = some b) ↔ f.HasParameters := by
  obtain ⟨mode, days, input⟩ := f
  cases mode with
  | exactDate =>
    cases input <;> simp [DateFilter.boundaries?, DateFilter.HasParameters,
      DateMode.usesNumberOfDays]
  | daysAgo | daysFromNow | pastNumberOfDays | nextNumberOfDays =>
    cases days <;> simp [DateFilter.boundaries?, DateFilter.HasParameters,
      DateMode.usesNumberOfDays]
  | _ => simp [DateFilter.boundaries?, DateFilter.HasParameters, DateMode.usesNumberOfDays]

/-- A filter has no two pairs of boundaries. -/
theorem hasBoundaries_unique {anchor start stop start' stop' : Civil}
    (h : f.HasBoundaries weekStart anchor start stop)
    (h' : f.HasBoundaries weekStart anchor start' stop') : start' = start ∧ stop' = stop := by
  rw [hasBoundaries_iff] at h h'
  have hsame := Option.some.inj (h'.symm.trans h)
  exact ⟨Civil.dayNumber_inj.mp (congrArg Prod.fst hsame),
    Civil.dayNumber_inj.mp (congrArg Prod.snd hsame)⟩

/-- Boundaries are there at an anchor exactly when the parameters of the mode are. -/
theorem exists_hasBoundaries_iff {anchor : Civil} :
    (∃ start stop, f.HasBoundaries weekStart anchor start stop) ↔ f.HasParameters := by
  rw [← @exists_boundaries?_iff weekStart f anchor.dayNumber]
  simp only [hasBoundaries_iff]
  constructor
  · intro ⟨start, stop, h⟩
    exact ⟨_, h⟩
  · intro ⟨⟨m, n⟩, h⟩
    obtain ⟨start, hstart⟩ := Civil.exists_dayNumber m
    obtain ⟨stop, hstop⟩ := Civil.exists_dayNumber n
    exact ⟨start, stop, by rw [h, hstart, hstop]⟩

/-- The anchor and the parameters that the mode does not read make no difference. -/
theorem resolve_eq_of_readsAlike (hreads : f.ReadsAlike g) {other : Date}
    (hanchor : f.mode ≠ .exactDate → anchor = other) :
    f.resolve weekStart anchor = g.resolve weekStart other := by
  obtain ⟨mode, days, input⟩ := f
  obtain ⟨mode', days', input'⟩ := g
  obtain ⟨hmode, hdays, hinput⟩ := hreads
  cases hmode
  cases mode with
  | exactDate =>
    cases hinput rfl
    rfl
  | daysAgo | daysFromNow | pastNumberOfDays | nextNumberOfDays =>
    cases hdays rfl
    cases hanchor nofun
    rfl
  | _ =>
    cases hanchor nofun
    rfl

end

/-! ### Faults -/

/-- The computation fails only for what is wrong with a date. -/
def OnlyDateFaults {α : Type} (x : Except FilterFault α) : Prop :=
  ∀ fault, x = .error fault → ∃ cause, fault = .invalidDate cause

namespace OnlyDateFaults

/-- Without a fault there is nothing to show. -/
theorem ok {α : Type} (a : α) : OnlyDateFaults (.ok a) :=
  fun _ h => nomatch h

/-- A day that is not supported is a fault of a date. -/
theorem supported (o : Option Date) : OnlyDateFaults (Date.supported o) := by
  intro fault h
  cases o with
  | none => exact ⟨_, (Except.error.inj h).symm⟩
  | some d => cases h

/-- So is a number of days that is missing. -/
theorem days (f : DateFilter) : OnlyDateFaults f.days := by
  intro fault h
  unfold DateFilter.days at h
  split at h
  · cases h
  · exact ⟨_, (Except.error.inj h).symm⟩

/-- So is a date that is missing. -/
theorem date (f : DateFilter) : OnlyDateFaults f.date := by
  intro fault h
  unfold DateFilter.date at h
  split at h
  · cases h
  · exact ⟨_, (Except.error.inj h).symm⟩

/-- Of two computations in order, both have to fail for what is wrong with a date only. -/
theorem bind {α β : Type} {x : Except FilterFault α} {g : α → Except FilterFault β}
    (hx : OnlyDateFaults x) (hg : ∀ a, OnlyDateFaults (g a)) : OnlyDateFaults (x >>= g) := by
  intro fault h
  cases bind_eq_error_iff.mp h with
  | inl hfirst => exact hx fault hfirst
  | inr hrest =>
    obtain ⟨a, -, ha⟩ := hrest
    exact hg a fault ha

variable {x y : Except FilterFault Date}

/-- A range of one day fails as its day does. -/
theorem day (hx : OnlyDateFaults x) : OnlyDateFaults (do return DateRange.day (← x)) :=
  hx.bind fun d => ok (DateRange.day d)

/-- A window fails as one of its boundaries does. -/
theorem window (hx : OnlyDateFaults x) (hy : OnlyDateFaults y) :
    OnlyDateFaults (do return DateRange.mk (← x) (← y)) :=
  hx.bind fun d => hy.bind fun e => ok (DateRange.mk d e)

end OnlyDateFaults

open OnlyDateFaults in
/-- Resolving a filter fails only for what is wrong with a date. -/
theorem onlyDateFaults_resolve (weekStart : Weekday) (f : DateFilter) (anchor : Date) :
    OnlyDateFaults (f.resolve weekStart anchor) := by
  obtain ⟨mode, days, input⟩ := f
  cases mode with
  | today => exact ok _
  | tomorrow | yesterday | oneWeekAgo | oneWeekFromNow | oneMonthAgo | oneMonthFromNow =>
    exact day (supported _)
  | exactDate => exact day (date _)
  | daysAgo | daysFromNow => exact (OnlyDateFaults.days _).bind fun _ => day (supported _)
  | pastWeek | pastMonth | pastYear | nextWeek | nextMonth | nextYear | calendarYear =>
    exact window (supported _) (supported _)
  | pastNumberOfDays =>
    exact (OnlyDateFaults.days _).bind fun _ => window (supported _) (supported _)
  | nextNumberOfDays =>
    exact (supported _).bind fun _ => (OnlyDateFaults.days _).bind fun _ =>
      (supported _).bind fun _ => ok _
  | calendarWeek | calendarMonth =>
    exact (supported _).bind fun _ => window (supported _) (supported _)

/-! ### Resolving -/

/-- A date is that of a supported day exactly when its year is supported. -/
theorem exists_civil_eq_iff {c : Civil} : (∃ d : Date, d.civil = c) ↔ c.IsInRange := by
  rw [Civil.isInRange_iff, ← Date.exists_number_eq_iff]
  refine exists_congr fun d => ?_
  rw [← Civil.dayNumber_inj, Date.dayNumber_civil]

/-- A filter resolves to two dates exactly when the table says that they are its boundaries. -/
theorem resolve_eq_ok_iff_hasBoundaries {weekStart : Weekday} {f : DateFilter} {anchor : Date}
    {r : DateRange} : f.resolve weekStart anchor = .ok r ↔
      f.HasBoundaries weekStart anchor.civil r.start.civil r.stop.civil := by
  rw [resolve_eq_ok_iff, hasBoundaries_iff, Date.dayNumber_civil, Date.dayNumber_civil,
    Date.dayNumber_civil]

/-- A filter resolves exactly when its mode has its parameters and both boundaries that the table
gives are supported, and then to these boundaries, of which there is one pair. A filter that does
not resolve has a date fault. What the mode does not read makes no difference, and no operation
on the way overflows its word. -/
theorem resolve_iff_hasBoundaries (weekStart : Weekday) (f : DateFilter) (anchor : Date)
    (hdays : ∀ n ∈ f.numberOfDays, n < numberOfDaysLimit) :
    ((∃ r, f.resolve weekStart anchor = .ok r) ↔ f.HasParameters ∧
        ∃ start stop, f.HasBoundaries weekStart anchor.civil start stop ∧
          start.IsInRange ∧ stop.IsInRange) ∧
      (∀ r, f.resolve weekStart anchor = .ok r ↔
        f.HasBoundaries weekStart anchor.civil r.start.civil r.stop.civil) ∧
      (f.HasParameters → ∃! b : Civil × Civil,
        f.HasBoundaries weekStart anchor.civil b.1 b.2) ∧
      (∀ fault, f.resolve weekStart anchor = .error fault →
        ∃ cause, fault = .invalidDate cause) ∧
      (∀ (g : DateFilter) (other : Date), f.ReadsAlike g →
        (f.mode ≠ .exactDate → anchor = other) →
          f.resolve weekStart anchor = g.resolve weekStart other) ∧
      f.resolveInWords weekStart anchor = some (f.resolve weekStart anchor) := by
  have hparameters := @exists_hasBoundaries_iff weekStart f anchor.civil
  refine ⟨⟨?_, ?_⟩, ?_, ?_, ?_, ?_, ?_⟩
  · -- What a filter resolves to are supported dates, and they are the boundaries of the table.
    intro ⟨r, hr⟩
    have hboundaries := resolve_eq_ok_iff_hasBoundaries.mp hr
    exact ⟨hparameters.mp ⟨_, _, hboundaries⟩, _, _, hboundaries,
      exists_civil_eq_iff.mp ⟨r.start, rfl⟩, exists_civil_eq_iff.mp ⟨r.stop, rfl⟩⟩
  · intro ⟨_, start, stop, hboundaries, hstart, hstop⟩
    obtain ⟨d, rfl⟩ := exists_civil_eq_iff.mpr hstart
    obtain ⟨e, rfl⟩ := exists_civil_eq_iff.mpr hstop
    exact ⟨⟨d, e⟩, resolve_eq_ok_iff_hasBoundaries.mpr hboundaries⟩
  · exact fun r => resolve_eq_ok_iff_hasBoundaries
  · intro h
    obtain ⟨start, stop, hboundaries⟩ := hparameters.mpr h
    refine ⟨(start, stop), hboundaries, ?_⟩
    intro b hb
    obtain ⟨hstart, hstop⟩ := hasBoundaries_unique hboundaries hb
    exact Prod.ext hstart hstop
  · exact onlyDateFaults_resolve weekStart f anchor
  · exact fun g other hreads hanchor => resolve_eq_of_readsAlike hreads hanchor
  · exact resolveInWords_eq hdays

/-- One month before the last supported day is the 30th of November. The greatest number of days
that a filter can have is given as well, and is not read. -/
theorem month_before_last_day :
    let f : DateFilter := ⟨.oneMonthAgo, some 4294967295, none⟩
    let lastDay : Date := ⟨Date.latest, by decide, by decide⟩
    let monthBefore : Date := ⟨Date.latest - 31, by decide, by decide⟩
    (∀ n ∈ f.numberOfDays, n < numberOfDaysLimit) ∧
      f.resolve .sunday lastDay = .ok (.day monthBefore) ∧
      (monthBefore.civil.year, monthBefore.civil.month, monthBefore.civil.day)
        = (262142, 11, 30) := by
  intro f lastDay monthBefore
  have hdays : ∀ n ∈ f.numberOfDays, n < numberOfDaysLimit := by
    intro n hn
    cases hn
    decide
  have htable : f.HasBoundaries .sunday lastDay.civil monthBefore.civil monthBefore.civil := by
    refine ⟨⟨?_, ?_⟩, rfl⟩
    · decide
    · decide
  refine ⟨hdays, ?_, by decide⟩
  exact ((resolve_iff_hasBoundaries .sunday f lastDay hdays).2.1 (.day monthBefore)).mpr htable

end RecordFilter
