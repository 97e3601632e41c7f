import RecordFilter.Proofs.Calendar.DayFormat
import RecordFilter.Proofs.Dates.Table

/-!
# `RecordFilter.Proofs.Dates.Years`: the years of boundaries

`isNear_of_hasBoundaries`: unless a filter counts days or gives a date, both of its boundaries lie
in the year of the anchor or in a year next to it.
-/

set_option autoImplicit false

namespace RecordFilter

variable {weekStart : Weekday} {anchor first last start stop : Civil}

/-- The mode gives days that follow from the anchor alone: it reads no parameter. -/
def DateMode.IsRelative (mode : DateMode) : Prop :=
  mode.usesNumberOfDays = false ∧ mode ≠ .exactDate

/-- The boundaries around the week of an anchor are near the anchor. -/
theorem isNear_of_encloses_week (h : Encloses (Civil.IsWeekOf weekStart anchor) start stop) :
    anchor.IsNear start ∧ anchor.IsNear stop := by
  obtain ⟨first, last, ⟨-, hlast, n, hn, hanchor⟩, hstart, hstop⟩ := h
  rw [Civil.later_eq_iff] at hlast hanchor hstart hstop
  exact ⟨Civil.isNear_of_dayNumber (by omega) (by omega),
    Civil.isNear_of_dayNumber (by omega) (by omega)⟩

/-- The boundaries around a unit within the year of an anchor are near the anchor. -/
theorem isNear_of_encloses {unit : Civil → Civil → Prop} (h : Encloses unit start stop)
    (hunit : ∀ first last, unit first last → first.year = anchor.year ∧ last.year = anchor.year) :
    anchor.IsNear start ∧ anchor.IsNear stop := by
  obtain ⟨first, last, hfirst, hstart, hstop⟩ := h
  obtain ⟨hyear, hyear'⟩ := hunit first last hfirst
  -- The boundaries are outside the unit, by a day, and this day can be in another year.
  have hbefore := (Civil.isNear_of_later hstart (by decide)).symm
  have hafter := Civil.isNear_of_later hstop (by decide)
  unfold Civil.IsNear at hbefore hafter ⊢
  rw [hyear] at hbefore
  rw [hyear'] at hafter
  exact ⟨hbefore, hafter⟩

/-- Unless a filter counts days or gives a date, both of its boundaries are near the anchor. -/
theorem isNear_of_hasBoundaries {f : DateFilter} (hmode : f.mode.IsRelative)
    (h : f.HasBoundaries weekStart anchor start stop) :
    anchor.IsNear start ∧ anchor.IsNear stop := by
  obtain ⟨mode, days, input⟩ := f
  obtain ⟨hnumber, hexact⟩ := hmode
  -- A single day has both boundaries at once.
  have hday : anchor.IsNear start → stop = start → anchor.IsNear start ∧ anchor.IsNear stop := by
    rintro hnear rfl
    exact ⟨hnear, hnear⟩
  cases mode with
  | today => exact hday (h.1 ▸ .refl _) h.2
  | tomorrow | oneWeekFromNow => exact hday (Civil.isNear_of_later h.1 (by decide)) h.2
  | yesterday | oneWeekAgo => exact hday (Civil.isNear_of_later h.1 (by decide)).symm h.2
  | oneMonthAgo | oneMonthFromNow =>
    exact hday (Civil.isNear_of_isMonthsAfter h.1 (by decide) (by decide)) h.2
  | daysAgo | daysFromNow | pastNumberOfDays | nextNumberOfDays => cases hnumber
  | exactDate => exact absurd rfl hexact
  | pastWeek =>
    exact ⟨(Civil.isNear_of_later h.1 (by decide)).symm, Civil.isNear_of_later h.2 (by decide)⟩
  | pastMonth =>
    exact ⟨Civil.isNear_of_isMonthsAfter h.1 (by decide) (by decide),
      Civil.isNear_of_later h.2 (by decide)⟩
  | pastYear =>
    exact ⟨Civil.isNear_of_isYearsAfter h.1 (by decide) (by decide),
      Civil.isNear_of_later h.2 (by decide)⟩
  | nextWeek =>
    exact ⟨(Civil.isNear_of_later h.1 (by decide)).symm, Civil.isNear_of_later h.2 (by decide)⟩
  | nextMonth =>
    exact ⟨(Civil.isNear_of_later h.1 (by decide)).symm,
      Civil.isNear_of_isMonthsAfter h.2 (by decide) (by decide)⟩
  | nextYear =>
    exact ⟨(Civil.isNear_of_later h.1 (by decide)).symm,
      Civil.isNear_of_isYearsAfter h.2 (by decide) (by decide)⟩
  | calendarWeek => exact isNear_of_encloses_week h
  | calendarMonth =>
    refine isNear_of_encloses h ?_
    rintro first last ⟨rfl, rfl⟩
    exact ⟨rfl, rfl⟩
  | calendarYear =>
    refine isNear_of_encloses h ?_
    rintro first last ⟨rfl, rfl⟩
    exact ⟨rfl, rfl⟩

end RecordFilter
