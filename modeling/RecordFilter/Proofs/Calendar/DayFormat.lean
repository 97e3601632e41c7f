import RecordFilter.Proofs.Calendar.DateText
import RecordFilter.Proofs.Calendar.Succession

/-!
# `RecordFilter.Proofs.Calendar.DayFormat`: ten characters for a day

`HasDayFormat` is the format that days have in the query language: four digits, two digits and two
digits, with hyphens between. `Date.ofText?` reads no other texts, but `Date.text` writes others:
a year that does not fit four digits gets a sign and as many digits as it has.

* `Date.hasDayFormat_text_iff`: the text of a date has the format exactly when its year fits.
* `Civil.IsNear`: the years of two dates are the same or next to each other, as they are when the
  dates are less than a year apart.
-/

set_option autoImplicit false

namespace RecordFilter

/-- The text is four digits, two digits and two digits, with hyphens between. -/
def HasDayFormat (s : String) : Prop :=
  ∃ year month day : List Char, s.toList = year ++ '-' :: (month ++ '-' :: day) ∧
    year.length = 4 ∧ month.length = 2 ∧ day.length = 2 ∧
    ∀ c ∈ year ++ (month ++ day), c.isDigit = true

/-- The year of a date fits four digits. -/
def Civil.HasShortYear (c : Civil) : Prop :=
  0 ≤ c.year ∧ c.year ≤ 9999

/-- A day in the format is ten characters long. -/
theorem HasDayFormat.length {s : String} (h : HasDayFormat s) : s.toList.length = 10 := by
  obtain ⟨year, month, day, hs, hyear, hmonth, hday, -⟩ := h
  rw [hs, List.length_append, List.length_cons, List.length_append, List.length_cons, hyear,
    hmonth, hday]

namespace Date

/-! ### Writing -/

/-- A padded number is at least as long as its width. -/
theorem le_length_padded (width n : Nat) : width ≤ (padded width n).length := by
  show width ≤ (List.replicate (width - (Nat.toDigits 10 n).length) '0'
    ++ Nat.toDigits 10 n).length
  rw [List.length_append, List.length_replicate]
  omega

/-- A year is written in four characters exactly when it fits. -/
theorem length_yearChars_iff {y : Int} : (yearChars y).length = 4 ↔ 0 ≤ y ∧ y ≤ 9999 := by
  by_cases hy : 0 ≤ y ∧ y ≤ 9999
  · rw [yearChars, if_pos hy]
    exact iff_of_true (length_padded (by decide) (by omega)) hy
  · -- The sign comes before four digits or more.
    have hlong := le_length_padded 4 y.natAbs
    rw [yearChars, if_neg hy, List.length_cons]
    exact iff_of_false (by omega) hy

/-- The text of a date has the format exactly when its year fits. -/
theorem hasDayFormat_text_iff (d : Date) : HasDayFormat d.text ↔ d.civil.HasShortYear := by
  have htext : d.text.toList = yearChars d.civil.year
      ++ '-' :: (padded 2 d.civil.month ++ '-' :: padded 2 d.civil.day) := String.toList_ofList
  constructor
  · -- Six characters follow the year, so in ten characters four are left for it.
    intro h
    have hlength := h.length
    rw [htext, List.length_append, length_monthDay] at hlength
    exact length_yearChars_iff.mp (by omega)
  · intro hyear
    have hmonth := d.civil.month_le
    have hday := d.civil.day_le
    have hdays := daysInMonth_le d.civil.year d.civil.month
    refine ⟨_, _, _, htext, length_yearChars_iff.mpr hyear, length_padded (by decide) (by omega),
      length_padded (by decide) (by omega), ?_⟩
    rw [yearChars, if_pos (show 0 ≤ d.civil.year ∧ d.civil.year ≤ 9999 from hyear),
      List.forall_mem_append, List.forall_mem_append]
    exact ⟨fun _ => isDigit_of_mem_padded, fun _ => isDigit_of_mem_padded,
      fun _ => isDigit_of_mem_padded⟩

end Date

/-! ### Years nearby -/

namespace Civil

variable {c d : Civil}

/-- The years of the dates are the same, or next to each other. -/
def IsNear (c d : Civil) : Prop :=
  c.year - 1 ≤ d.year ∧ d.year ≤ c.year + 1

/-- A date is near itself. -/
theorem IsNear.refl (c : Civil) : c.IsNear c :=
  ⟨by omega, by omega⟩

/-- Dates are near each other. -/
theorem IsNear.symm (h : c.IsNear d) : d.IsNear c :=
  ⟨by have := h.2; omega, by have := h.1; omega⟩

/-- Dates that are less than a year apart are near each other. -/
theorem isNear_of_dayNumber (h : d.dayNumber - c.dayNumber ≤ 365)
    (h' : c.dayNumber - d.dayNumber ≤ 365) : c.IsNear d := by
  have hc := daysBeforeYear_yearOf_lt c.dayNumber
  have hc' := le_daysBeforeYear_yearOf_succ c.dayNumber
  have hd := daysBeforeYear_yearOf_lt d.dayNumber
  have hd' := le_daysBeforeYear_yearOf_succ d.dayNumber
  rw [yearOf_dayNumber] at hc hc' hd hd'
  -- Two years further there is a whole year in between, which has 365 days or more.
  have hlong : ∀ y : Int, 365 ≤ daysInYear y := by
    intro y
    unfold daysInYear
    split <;> decide
  refine ⟨Int.not_lt.mp fun hless => ?_, Int.not_lt.mp fun hgreater => ?_⟩
  · have hyear := daysBeforeYear_succ (d.year + 1)
    have hle := daysBeforeYear_le (show d.year + 1 + 1 ≤ c.year by omega)
    have := hlong (d.year + 1)
    omega
  · have hyear := daysBeforeYear_succ (c.year + 1)
    have hle := daysBeforeYear_le (show c.year + 1 + 1 ≤ d.year by omega)
    have := hlong (c.year + 1)
    omega

/-- A date that is at most 365 days later is near. -/
theorem isNear_of_later {n : Nat} (h : c.later n = d) (hn : n ≤ 365) : c.IsNear d := by
  rw [later_eq_iff] at h
  exact isNear_of_dayNumber (by omega) (by omega)

/-- Dates that are a year or less apart, counted in months, are near each other. -/
theorem isNear_of_isMonthsAfter {n : Int} (h : d.IsMonthsAfter n c) (hn : -12 ≤ n)
    (hn' : n ≤ 12) : c.IsNear d := by
  have hmonths := h.1
  have hc := c.one_le_month
  have hc' := c.month_le
  have hd := d.one_le_month
  have hd' := d.month_le
  exact ⟨by omega, by omega⟩

/-- A date of the year before or of the next one is near. -/
theorem isNear_of_isYearsAfter {n : Int} (h : d.IsYearsAfter n c) (hn : -1 ≤ n) (hn' : n ≤ 1) :
    c.IsNear d := by
  have hyears := h.1
  exact ⟨by omega, by omega⟩

end Civil

end RecordFilter
