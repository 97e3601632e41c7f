import RecordFilter.Calendar.Date

/-!
# `RecordFilter.Proofs.Calendar.CivilDay`: dates and their day numbers

* `yearOf_eq`: a day between two new years belongs to the year between them.
* `splitDay_take`: a day of a month is found in that month.
* `Civil.ofDayNumber_dayNumber`: the civil date of a civil date's day is the date. With
  `Civil.dayNumber_ofDayNumber`, civil dates and day numbers correspond one to one.
* `Date.ofNumber?_eq_some_iff`: the supported dates are the day numbers in range.
-/

set_option autoImplicit false

namespace RecordFilter

/-! ### Years -/

/-- A later year does not begin earlier. -/
theorem daysBeforeYear_le {y z : Int} (h : y ≤ z) : daysBeforeYear y ≤ daysBeforeYear z := by
  obtain ⟨n, rfl⟩ : ∃ n : Nat, z = y + n := ⟨(z - y).toNat, by omega⟩
  clear h
  induction n with
  | zero => simp
  | succ n ih =>
    have hsucc := daysBeforeYear_succ (y + n)
    rw [Int.natCast_succ, ← Int.add_assoc]
    omega

/-- The year of a day is the only one that begins before it and does not end before it. -/
theorem yearOf_eq {n y : Int} (hlt : daysBeforeYear y < n) (hle : n ≤ daysBeforeYear (y + 1)) :
    yearOf n = y := by
  have hlt' := daysBeforeYear_yearOf_lt n
  have hle' := le_daysBeforeYear_yearOf_succ n
  -- A year that is another one ends before the day, or begins after it.
  cases Int.lt_trichotomy (yearOf n) y with
  | inl hless =>
    have := daysBeforeYear_le (show yearOf n + 1 ≤ y by omega)
    omega
  | inr h =>
    cases h with
    | inl heq => exact heq
    | inr hgreater =>
      have := daysBeforeYear_le (show y + 1 ≤ yearOf n by omega)
      omega

/-! ### Months -/

/-- The days of months one after the other. -/
theorem daysOfMonths_append (ls ms : List Nat) :
    daysOfMonths (ls ++ ms) = daysOfMonths ls + daysOfMonths ms := by
  induction ls with
  | nil => simp [daysOfMonths]
  | cons l ls ih => rw [List.cons_append, daysOfMonths, daysOfMonths, ih, Nat.add_assoc]

/-- A day of a month is found in that month, behind the days of the months before. -/
theorem splitDay_take : ∀ (ls : List Nat) (m d : Nat), 1 ≤ d → d ≤ (ls[m]?).getD 0 →
    splitDay ls (daysOfMonths (ls.take m) + d) = (m + 1, d) := by
  intro ls
  induction ls with
  | nil => intro m d h1 h2; simp at h2; omega
  | cons l ls ih =>
    intro m d h1 h2
    cases m with
    | zero =>
      have hd : d ≤ l := h2
      simp [splitDay, daysOfMonths, hd]
    | succ m =>
      have hrest := ih m d h1 (by simpa using h2)
      have hsum : daysOfMonths ((l :: ls).take (m + 1)) + d
          = l + (daysOfMonths (ls.take m) + d) := by
        rw [List.take_succ_cons, daysOfMonths, Nat.add_assoc]
      rw [hsum, splitDay, if_neg (by omega), Nat.add_sub_cancel_left, hrest]

/-! ### Dates -/

namespace Civil

/-- The day of a date, counted from the beginning of its year. -/
theorem daysBeforeMonth_add_day_bounds (c : Civil) :
    1 ≤ daysBeforeMonth c.year c.month + c.day ∧
      daysBeforeMonth c.year c.month + c.day ≤ daysInYear c.year := by
  have h1 := c.one_le_day
  refine ⟨by omega, ?_⟩
  have hday := c.day_le
  have hmonth := c.one_le_month
  have hmonth' := c.month_le
  have hlt : c.month - 1 < (monthLengths c.year).length := by
    rw [length_monthLengths]; omega
  -- The months up to this one are among the months of the year.
  have htake : daysOfMonths ((monthLengths c.year).take (c.month - 1 + 1))
      ≤ daysOfMonths (monthLengths c.year) := by
    have hsplit := congrArg daysOfMonths
      (List.take_append_drop (c.month - 1 + 1) (monthLengths c.year))
    rw [daysOfMonths_append] at hsplit
    omega
  rw [daysOfMonths_monthLengths, List.take_succ_eq_append_getElem hlt, daysOfMonths_append,
    daysOfMonths, daysOfMonths, Nat.add_zero] at htake
  rw [daysInMonth, List.getElem?_eq_getElem hlt, Option.getD_some] at hday
  unfold daysBeforeMonth
  omega

/-- The year of a date's day is the year of the date. -/
theorem yearOf_dayNumber (c : Civil) : yearOf c.dayNumber = c.year := by
  have hbounds := c.daysBeforeMonth_add_day_bounds
  have hsucc := daysBeforeYear_succ c.year
  unfold dayNumber
  exact yearOf_eq (by omega) (by omega)

/-- The date of a date's day is the date. -/
theorem ofDayNumber_dayNumber (c : Civil) : ofDayNumber c.dayNumber = c := by
  have hday : dayOfYear c.dayNumber = daysBeforeMonth c.year c.month + c.day := by
    unfold dayOfYear
    rw [yearOf_dayNumber]
    unfold dayNumber
    omega
  have hsplit : splitDay (monthLengths c.year) (daysBeforeMonth c.year c.month + c.day)
      = (c.month, c.day) := by
    have h := splitDay_take (monthLengths c.year) (c.month - 1) c.day c.one_le_day c.day_le
    rw [Nat.sub_add_cancel c.one_le_month] at h
    exact h
  have hyear := c.yearOf_dayNumber
  unfold ofDayNumber
  obtain ⟨year, month, day, _, _, _, _⟩ := c
  simp only [hday, hyear, hsplit]

end Civil

/-! ### Weekdays -/

/-- Weekdays are numbered from zero to six. -/
theorem Weekday.index_le (w : Weekday) : w.index ≤ 6 := by
  cases w <;> decide

/-- Different weekdays have different numbers. -/
theorem Weekday.index_inj {v w : Weekday} : v.index = w.index ↔ v = w := by
  cases v <;> cases w <;> decide

/-! ### Supported dates -/

namespace Date

/-- The day with that number is supported. -/
def IsSupported (n : Int) : Prop :=
  earliest ≤ n ∧ n ≤ latest

/-- The civil date of a day has the number of the day. -/
@[simp]
theorem dayNumber_civil (d : Date) : d.civil.dayNumber = d.number :=
  Civil.dayNumber_ofDayNumber d.number

/-- The number of a date is supported. -/
theorem isSupported_number (d : Date) : IsSupported d.number :=
  ⟨d.earliest_le, d.le_latest⟩

/-- A date is known by its day number. -/
theorem number_injective {d e : Date} (h : d.number = e.number) : d = e := by
  obtain ⟨n, _, _⟩ := d
  obtain ⟨m, _, _⟩ := e
  cases h
  rfl

/-- A number is that of one date at most. -/
theorem ofNumber?_eq_some_iff {n : Int} {d : Date} : ofNumber? n = some d ↔ d.number = n := by
  unfold ofNumber?
  refine ⟨?_, ?_⟩
  · intro h
    split at h
    · cases h; rfl
    · cases h
  · rintro rfl
    exact dif_pos (show earliest ≤ d.number ∧ d.number ≤ latest from d.isSupported_number)

/-- The supported days are those that have a date. -/
theorem exists_number_eq_iff {n : Int} : (∃ d : Date, d.number = n) ↔ IsSupported n := by
  refine ⟨?_, fun h => ⟨⟨n, h.1, h.2⟩, rfl⟩⟩
  rintro ⟨d, rfl⟩
  exact d.isSupported_number

end Date

end RecordFilter
