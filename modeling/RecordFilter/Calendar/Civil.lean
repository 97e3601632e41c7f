/-!
# `RecordFilter.Calendar.Civil`: civil dates and day numbers

The proleptic Gregorian calendar without bounds. A `Civil` date is a year, a month and a day of
that month; the year zero exists. The days are numbered so that day 1 is the first of January of
the year 1.

* `daysBeforeYear_succ`: a year is as long as its months together.
* `daysBeforeYear_yearOf_lt`, `le_daysBeforeYear_yearOf_succ`: `yearOf n` is the year of day `n`.
* `splitDay_spec`: `splitDay` finds the month of a day of the year.
* `Civil.dayNumber_ofDayNumber`: the civil date of a day has that day's number.
-/

set_option autoImplicit false

namespace RecordFilter

/-- Every fourth year is a leap year, but of the centuries only every fourth one. -/
def isLeapYear (y : Int) : Bool :=
  y % 4 == 0 && (y % 100 != 0 || y % 400 == 0)

/-- The lengths of the months of a year, in order. -/
def monthLengths (y : Int) : List Nat :=
  [31, if isLeapYear y then 29 else 28, 31, 30, 31, 30, 31, 31, 30, 31, 30, 31]

/-- The length of a month, where January is the first. -/
def daysInMonth (y : Int) (m : Nat) : Nat :=
  ((monthLengths y)[m - 1]?).getD 0

/-- The length of a year. -/
def daysInYear (y : Int) : Nat :=
  if isLeapYear y then 366 else 365

/-- The number of the last day before a year. -/
def daysBeforeYear (y : Int) : Int :=
  365 * (y - 1) + (y - 1) / 4 - (y - 1) / 100 + (y - 1) / 400

/-- The days of months of the given lengths together. -/
def daysOfMonths : List Nat → Nat
  | [] => 0
  | l :: ls => l + daysOfMonths ls

/-- The days of a year before a month. -/
def daysBeforeMonth (y : Int) (m : Nat) : Nat :=
  daysOfMonths ((monthLengths y).take (m - 1))

/-- The year of a day: the periods of 400, 100, 4 and 1 years that are complete before it. The
last day of a leap year that ends a period belongs to the year that the period ends with. -/
def yearOf (n : Int) : Int :=
  let inCycle := (n - 1) % 146097
  let inCentury := inCycle % 36524
  let inOlympiad := inCentury % 1461
  let year := 400 * ((n - 1) / 146097) + 100 * (inCycle / 36524) + 4 * (inCentury / 1461)
    + inOlympiad / 365
  if inCycle / 36524 = 4 ∨ inOlympiad / 365 = 4 then year else year + 1

/-- The month, counted from 1, and the day of the month for a day of a year that has months of
the given lengths. -/
def splitDay : List Nat → Nat → Nat × Nat
  | [], k => (1, k)
  | l :: ls, k =>
    if k ≤ l then (1, k)
    else
      let r := splitDay ls (k - l)
      (r.1 + 1, r.2)

/-! ### Years -/

/-- A year is as long as its months together. -/
theorem daysOfMonths_monthLengths (y : Int) : daysOfMonths (monthLengths y) = daysInYear y := by
  unfold monthLengths daysInYear
  split <;> rfl

/-- A year has twelve months. -/
theorem length_monthLengths (y : Int) : (monthLengths y).length = 12 := rfl

/-- The next year begins when the year ends. -/
theorem daysBeforeYear_succ (y : Int) :
    daysBeforeYear (y + 1) = daysBeforeYear y + daysInYear y := by
  unfold daysBeforeYear daysInYear isLeapYear
  simp only [Bool.and_eq_true, Bool.or_eq_true, beq_iff_eq, bne_iff_ne]
  split <;> omega

/-- The periods that are complete before a day. A day 366 of a year is the last one of the fourth
year of a period of four, and of a century only in every fourth one. -/
theorem yearOf_periods (n : Int) : ∃ a b c d r : Int,
    n - 1 = 146097 * a + 36524 * b + 1461 * c + 365 * d + r ∧
      0 ≤ b ∧ b ≤ 3 ∧ 0 ≤ c ∧ c ≤ 24 ∧ 0 ≤ d ∧ d ≤ 3 ∧ 0 ≤ r ∧ r ≤ 365 ∧
      (r = 365 → d = 3 ∧ (c = 24 → b = 3)) ∧
      yearOf n = 400 * a + 100 * b + 4 * c + d + 1 := by
  obtain ⟨a, ha⟩ : ∃ a, a = (n - 1) / 146097 := ⟨_, rfl⟩
  obtain ⟨i, hi⟩ : ∃ i, i = (n - 1) % 146097 := ⟨_, rfl⟩
  obtain ⟨b, hb⟩ : ∃ b, b = i / 36524 := ⟨_, rfl⟩
  obtain ⟨j, hj⟩ : ∃ j, j = i % 36524 := ⟨_, rfl⟩
  obtain ⟨c, hc⟩ : ∃ c, c = j / 1461 := ⟨_, rfl⟩
  obtain ⟨k, hk⟩ : ∃ k, k = j % 1461 := ⟨_, rfl⟩
  obtain ⟨d, hd⟩ : ∃ d, d = k / 365 := ⟨_, rfl⟩
  have hy : yearOf n = if b = 4 ∨ d = 4 then 400 * a + 100 * b + 4 * c + d
      else 400 * a + 100 * b + 4 * c + d + 1 := by
    simp only [yearOf, ha, hi, hb, hj, hc, hk, hd]
  by_cases h4 : b = 4
  · exact ⟨a, 3, 24, 3, 365, by omega, by omega, by omega, by omega, by omega, by omega,
      by omega, by omega, by omega, by omega, by rw [hy, if_pos (Or.inl h4)]; omega⟩
  · by_cases h5 : d = 4
    · exact ⟨a, b, c, 3, 365, by omega, by omega, by omega, by omega, by omega, by omega,
        by omega, by omega, by omega, by omega, by rw [hy, if_pos (Or.inr h5)]; omega⟩
    · exact ⟨a, b, c, d, k % 365, by omega, by omega, by omega, by omega, by omega, by omega,
        by omega, by omega, by omega, by omega, by rw [hy, if_neg (by omega)]⟩

/-- The days before the year of a day are those of the complete periods. -/
theorem daysBeforeYear_periods (a b c d : Int) (hb : 0 ≤ b ∧ b ≤ 3) (hc : 0 ≤ c ∧ c ≤ 24)
    (hd : 0 ≤ d ∧ d ≤ 3) :
    daysBeforeYear (400 * a + 100 * b + 4 * c + d + 1)
      = 146097 * a + 36524 * b + 1461 * c + 365 * d := by
  have h4 : (400 * a + 100 * b + 4 * c + d) / 4 = 100 * a + 25 * b + c := by omega
  have h100 : (400 * a + 100 * b + 4 * c + d) / 100 = 4 * a + b := by omega
  have h400 : (400 * a + 100 * b + 4 * c + d) / 400 = a := by omega
  have h1 : 400 * a + 100 * b + 4 * c + d + 1 - 1 = 400 * a + 100 * b + 4 * c + d := by omega
  rw [daysBeforeYear, h1, h4, h100, h400]
  omega

/-- The year of a day begins before the day. -/
theorem daysBeforeYear_yearOf_lt (n : Int) : daysBeforeYear (yearOf n) < n := by
  obtain ⟨a, b, c, d, r, hn, hb, hb', hc, hc', hd, hd', hr, -, -, hy⟩ := yearOf_periods n
  rw [hy, daysBeforeYear_periods a b c d ⟨hb, hb'⟩ ⟨hc, hc'⟩ ⟨hd, hd'⟩]
  omega

/-- The year of a day ends with the day or later. -/
theorem le_daysBeforeYear_yearOf_succ (n : Int) : n ≤ daysBeforeYear (yearOf n + 1) := by
  obtain ⟨a, b, c, d, r, hn, hb, hb', hc, hc', hd, hd', -, hr, hlast, hy⟩ := yearOf_periods n
  rw [daysBeforeYear_succ, hy, daysBeforeYear_periods a b c d ⟨hb, hb'⟩ ⟨hc, hc'⟩ ⟨hd, hd'⟩]
  unfold daysInYear isLeapYear
  simp only [Bool.and_eq_true, Bool.or_eq_true, beq_iff_eq, bne_iff_ne]
  split <;> omega

/-! ### Months -/

/-- `splitDay` gives a month of the list and a day of that month, and the days of the months
before it make up the rest. -/
theorem splitDay_spec : ∀ (ls : List Nat) (k : Nat), 1 ≤ k → k ≤ daysOfMonths ls →
    1 ≤ (splitDay ls k).1 ∧ (splitDay ls k).1 ≤ ls.length ∧ 1 ≤ (splitDay ls k).2 ∧
      (splitDay ls k).2 ≤ (ls[(splitDay ls k).1 - 1]?).getD 0 ∧
      daysOfMonths (ls.take ((splitDay ls k).1 - 1)) + (splitDay ls k).2 = k := by
  intro ls
  induction ls with
  | nil => intro k h1 h2; simp [daysOfMonths] at h2; omega
  | cons l ls ih =>
    intro k h1 h2
    by_cases h : k ≤ l
    · simp [splitDay, daysOfMonths, h, h1]
    · rw [daysOfMonths] at h2
      obtain ⟨hm, hlen, hd, hle, hsum⟩ := ih (k - l) (by omega) (by omega)
      obtain ⟨m, hm'⟩ : ∃ m, (splitDay ls (k - l)).1 = m + 1 := ⟨_, (Nat.sub_add_cancel hm).symm⟩
      rw [hm'] at hlen hle hsum
      simp only [Nat.add_sub_cancel] at hle hsum
      simp only [splitDay, h, if_false, hm', Nat.add_sub_cancel, List.getElem?_cons_succ,
        List.take_succ_cons, daysOfMonths, List.length_cons]
      omega

/-- Every month has at least 28 days. -/
theorem daysInMonth_ge (y : Int) (m : Nat) (h : m ≤ 12) : 28 ≤ daysInMonth y m := by
  have hmem : ∀ l ∈ monthLengths y, 28 ≤ l := by
    unfold monthLengths
    split <;> decide
  have hlt : m - 1 < (monthLengths y).length := by
    rw [length_monthLengths]; omega
  rw [daysInMonth, List.getElem?_eq_getElem hlt, Option.getD_some]
  exact hmem _ (List.getElem_mem hlt)

/-- No month has more than 31 days. -/
theorem daysInMonth_le (y : Int) (m : Nat) : daysInMonth y m ≤ 31 := by
  have hmem : ∀ l ∈ monthLengths y, l ≤ 31 := by
    unfold monthLengths
    split <;> decide
  unfold daysInMonth
  cases h : (monthLengths y)[m - 1]? with
  | none => exact Nat.zero_le _
  | some l => exact hmem l (List.mem_of_getElem? h)

/-! ### Civil dates -/

/-- A date of the calendar. -/
structure Civil where
  year : Int
  month : Nat
  day : Nat
  one_le_month : 1 ≤ month
  month_le : month ≤ 12
  one_le_day : 1 ≤ day
  day_le : day ≤ daysInMonth year month
  deriving DecidableEq

namespace Civil

/-- The date of that year, month and day, if the calendar has it. -/
def of? (year : Int) (month day : Nat) : Option Civil :=
  if h : 1 ≤ month ∧ month ≤ 12 ∧ 1 ≤ day ∧ day ≤ daysInMonth year month then
    some ⟨year, month, day, h.1, h.2.1, h.2.2.1, h.2.2.2⟩
  else none

/-- The number of a date's day. -/
def dayNumber (c : Civil) : Int :=
  daysBeforeYear c.year + daysBeforeMonth c.year c.month + c.day

/-- The day of the year of day `n`. -/
def dayOfYear (n : Int) : Nat :=
  (n - daysBeforeYear (yearOf n)).toNat

/-- A day number is a year and a day of this year that it has. -/
theorem dayOfYear_spec (n : Int) :
    1 ≤ dayOfYear n ∧ dayOfYear n ≤ daysOfMonths (monthLengths (yearOf n)) ∧
      daysBeforeYear (yearOf n) + dayOfYear n = n := by
  have h1 := daysBeforeYear_yearOf_lt n
  have h2 := le_daysBeforeYear_yearOf_succ n
  rw [daysBeforeYear_succ] at h2
  rw [daysOfMonths_monthLengths]
  unfold dayOfYear
  omega

/-- The date of a day. -/
def ofDayNumber (n : Int) : Civil :=
  let r := splitDay (monthLengths (yearOf n)) (dayOfYear n)
  have h := splitDay_spec _ _ (dayOfYear_spec n).1 (dayOfYear_spec n).2.1
  ⟨yearOf n, r.1, r.2, h.1, h.2.1, h.2.2.1, h.2.2.2.1⟩

/-- The date of a day has that day's number. -/
theorem dayNumber_ofDayNumber (n : Int) : (ofDayNumber n).dayNumber = n := by
  have h := (splitDay_spec _ _ (dayOfYear_spec n).1 (dayOfYear_spec n).2.1).2.2.2.2
  have hn := (dayOfYear_spec n).2.2
  show daysBeforeYear (yearOf n)
      + (daysOfMonths ((monthLengths (yearOf n)).take
          ((splitDay (monthLengths (yearOf n)) (dayOfYear n)).1 - 1)) : Nat)
      + ((splitDay (monthLengths (yearOf n)) (dayOfYear n)).2 : Nat) = n
  omega

/-- The date some months later, or earlier where `n` is negative. The day is cut to the length of
the month that is reached. -/
def addMonths (c : Civil) (n : Int) : Civil :=
  let total := 12 * c.year + (c.month - 1 : Nat) + n
  let year := total / 12
  let month := (total % 12).toNat + 1
  have hm : month ≤ 12 := by omega
  have hd := daysInMonth_ge year month hm
  have h1 := c.one_le_day
  ⟨year, month, min c.day (daysInMonth year month), by omega, hm, by omega, by omega⟩

/-- The first day of a date's month. -/
def firstOfMonth (c : Civil) : Civil :=
  have hd := daysInMonth_ge c.year c.month c.month_le
  ⟨c.year, c.month, 1, c.one_le_month, c.month_le, Nat.le_refl 1, by omega⟩

/-- The first day of a year. -/
def newYear (year : Int) : Civil :=
  ⟨year, 1, 1, by decide, by decide, by decide, by
    have := daysInMonth_ge year 1 (by decide); omega⟩

/-- The last day of a year. -/
def newYearsEve (year : Int) : Civil :=
  ⟨year, 12, 31, by decide, by decide, by decide, Nat.le_refl 31⟩

end Civil

end RecordFilter
