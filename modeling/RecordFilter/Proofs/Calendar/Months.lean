import RecordFilter.Proofs.Calendar.Succession

/-!
# `RecordFilter.Proofs.Calendar.Months`: the months as one sequence

The months of all years follow each other in one sequence, in which January of the year zero has
the number zero. `monthBegin k` is the number of the last day before month `k`, and
`monthLength k` the length of the month. A day is then a month and a day of the month, and to
shift it by some months is to add to the number of the month.

* `monthBegin_succ`: each month begins where the one before it ends, also at the end of a year.
* `monthBegin_add_twelve`: twelve months in a row have 365 or 366 days.
* `Civil.dayNumber_sub_bounds`: a shift by months moves every day as far as it moves the beginning
  of some month, also when the day is cut to the length of the month.
* `Civil.dayNumber_addMonths_le`: a shift by months does not turn two days around.
-/

set_option autoImplicit false

namespace RecordFilter

/-- The number of the last day before a month. -/
def monthBegin (k : Int) : Int :=
  daysBeforeYear (k / 12) + daysBeforeMonth (k / 12) ((k % 12).toNat + 1)

/-- The length of a month. -/
def monthLength (k : Int) : Nat :=
  daysInMonth (k / 12) ((k % 12).toNat + 1)

/-! ### The sequence -/

/-- No month is shorter than 28 or longer than 31 days. -/
theorem monthLength_bounds (k : Int) : 28 ≤ monthLength k ∧ monthLength k ≤ 31 :=
  ⟨daysInMonth_ge _ _ (by omega), daysInMonth_le _ _⟩

/-- The next month begins when the month ends. -/
theorem monthBegin_succ (k : Int) : monthBegin (k + 1) = monthBegin k + monthLength k := by
  unfold monthBegin monthLength
  by_cases hlast : k % 12 = 11
  · -- After December comes January, and the year is over with all its months.
    have hyear : (k + 1) / 12 = k / 12 + 1 := by omega
    have hmonth : ((k + 1) % 12).toNat + 1 = 1 := by omega
    have hdecember : (k % 12).toNat + 1 = 12 := by omega
    have hdays := daysBeforeMonth_december (k / 12)
    rw [hyear, hmonth, hdecember, daysBeforeYear_succ]
    show _ + (0 : Int) = _
    omega
  · have hyear : (k + 1) / 12 = k / 12 := by omega
    have hmonth : ((k + 1) % 12).toNat + 1 = (k % 12).toNat + 1 + 1 := by omega
    have hdays := daysBeforeMonth_succ (k / 12) (show 1 ≤ (k % 12).toNat + 1 by omega) (by omega)
    rw [hyear, hmonth, hdays]
    omega

/-- A later month does not begin earlier. -/
theorem monthBegin_le {j k : Int} (h : j ≤ k) : monthBegin j ≤ monthBegin k := by
  obtain ⟨n, rfl⟩ : ∃ n : Nat, k = j + n := ⟨(k - j).toNat, by omega⟩
  clear h
  induction n with
  | zero => simp
  | succ n ih =>
    have hsucc := monthBegin_succ (j + n)
    rw [Int.natCast_succ, ← Int.add_assoc]
    omega

/-- A leap day makes the months after February begin one day later. -/
theorem daysBeforeMonth_eq (y : Int) {m : Nat} (hm : 1 ≤ m) (hm' : m ≤ 12) :
    daysBeforeMonth y m
      = daysBeforeMonth 1 m + if isLeapYear y = true ∧ 3 ≤ m then 1 else 0 := by
  have hcases : m = 1 ∨ m = 2 ∨ m = 3 ∨ m = 4 ∨ m = 5 ∨ m = 6 ∨ m = 7 ∨ m = 8 ∨ m = 9 ∨ m = 10 ∨
      m = 11 ∨ m = 12 := by omega
  unfold daysBeforeMonth monthLengths
  cases isLeapYear y <;>
    rcases hcases with rfl | rfl | rfl | rfl | rfl | rfl | rfl | rfl | rfl | rfl | rfl | rfl <;> rfl

/-- Twelve months in a row have 365 or 366 days, wherever they begin. -/
theorem monthBegin_add_twelve (k : Int) :
    365 ≤ monthBegin (k + 12) - monthBegin k ∧ monthBegin (k + 12) - monthBegin k ≤ 366 := by
  have hyear : (k + 12) / 12 = k / 12 + 1 := by omega
  have hmonth : (k + 12) % 12 = k % 12 := by omega
  have hfirst := daysBeforeMonth_eq (k / 12) (show 1 ≤ (k % 12).toNat + 1 by omega) (by omega)
  have hlast := daysBeforeMonth_eq (k / 12 + 1) (show 1 ≤ (k % 12).toNat + 1 by omega) (by omega)
  unfold monthBegin
  rw [hyear, hmonth, hfirst, hlast, daysBeforeYear_succ, daysInYear]
  -- The leap day counts when it lies after the first of the months or before the last one.
  by_cases hmarch : 3 ≤ (k % 12).toNat + 1 <;> cases isLeapYear (k / 12) <;>
    cases isLeapYear (k / 12 + 1) <;> simp [hmarch] <;> omega

/-! ### Days in the sequence -/

namespace Civil

variable {c d : Civil} {n : Int}

/-- The number of the month of a date. -/
def monthNumber (c : Civil) : Int :=
  12 * c.year + (c.month - 1 : Nat)

/-- The number of a month has the year in it. -/
theorem monthNumber_div (c : Civil) : c.monthNumber / 12 = c.year := by
  have hmonth := c.one_le_month
  have hmonth' := c.month_le
  unfold monthNumber
  omega

/-- The number of a month has the month of the year in it. -/
theorem monthNumber_mod (c : Civil) : (c.monthNumber % 12).toNat + 1 = c.month := by
  have hmonth := c.one_le_month
  have hmonth' := c.month_le
  unfold monthNumber
  omega

/-- The number of a date's day, from the beginning of the month on. -/
theorem dayNumber_eq (c : Civil) : c.dayNumber = monthBegin c.monthNumber + c.day := by
  rw [monthBegin, monthNumber_div, monthNumber_mod]
  rfl

/-- A date lies in its month. -/
theorem day_le_monthLength (c : Civil) : c.day ≤ monthLength c.monthNumber := by
  rw [monthLength, monthNumber_div, monthNumber_mod]
  exact c.day_le

/-- In the sequence of months, to be some months later is to have a month with a greater number. -/
theorem isMonthsAfter_iff_monthNumber : d.IsMonthsAfter n c ↔
    d.monthNumber = c.monthNumber + n ∧ d.day = min c.day (monthLength d.monthNumber) := by
  have hc := c.one_le_month
  have hd := d.one_le_month
  rw [monthLength, monthNumber_div, monthNumber_mod, IsMonthsAfter]
  refine and_congr_left fun _ => ?_
  unfold monthNumber
  omega

/-- Adding months leads to the month that is as many months away. -/
theorem isMonthsAfter_addMonths (c : Civil) (n : Int) : (c.addMonths n).IsMonthsAfter n c :=
  isMonthsAfter_iff.mpr rfl

/-- A shift by some months moves every day as far as it moves the beginning of some month. A day
that is cut to the length of its month moves less far forward than the beginning of its own month,
but not less far than the beginning of the next one. -/
theorem dayNumber_sub_bounds (least most : Int) (h : d.IsMonthsAfter n c)
    (hspan : ∀ k, least ≤ monthBegin (k + n) - monthBegin k ∧
      monthBegin (k + n) - monthBegin k ≤ most) :
    least ≤ d.dayNumber - c.dayNumber ∧ d.dayNumber - c.dayNumber ≤ most := by
  obtain ⟨hmonth, hday⟩ := isMonthsAfter_iff_monthNumber.mp h
  have hbegin := hspan c.monthNumber
  have hend := hspan (c.monthNumber + 1)
  have hlength := c.day_le_monthLength
  have hnext := monthBegin_succ c.monthNumber
  have hnext' := monthBegin_succ (c.monthNumber + n)
  rw [show c.monthNumber + 1 + n = c.monthNumber + n + 1 by omega] at hend
  rw [hmonth] at hday
  rw [c.dayNumber_eq, d.dayNumber_eq, hmonth]
  -- The day keeps its place in the month, or else it is the last one of a shorter month.
  by_cases hfits : c.day ≤ monthLength (c.monthNumber + n)
  · omega
  · omega

/-- An earlier day does not lie in a later month. -/
theorem monthNumber_le (h : c.dayNumber ≤ d.dayNumber) : c.monthNumber ≤ d.monthNumber := by
  refine Int.not_lt.mp fun hlater => ?_
  have hbegin := monthBegin_le (show d.monthNumber + 1 ≤ c.monthNumber by omega)
  have hnext := monthBegin_succ d.monthNumber
  have hlength := d.day_le_monthLength
  have hday := c.one_le_day
  rw [c.dayNumber_eq, d.dayNumber_eq] at h
  omega

/-- A shift by months does not turn two days around, though it can bring them together at the end
of a month. -/
theorem dayNumber_addMonths_le (h : c.dayNumber ≤ d.dayNumber) (n : Int) :
    (c.addMonths n).dayNumber ≤ (d.addMonths n).dayNumber := by
  obtain ⟨hc, hcday⟩ := isMonthsAfter_iff_monthNumber.mp (c.isMonthsAfter_addMonths n)
  obtain ⟨hd, hdday⟩ := isMonthsAfter_iff_monthNumber.mp (d.isMonthsAfter_addMonths n)
  rw [hc] at hcday
  rw [hd] at hdday
  have hle := monthNumber_le h
  rw [dayNumber_eq (c.addMonths n), dayNumber_eq (d.addMonths n), hc, hd]
  by_cases hsame : c.monthNumber = d.monthNumber
  · -- Within a month the order of the days is that of the days of the month.
    rw [c.dayNumber_eq, d.dayNumber_eq, hsame] at h
    rw [hsame] at hcday ⊢
    omega
  · -- The earlier month is over before the later one begins.
    have hbegin := monthBegin_le (show c.monthNumber + n + 1 ≤ d.monthNumber + n by omega)
    have hnext := monthBegin_succ (c.monthNumber + n)
    omega

end Civil

end RecordFilter
