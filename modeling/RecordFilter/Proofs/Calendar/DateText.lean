import Mathlib.Algebra.Group.Nat.Defs
import RecordFilter.Proofs.Calendar.CivilDay

/-!
# `RecordFilter.Proofs.Calendar.DateText`: the text of a date names one date

* `Date.text_injective`: two dates with the same text are the same date.
* `Date.quote_not_mem_text`: a date can stand between single quotes.

The month and the day always have two digits, so the last six characters are split off by their
number, and the year is what stands before them. The sign of a year cannot be taken for a digit.
-/

set_option autoImplicit false

namespace RecordFilter

namespace Date

/-! ### Padded numbers -/

/-- The digits of a padded number spell the number. -/
theorem ofDigitChars_padded (width n : Nat) : Nat.ofDigitChars 10 (padded width n) 0 = n := by
  show Nat.ofDigitChars 10 (List.replicate _ '0' ++ Nat.toDigits 10 n) 0 = n
  rw [Nat.ofDigitChars_append, Nat.ofDigitChars_replicate_zero, Nat.mul_zero,
    Nat.ofDigitChars_ten_toDigits]

/-- Zeros in front do not change the number that the digits are of. -/
theorem padded_injective {width m n : Nat} (h : padded width m = padded width n) : m = n := by
  have hvalue := congrArg (Nat.ofDigitChars 10 · 0) h
  simpa only [ofDigitChars_padded] using hvalue

/-- Every character of a padded number is a digit. -/
theorem isDigit_of_mem_padded {width n : Nat} {c : Char} (h : c ∈ padded width n) :
    c.isDigit = true := by
  cases List.mem_append.mp h with
  | inl hzero =>
    rw [(List.mem_replicate.mp hzero).2]
    rfl
  | inr hdigit => exact Nat.isDigit_of_mem_toDigits (by decide) (by decide) hdigit

/-- A number that fits the width is as long as the width. -/
theorem length_padded {width n : Nat} (hwidth : 0 < width) (hn : n < 10 ^ width) :
    (padded width n).length = width := by
  have hle := (Nat.length_toDigits_le_iff (by decide) hwidth).mpr hn
  show (List.replicate (width - (Nat.toDigits 10 n).length) '0'
    ++ Nat.toDigits 10 n).length = width
  rw [List.length_append, List.length_replicate]
  omega

/-! ### Years -/

/-- A year is written without a sign, or as a sign that says whether it is negative. -/
theorem yearChars_cases (y : Int) :
    (0 ≤ y ∧ yearChars y = padded 4 y.natAbs) ∨
      (y < 0 ∧ yearChars y = '-' :: padded 4 y.natAbs) ∨
      (0 ≤ y ∧ yearChars y = '+' :: padded 4 y.natAbs) := by
  unfold yearChars
  split
  · exact .inl ⟨by omega, rfl⟩
  · split
    · exact .inr (.inl ⟨by assumption, rfl⟩)
    · exact .inr (.inr ⟨by omega, rfl⟩)

/-- A padded number does not begin with a sign. -/
theorem padded_ne_cons {width n : Nat} {c : Char} {cs : List Char} (hc : c.isDigit = false) :
    padded width n ≠ c :: cs := by
  intro h
  have hmem : c ∈ padded width n := by
    rw [h]; exact List.mem_cons_self
  have hdigit := isDigit_of_mem_padded hmem
  rw [hc] at hdigit
  cases hdigit

/-- Different years are written differently, also where one of them has a sign. -/
theorem yearChars_injective {y z : Int} (h : yearChars y = yearChars z) : y = z := by
  -- Of the nine cases, those with different signs or with only one sign are impossible.
  rcases yearChars_cases y with ⟨hy, ey⟩ | ⟨hy, ey⟩ | ⟨hy, ey⟩ <;>
    rcases yearChars_cases z with ⟨hz, ez⟩ | ⟨hz, ez⟩ | ⟨hz, ez⟩ <;> rw [ey, ez] at h
  · have := padded_injective h; omega
  · exact absurd h (padded_ne_cons rfl)
  · exact absurd h (padded_ne_cons rfl)
  · exact absurd h.symm (padded_ne_cons rfl)
  · have := padded_injective (List.cons.inj h).2; omega
  · cases (List.cons.inj h).1
  · exact absurd h.symm (padded_ne_cons rfl)
  · cases (List.cons.inj h).1
  · have := padded_injective (List.cons.inj h).2; omega

/-! ### Dates -/

/-- A civil date without its year is six characters long. -/
theorem length_monthDay (c : Civil) :
    ('-' :: (padded 2 c.month ++ '-' :: padded 2 c.day)).length = 6 := by
  have hmonth := c.month_le
  have hday := c.day_le
  have hlength := daysInMonth_le c.year c.month
  rw [List.length_cons, List.length_append, List.length_cons,
    length_padded (by decide) (by omega), length_padded (by decide) (by omega)]

/-- The civil date of a day determines the day. -/
theorem civil_injective {d e : Date} (h : d.civil = e.civil) : d = e := by
  refine number_injective ?_
  rw [← d.dayNumber_civil, ← e.dayNumber_civil, h]

/-- Two dates with the same text are the same date. -/
theorem text_injective {d e : Date} (h : d.text = e.text) : d = e := by
  have hchars : d.chars = e.chars := String.ofList_injective h
  -- The parts behind the years are equally long, so the years are split off.
  obtain ⟨hyear, hrest⟩ := List.append_inj' hchars
    ((length_monthDay d.civil).trans (length_monthDay e.civil).symm)
  have hmonths : (padded 2 d.civil.month).length = (padded 2 e.civil.month).length := by
    have hd := d.civil.month_le
    have he := e.civil.month_le
    rw [length_padded (by decide) (by omega), length_padded (by decide) (by omega)]
  obtain ⟨hmonth, hday⟩ := List.append_inj (List.cons.inj hrest).2 hmonths
  have hy := yearChars_injective hyear
  have hm := padded_injective hmonth
  have hd := padded_injective (List.cons.inj hday).2
  refine civil_injective ?_
  generalize d.civil = c at *
  generalize e.civil = c' at *
  cases c
  cases c'
  cases hy
  cases hm
  cases hd
  rfl

/-- The characters of a date are digits, hyphens and a sign. -/
theorem quote_not_mem_text (d : Date) : '\'' ∉ d.text.toList := by
  have hdigits : ∀ {width n : Nat}, '\'' ∉ padded width n := fun hmem =>
    absurd (isDigit_of_mem_padded hmem) (by decide)
  have hyear : ∀ y : Int, '\'' ∉ yearChars y := by
    intro y
    rcases yearChars_cases y with ⟨-, hy⟩ | ⟨-, hy⟩ | ⟨-, hy⟩ <;> rw [hy] <;> simp [hdigits]
  show '\'' ∉ (String.ofList d.chars).toList
  rw [String.toList_ofList]
  simp [chars, hdigits, hyear]

end Date

end RecordFilter
