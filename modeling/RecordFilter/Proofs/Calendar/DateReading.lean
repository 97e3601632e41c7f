import RecordFilter.Number.Numeral
import RecordFilter.Proofs.Calendar.DayFormat
import RecordFilter.Proofs.Number.Digits

/-!
# `RecordFilter.Proofs.Calendar.DateReading`: dates read back from text

`SpellsDate` says which date ten characters name: four digits are the year, two the month and two
the day. `Civil.ofText?` reads any year, with a sign where there is one.

* `SpellsNumber.eq_padded`: a number has only one spelling of a given length.
* `Date.ofText?_eq_some_iff`: `Date.ofText?` reads exactly the texts that spell a date, and
  `SpellsDate.text_eq`: such a text is how the date is written.
* `Date.spellsDate_text_iff`: the text of a date spells it, unless the year needs a sign.
* `Civil.ofText?_text`: every text of a date reads back as the date, also with a sign.
-/

set_option autoImplicit false

namespace RecordFilter

/-! ### Numbers -/

/-- The characters are so many digits and spell the number. -/
def SpellsNumber (width : Nat) (cs : List Char) (n : Nat) : Prop :=
  cs.length = width ∧ (∀ c ∈ cs, c.isDigit = true) ∧ Nat.ofDigitChars 10 cs 0 = n

/-- A number has one spelling of a given length, that with zeros in front. -/
theorem SpellsNumber.eq_padded {width n : Nat} {cs : List Char} (h : SpellsNumber width cs n)
    (hwidth : 0 < width) : n < 10 ^ width ∧ cs = Date.padded width n := by
  obtain ⟨hlength, hdigits, hvalue⟩ := h
  have hlt := ofDigitChars_lt hdigits
  rw [hlength, hvalue] at hlt
  refine ⟨hlt, ofDigitChars_inj hdigits (fun _ => Date.isDigit_of_mem_padded) ?_ ?_⟩
  · rw [hlength, Date.length_padded hwidth hlt]
  · rw [hvalue, Date.ofDigitChars_padded]

/-- A number that fits is spelled with zeros in front. -/
theorem spellsNumber_padded {width n : Nat} (hwidth : 0 < width) (hn : n < 10 ^ width) :
    SpellsNumber width (Date.padded width n) n :=
  ⟨Date.length_padded hwidth hn, fun _ => Date.isDigit_of_mem_padded,
    Date.ofDigitChars_padded width n⟩

/-- Characters have a value when they are all digits. -/
theorem digits?_eq_some_iff {cs : List Char} {n : Nat} :
    Date.digits? cs = some n ↔
      (∀ c ∈ cs, c.isDigit = true) ∧ Nat.ofDigitChars 10 cs 0 = n := by
  unfold Date.digits?
  split
  · rename_i hdigits
    rw [List.all_eq_true] at hdigits
    rw [Option.some.injEq]
    exact ⟨fun h => ⟨hdigits, h⟩, fun h => h.2⟩
  · rename_i hdigits
    rw [List.all_eq_true] at hdigits
    exact iff_of_false nofun fun h => hdigits h.1

/-! ### Ten characters -/

/-- The text is four digits for the year, two for the month and two for the day, with hyphens
between, and they spell the date. -/
def SpellsDate (s : String) (c : Civil) : Prop :=
  ∃ (year month day : List Char) (y : Nat), s.toList = year ++ '-' :: (month ++ '-' :: day) ∧
    c.year = y ∧ SpellsNumber 4 year y ∧ SpellsNumber 2 month c.month ∧ SpellsNumber 2 day c.day

namespace SpellsDate

variable {s : String} {c : Civil}

/-- The empty text spells no date. -/
theorem ne_empty (h : SpellsDate s c) : s ≠ "" := by
  intro hs
  subst hs
  obtain ⟨_, _, _, _, hchars, _⟩ := h
  simp at hchars

/-- A year that is spelled fits four digits. -/
theorem hasShortYear (h : SpellsDate s c) : c.HasShortYear := by
  obtain ⟨_, _, _, y, _, hyear, hy, _, _⟩ := h
  have hlt := (hy.eq_padded (by decide)).1
  exact ⟨by omega, by omega⟩

end SpellsDate

/-- A date is that of a year, a month and a day. -/
theorem Civil.of?_eq_some_iff {year : Int} {month day : Nat} {c : Civil} :
    of? year month day = some c ↔ c.year = year ∧ c.month = month ∧ c.day = day := by
  unfold of?
  constructor
  · intro h
    split at h
    · cases h
      exact ⟨rfl, rfl, rfl⟩
    · cases h
  · rintro ⟨rfl, rfl, rfl⟩
    exact dif_pos ⟨c.one_le_month, c.month_le, c.one_le_day, c.day_le⟩

namespace Date

/-- A day has a civil date when they have the same number. -/
theorem civil_eq_iff {d : Date} {c : Civil} : d.civil = c ↔ d.number = c.dayNumber := by
  rw [← Civil.dayNumber_inj, dayNumber_civil]

/-- A supported day is that of a year, a month and a day. -/
theorem of?_eq_some_iff {year : Int} {month day : Nat} {d : Date} :
    of? year month day = some d ↔
      d.civil.year = year ∧ d.civil.month = month ∧ d.civil.day = day := by
  rw [← Civil.of?_eq_some_iff, of?, Option.bind_eq_some_iff]
  simp only [ofCivil?, ofNumber?_eq_some_iff, ← civil_eq_iff]
  constructor
  · rintro ⟨c, hc, rfl⟩
    exact hc
  · intro h
    exact ⟨_, h, rfl⟩

/-- Ten characters are read in three parts. -/
theorem ofChars?_append {year month day : List Char} (hyear : year.length = 4)
    (hmonth : month.length = 2) (hday : day.length = 2) :
    ofChars? (year ++ '-' :: (month ++ '-' :: day)) =
      (digits? year).bind fun y => (digits? month).bind fun m => (digits? day).bind fun d =>
        of? y m d := by
  match year, hyear, month, hmonth, day, hday with
  | [_, _, _, _], _, [_, _], _, [_, _], _ => rfl

/-- Other texts than ten characters in three parts are not read. -/
theorem exists_append_of_ofChars? {cs : List Char} {d : Date} (h : ofChars? cs = some d) :
    ∃ year month day, cs = year ++ '-' :: (month ++ '-' :: day) ∧ year.length = 4 ∧
      month.length = 2 ∧ day.length = 2 := by
  unfold ofChars? at h
  split at h
  · rename_i y1 y2 y3 y4 m1 m2 d1 d2
    exact ⟨[y1, y2, y3, y4], [m1, m2], [d1, d2], rfl, rfl, rfl, rfl⟩
  · cases h

/-- A text is read as the date that it spells. -/
theorem ofText?_eq_some_iff {s : String} {d : Date} :
    ofText? s = some d ↔ SpellsDate s d.civil := by
  unfold ofText?
  constructor
  · intro h
    obtain ⟨year, month, day, hs, hyear, hmonth, hday⟩ := exists_append_of_ofChars? h
    rw [hs, ofChars?_append hyear hmonth hday, Option.bind_eq_some_iff] at h
    obtain ⟨y, hy, h⟩ := h
    obtain ⟨m, hm, h⟩ := Option.bind_eq_some_iff.mp h
    obtain ⟨n, hn, h⟩ := Option.bind_eq_some_iff.mp h
    obtain ⟨hdyear, hdmonth, hdday⟩ := of?_eq_some_iff.mp h
    rw [hdmonth.symm] at hm
    rw [hdday.symm] at hn
    exact ⟨year, month, day, y, hs, hdyear, ⟨hyear, digits?_eq_some_iff.mp hy⟩,
      ⟨hmonth, digits?_eq_some_iff.mp hm⟩, ⟨hday, digits?_eq_some_iff.mp hn⟩⟩
  · intro ⟨year, month, day, y, hs, hyear, hy, hm, hn⟩
    rw [hs, ofChars?_append hy.1 hm.1 hn.1, digits?_eq_some_iff.mpr hy.2,
      digits?_eq_some_iff.mpr hm.2, digits?_eq_some_iff.mpr hn.2]
    exact of?_eq_some_iff.mpr ⟨hyear, rfl, rfl⟩

/-- The text of a date spells it, unless the year needs a sign. -/
theorem spellsDate_text_iff (d : Date) : SpellsDate d.text d.civil ↔ d.civil.HasShortYear := by
  have hmonth := d.civil.month_le
  have hday := d.civil.day_le
  have hdays := daysInMonth_le d.civil.year d.civil.month
  constructor
  · exact SpellsDate.hasShortYear
  · intro hyear
    have hchars : d.text.toList = d.chars := String.toList_ofList
    rw [chars, yearChars,
      if_pos (show 0 ≤ d.civil.year ∧ d.civil.year ≤ 9999 from hyear)] at hchars
    obtain ⟨hfirst, hlast⟩ := hyear
    exact ⟨_, _, _, d.civil.year.natAbs, hchars, by omega,
      spellsNumber_padded (by decide) (by omega), spellsNumber_padded (by decide) (by omega),
      spellsNumber_padded (by decide) (by omega)⟩

end Date

/-- A text that spells a date is the text of the date. -/
theorem SpellsDate.text_eq {s : String} {d : Date} (h : SpellsDate s d.civil) : d.text = s := by
  obtain ⟨year, month, day, y, hs, hyear, hy, hm, hn⟩ := h
  obtain ⟨hlt, hy⟩ := hy.eq_padded (by decide)
  obtain ⟨-, hm⟩ := hm.eq_padded (by decide)
  obtain ⟨-, hn⟩ := hn.eq_padded (by decide)
  have hshort : 0 ≤ d.civil.year ∧ d.civil.year ≤ 9999 := by omega
  have hnat : d.civil.year.natAbs = y := by omega
  rw [Date.text, Date.chars, Date.yearChars, if_pos hshort, hnat, ← hy, ← hm, ← hn, ← hs,
    String.ofList_toList]

/-! ### Any year -/

/-- The date of a year, a month and a day with hyphens between. The year can have any number of
digits and a sign. -/
def Civil.ofChars? (cs : List Char) : Option Civil :=
  let (negative, rest) := Numeral.readSign cs
  match rest.dropWhile Char.isDigit with
  | ['-', m1, m2, '-', d1, d2] => do
    let year ← Date.digits? (rest.takeWhile Char.isDigit)
    let month ← Date.digits? [m1, m2]
    let day ← Date.digits? [d1, d2]
    Civil.of? (if negative then -(year : Int) else year) month day
  | _ => none

/-- The date that a text gives. -/
def Civil.ofText? (s : String) : Option Civil :=
  ofChars? s.toList

namespace Civil

/-- The digits of the year end at the hyphen. -/
theorem yearDigits_append {digits : List Char} (h : ∀ c ∈ digits, c.isDigit = true)
    (r : List Char) :
    (digits ++ '-' :: r).takeWhile Char.isDigit = digits ∧
      (digits ++ '-' :: r).dropWhile Char.isDigit = '-' :: r := by
  rw [List.takeWhile_append_of_pos h, List.dropWhile_append_of_pos h]
  constructor
  · simp [show ('-' : Char).isDigit = false from rfl]
  · simp [show ('-' : Char).isDigit = false from rfl]

/-- A date is read in four parts. -/
theorem ofChars?_eq_some {cs digits month day : List Char} {negative : Bool} {n : Nat} {c : Civil}
    (hsign : Numeral.readSign cs = (negative, digits ++ '-' :: (month ++ '-' :: day)))
    (hdigits : ∀ ch ∈ digits, ch.isDigit = true) (hvalue : Nat.ofDigitChars 10 digits 0 = n)
    (hyear : c.year = if negative then -(n : Int) else n)
    (hmonth : SpellsNumber 2 month c.month) (hday : SpellsNumber 2 day c.day) :
    ofChars? cs = some c := by
  match month, hmonth.1, day, hday.1 with
  | [m1, m2], _, [d1, d2], _ =>
    obtain ⟨htake, hdrop⟩ := yearDigits_append hdigits [m1, m2, '-', d1, d2]
    unfold ofChars?
    rw [hsign]
    simp only [htake, hdrop, List.cons_append, List.nil_append,
      digits?_eq_some_iff.mpr ⟨hdigits, hvalue⟩, digits?_eq_some_iff.mpr hmonth.2,
      digits?_eq_some_iff.mpr hday.2, Option.bind_eq_bind, Option.bind_some]
    exact of?_eq_some_iff.mpr ⟨hyear, rfl, rfl⟩

/-- A padded number has no sign in front. -/
theorem readSign_padded (n : Nat) (r : List Char) :
    Numeral.readSign (Date.padded 4 n ++ r) = (false, Date.padded 4 n ++ r) := by
  have hlength := Date.le_length_padded 4 n
  cases hdigits : Date.padded 4 n with
  | nil =>
    rw [hdigits] at hlength
    cases hlength
  | cons c cs =>
    have hc : c.isDigit = true :=
      Date.isDigit_of_mem_padded (hdigits ▸ List.mem_cons_self : c ∈ Date.padded 4 n)
    rw [List.cons_append]
    unfold Numeral.readSign
    split
    · rename_i heq
      cases heq
      cases hc
    · rename_i heq
      cases heq
      cases hc
    · rfl

/-- The text of a date reads back as the date, whatever its year is. -/
theorem ofText?_text (d : Date) : ofText? d.text = some d.civil := by
  have hchars : d.text.toList = d.chars := String.toList_ofList
  have hmonth := d.civil.month_le
  have hday := d.civil.day_le
  have hdays := daysInMonth_le d.civil.year d.civil.month
  have hm : SpellsNumber 2 (Date.padded 2 d.civil.month) d.civil.month :=
    spellsNumber_padded (by decide) (by omega)
  have hn : SpellsNumber 2 (Date.padded 2 d.civil.day) d.civil.day :=
    spellsNumber_padded (by decide) (by omega)
  have hdigits : ∀ c ∈ Date.padded 4 d.civil.year.natAbs, c.isDigit = true :=
    fun _ => Date.isDigit_of_mem_padded
  have hvalue := Date.ofDigitChars_padded 4 d.civil.year.natAbs
  rw [ofText?, hchars, Date.chars]
  -- The year has no sign, a minus or a plus.
  rcases Date.yearChars_cases d.civil.year with ⟨hsign, hy⟩ | ⟨hsign, hy⟩ | ⟨hsign, hy⟩
  · rw [hy]
    refine ofChars?_eq_some (readSign_padded _ _) hdigits hvalue ?_ hm hn
    show d.civil.year = (d.civil.year.natAbs : Int)
    omega
  · rw [hy]
    refine @ofChars?_eq_some _ _ _ _ true _ _ rfl hdigits hvalue ?_ hm hn
    show d.civil.year = -(d.civil.year.natAbs : Int)
    omega
  · rw [hy]
    refine @ofChars?_eq_some _ _ _ _ false _ _ rfl hdigits hvalue ?_ hm hn
    show d.civil.year = (d.civil.year.natAbs : Int)
    omega

end Civil

end RecordFilter
