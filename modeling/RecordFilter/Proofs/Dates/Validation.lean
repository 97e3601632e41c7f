import RecordFilter.Proofs.Dates.Fields
import RecordFilter.Proofs.Dates.Table
import RecordFilter.Proofs.Support.First
import RecordFilter.Proofs.Text.Trimming

/-!
# `RecordFilter.Proofs.Dates.Validation`: which date objects are in order

The rules say what each field of a date object gives, without the functions that check it. A field
without a rule is bad. Each field has one fault when it is bad, and of several bad fields the first
is reported, with the mode as the last one.

* `SpellsDays`, `DaysRule`, `InputRule`: what the fields give.
* `DateValue.checkedDays_eq_ok_iff`, `DateValue.checkedInput_eq_ok_iff`: the checks accept exactly
  the fields that have a rule.
* `DateValue.filter_eq_error_iff`: the fault of a date object is that of its first bad field.
* `dateFilter_exact`: the same for any value, and the date objects that are built read back.
-/

set_option autoImplicit false

namespace RecordFilter

open RecordFilter.Proofs.Support

/-! ### Rules -/

/-- The characters are digits that spell the number, with an optional plus in front. -/
def SpellsDays (cs : List Char) (n : Nat) : Prop :=
  ∃ sign digits : List Char, cs = sign ++ digits ∧ (sign = [] ∨ sign = ['+']) ∧ digits ≠ [] ∧
    (∀ c ∈ digits, c.isDigit = true) ∧ Nat.ofDigitChars 10 digits 0 = n

/-- The number of days that a field gives. A blank text counts as absent, and so the field gives
none. -/
inductive DaysRule : Option Scalar → Option Nat → Prop
  | absent : DaysRule none none
  | blank {s : String} (h : ∀ c ∈ s.toList, Text.isBlank c = true) : DaysRule (some (.text s)) none
  | text {s : String} {core : List Char} {n : Nat} (hs : Text.TrimsTo s.toList core)
    (hcore : SpellsDays core n) (hn : n < numberOfDaysLimit) :
    DaysRule (some (.text s)) (some n)
  | number {n : Nat} {fits : FitsWord n} (hn : n < numberOfDaysLimit) :
    DaysRule (some (.number (.integer n fits))) (some n)

/-- The date that a field gives. The empty text counts as absent. -/
inductive InputRule : Option Scalar → Option Date → Prop
  | absent : InputRule none none
  | empty : InputRule (some (.text "")) none
  | date {s : String} {d : Date} (h : SpellsDate s d.civil) : InputRule (some (.text s)) (some d)

/-- The fields of a date object, in the order in which they are checked. -/
inductive DateField where
  | numberOfDays
  | input
  | mode
  deriving DecidableEq

/-- The fault of a field that is not the name of a mode. -/
def modeFault : Option Scalar → DateFault
  | none => .missingMode
  | some (.text s) => if s = "" then .missingMode else .unknownMode s (DateMode.similar? s)
  | some (.number _) | some (.other _) => .badMode

namespace DateValue

/-- The field is bad, with the fault. -/
def Fails (d : DateValue) : DateField → FilterFault → Prop
  | .numberOfDays, fault =>
    (∀ days, ¬ DaysRule d.numberOfDays days) ∧ fault = .invalidDate .badNumberOfDays
  | .input, fault => (∀ date, ¬ InputRule d.input date) ∧ fault = .invalidDate .badInput
  | .mode, fault =>
    (∀ m : DateMode, d.mode ≠ some (.text m.name)) ∧ fault = .invalidDate (modeFault d.mode)

/-- Some field is present and is not the empty text. -/
def HasField (d : DateValue) : Prop :=
  ∃ field ∈ [d.mode, d.numberOfDays, d.input], ∃ x, field = some x ∧ x ≠ .text ""

end DateValue

/-! ### Numbers of days -/

/-- A number of days has a digit. -/
theorem not_spellsDays_nil (n : Nat) : ¬ SpellsDays [] n := by
  intro ⟨sign, digits, hcs, _, hne, _⟩
  exact hne (List.append_eq_nil_iff.mp hcs.symm).2

/-- Characters are read as the number of days that they spell. -/
theorem daysOfChars?_eq_some_iff {cs : List Char} {n : Nat} :
    daysOfChars? cs = some n ↔ SpellsDays cs n := by
  -- What stands after the sign is read, and all digits are read by their value.
  have hdigits : ∀ digits : List Char,
      (if digits.isEmpty then none else Date.digits? digits) = some n ↔ digits ≠ [] ∧
        (∀ c ∈ digits, c.isDigit = true) ∧ Nat.ofDigitChars 10 digits 0 = n := by
    intro digits
    cases digits with
    | nil => simp
    | cons c rest =>
      rw [← digits?_eq_some_iff]
      simp
  unfold daysOfChars? SpellsDays
  rw [hdigits]
  constructor
  · intro h
    split at h
    · exact ⟨['+'], _, rfl, .inr rfl, h⟩
    · exact ⟨[], _, rfl, .inl rfl, h⟩
  · intro ⟨sign, digits, hcs, hsign, h⟩
    subst hcs
    rcases hsign with rfl | rfl
    · -- No digit is a plus, so the digits are read from the first one on.
      split
      · rename_i rest heq
        have hplus : '+' ∈ digits := by
          rw [show digits = '+' :: rest from heq]
          exact List.mem_cons_self
        exact absurd (h.2.1 '+' hplus) (by decide)
      · exact h
    · exact h

/-- What a text gives as a number of days depends on what is left between its blanks. -/
theorem daysRule_text_iff {s : String} {days : Option Nat} : DaysRule (some (.text s)) days ↔
    (Text.trimChars s.toList = [] ∧ days = none) ∨
      ∃ n, SpellsDays (Text.trimChars s.toList) n ∧ n < numberOfDaysLimit ∧ days = some n := by
  constructor
  · intro h
    cases h with
    | blank h => exact .inl ⟨Text.trimChars_eq_nil_iff.mpr h, rfl⟩
    | text hs hcore hn => exact .inr ⟨_, hs.trimChars_eq ▸ hcore, hn, rfl⟩
  · rintro (⟨hblank, rfl⟩ | ⟨n, hcore, hn, rfl⟩)
    · exact .blank (Text.trimChars_eq_nil_iff.mp hblank)
    · exact .text (Text.trimsTo_trimChars _) hcore hn

/-- A number gives a number of days when it is an integer that is not negative. -/
theorem daysRule_number_iff {n : Number} {days : Option Nat} : DaysRule (some (.number n)) days ↔
    ∃ k, n.toNat? = some k ∧ k < numberOfDaysLimit ∧ days = some k := by
  constructor
  · intro h
    cases h with
    | number hn => exact ⟨_, by simp [Number.toNat?], hn, rfl⟩
  · intro ⟨k, hk, hlimit, hdays⟩
    subst hdays
    cases n with
    | float x => cases hk
    | integer value fits =>
      have hvalue : 0 ≤ value ∧ value.toNat = k := by simpa [Number.toNat?] using hk
      obtain ⟨m, rfl⟩ := Int.eq_ofNat_of_zero_le hvalue.1
      cases hvalue.2
      exact .number hlimit

/-- A number of days that has to be there and below the limit. -/
def daysBelowLimit : Option Nat → Except FilterFault (Option Nat)
  | some n =>
    if n < numberOfDaysLimit then .ok (some n) else .error (.invalidDate .badNumberOfDays)
  | none => .error (.invalidDate .badNumberOfDays)

/-- A number that is read is accepted when it is below the limit. -/
theorem daysBelowLimit_eq_ok_iff {read days : Option Nat} : daysBelowLimit read = .ok days ↔
    ∃ n, read = some n ∧ n < numberOfDaysLimit ∧ days = some n := by
  cases read with
  | none => simp [daysBelowLimit]
  | some n =>
    by_cases hn : n < numberOfDaysLimit
    · simp [daysBelowLimit, hn, eq_comm]
    · simp [daysBelowLimit, hn]

/-- Otherwise the number of days is bad, whether it could not be read or is too great. -/
theorem fault_of_daysBelowLimit {read : Option Nat} {fault : FilterFault}
    (h : daysBelowLimit read = .error fault) : fault = .invalidDate .badNumberOfDays := by
  cases read with
  | none =>
    cases h
    rfl
  | some n =>
    by_cases hn : n < numberOfDaysLimit
    · simp [daysBelowLimit, hn] at h
    · simpa [daysBelowLimit, hn, eq_comm] using h

namespace DateValue

variable {d : DateValue} {mode input : Option Scalar} {days : Option Nat} {fault : FilterFault}

/-! ### Checks of the fields -/

/-- A text is trimmed before it is read. -/
theorem checkedDays_text (s : String) : (mk mode (some (.text s)) input).checkedDays =
    if (Text.trimChars s.toList).isEmpty then .ok none
    else daysBelowLimit (daysOfChars? (Text.trimChars s.toList)) :=
  rfl

/-- A number is looked at as it is. -/
theorem checkedDays_number (n : Number) :
    (mk mode (some (.number n)) input).checkedDays = daysBelowLimit n.toNat? :=
  rfl

/-- A field is accepted as a number of days exactly when it has a rule. -/
theorem checkedDays_eq_ok_iff : d.checkedDays = .ok days ↔ DaysRule d.numberOfDays days := by
  obtain ⟨mode, field, input⟩ := d
  show _ ↔ DaysRule field days
  cases field with
  | none =>
    constructor
    · intro h
      cases h
      exact .absent
    · intro h
      cases h
      rfl
  | some field =>
    cases field with
    | text s =>
      rw [checkedDays_text, daysRule_text_iff]
      cases hcore : Text.trimChars s.toList with
      | nil => simp [not_spellsDays_nil, eq_comm]
      | cons c rest => simp [daysBelowLimit_eq_ok_iff, daysOfChars?_eq_some_iff]
    | number n => rw [checkedDays_number, daysBelowLimit_eq_ok_iff, daysRule_number_iff]
    | other j => exact iff_of_false nofun nofun

/-- A field is accepted as an input exactly when it has a rule. -/
theorem checkedInput_eq_ok_iff {date : Option Date} :
    d.checkedInput = .ok date ↔ InputRule d.input date := by
  obtain ⟨mode, days, field⟩ := d
  show _ ↔ InputRule field date
  constructor
  · intro h
    unfold checkedInput at h
    split at h
    · rename_i hfield
      cases hfield
      cases h
      exact .absent
    · rename_i s hfield
      cases hfield
      split at h
      · rename_i hempty
        cases h
        cases String.isEmpty_iff.mp hempty
        exact .empty
      · split at h
        · rename_i hdate
          cases h
          exact .date (Date.ofText?_eq_some_iff.mp hdate)
        · cases h
    · cases h
    · cases h
  · intro h
    cases h with
    | absent | empty => rfl
    | @date s date h =>
      show (if s.isEmpty then _ else _) = _
      rw [Date.ofText?_eq_some_iff.mpr h, if_neg]
      exact fun hempty => h.ne_empty (String.isEmpty_iff.mp hempty)

/-! ### Faults of the fields -/

/-- A number of days is refused with one fault, whatever is wrong with it. -/
theorem fault_of_checkedDays (h : d.checkedDays = .error fault) :
    fault = .invalidDate .badNumberOfDays := by
  obtain ⟨mode, field, input⟩ := d
  cases field with
  | none => cases h
  | some field =>
    cases field with
    | text s =>
      rw [checkedDays_text] at h
      split at h
      · cases h
      · exact fault_of_daysBelowLimit h
    | number n => exact fault_of_daysBelowLimit h
    | other j =>
      cases h
      rfl

/-- An input is refused with one fault, whether it is no text or no date. -/
theorem fault_of_checkedInput (h : d.checkedInput = .error fault) :
    fault = .invalidDate .badInput := by
  obtain ⟨mode, days, field⟩ := d
  cases field with
  | none => cases h
  | some field =>
    cases field with
    | text s =>
      simp only [checkedInput] at h
      split at h
      · cases h
      · split at h
        · cases h
        · cases h
          rfl
    | number | other =>
      cases h
      rfl

/-- A mode is refused with the fault of what stands in the field: nothing, a text that names no
mode, or no text. -/
theorem fault_of_checkedMode (h : d.checkedMode = .error fault) :
    fault = .invalidDate (modeFault d.mode) := by
  obtain ⟨field, days, input⟩ := d
  cases field with
  | none =>
    cases h
    rfl
  | some field =>
    cases field with
    | text s =>
      unfold checkedMode at h
      by_cases hs : s = ""
      · subst hs
        cases h
        rfl
      · simp only [String.isEmpty_iff, hs, if_false, DateMode.parse] at h
        split at h
        · cases h
        · cases h
          simp [modeFault, hs]
    | number | other =>
      cases h
      rfl

/-- A check that has only one fault fails with it exactly when nothing is accepted. -/
theorem eq_error_iff_of_fault {α : Type} {x : Except FilterFault α} {P : α → Prop}
    {bad : FilterFault} (hok : ∀ a, x = .ok a ↔ P a) (hbad : ∀ e, x = .error e → e = bad) :
    x = .error fault ↔ (∀ a, ¬ P a) ∧ fault = bad := by
  cases x with
  | ok a => simp [← hok]
  | error e =>
    cases hbad e rfl
    simp [← hok, eq_comm]

/-- The check of the number of days fails exactly where the field does. -/
theorem checkedDays_eq_error_iff : d.checkedDays = .error fault ↔ d.Fails .numberOfDays fault :=
  eq_error_iff_of_fault (fun _ => checkedDays_eq_ok_iff) fun _ => fault_of_checkedDays

/-- The check of the input fails exactly where the field does. -/
theorem checkedInput_eq_error_iff : d.checkedInput = .error fault ↔ d.Fails .input fault :=
  eq_error_iff_of_fault (fun _ => checkedInput_eq_ok_iff) fun _ => fault_of_checkedInput

/-- The check of the mode fails exactly where the field does. -/
theorem checkedMode_eq_error_iff : d.checkedMode = .error fault ↔ d.Fails .mode fault :=
  eq_error_iff_of_fault (fun _ => checkedMode_eq_ok_iff) fun _ => fault_of_checkedMode

/-! ### Whole date objects -/

/-- A date object has the fault of its first bad field. -/
theorem filter_eq_error_iff :
    d.filter = .error fault ↔ FirstOf d.Fails [.numberOfDays, .input, .mode] fault := by
  -- A field is not bad when its check gives something, and then the next field decides.
  have hok : ∀ {α : Type} (x : Except FilterFault α),
      (∃ a, x = .ok a) ↔ ∀ e, ¬ x = .error e := by
    intro α x
    cases x <;> simp
  rw [firstOf_cons, firstOf_cons, firstOf_singleton]
  simp only [filter, bind_eq_error_iff, pure, Except.pure, reduceCtorEq, and_false, exists_false,
    or_false, exists_and_right, hok, checkedDays_eq_error_iff, checkedInput_eq_error_iff,
    checkedMode_eq_error_iff]

/-- Only the empty text says nothing. -/
theorem isEmpty_scalar_iff {x : Scalar} : x.isEmpty = true ↔ x = .text "" := by
  cases x <;> simp [Scalar.isEmpty]

/-- A date object is not empty when it has a field that says something. -/
theorem isEmpty_eq_false_iff : d.isEmpty = false ↔ d.HasField := by
  have hfield : ∀ field : Option Scalar,
      ¬ field.all Scalar.isEmpty = true ↔ ∃ x, field = some x ∧ x ≠ .text "" := by
    intro field
    cases field with
    | none => simp
    | some x => simp [isEmpty_scalar_iff]
  unfold isEmpty HasField
  simp only [List.all_eq_false, hfield]

/-- A date object in which some field says something is checked field by field. -/
theorem HasField.dateFilter_eq (h : d.HasField) : (Value.date d).dateFilter = d.filter := by
  rw [Value.dateFilter, isEmpty_eq_false_iff.mpr h]
  rfl

end DateValue

/-- A value has a filter exactly when it is a date object whose fields have rules. -/
theorem dateFilter_eq_ok_iff {v : Value} {f : DateFilter} :
    v.dateFilter = .ok f ↔ ∃ d, v = .date d ∧ d.mode = some (.text f.mode.name) ∧
      DaysRule d.numberOfDays f.numberOfDays ∧ InputRule d.input f.input := by
  constructor
  · intro h
    obtain ⟨d, hv, hfilter⟩ := Value.exists_date_of_dateFilter h
    obtain ⟨hdays, hinput, hmode⟩ := Value.filter_eq_ok_iff.mp hfilter
    exact ⟨d, hv, d.checkedMode_eq_ok_iff.mp hmode, d.checkedDays_eq_ok_iff.mp hdays,
      d.checkedInput_eq_ok_iff.mp hinput⟩
  · intro ⟨d, hv, hmode, hdays, hinput⟩
    -- The name of a mode is not the empty text, so the object is not empty.
    have hfield : d.HasField := by
      refine ⟨_, List.mem_cons_self, _, hmode, fun hname => ?_⟩
      cases hf : f.mode <;> simp [hf, DateMode.name] at hname
    rw [hv, hfield.dateFilter_eq]
    exact Value.filter_eq_ok_iff.mpr ⟨d.checkedDays_eq_ok_iff.mpr hdays,
      d.checkedInput_eq_ok_iff.mpr hinput, d.checkedMode_eq_ok_iff.mpr hmode⟩

/-- A text spells a supported date exactly when it is the text of the date, in a year without a
sign. -/
theorem spellsDate_iff {s : String} {day : Date} :
    SpellsDate s day.civil ↔ day.civil.HasShortYear ∧ day.text = s := by
  constructor
  · intro h
    exact ⟨h.hasShortYear, h.text_eq⟩
  · rintro ⟨hyear, rfl⟩
    exact day.spellsDate_text_iff.mpr hyear

/-- Every date that is spelled by a text is supported. -/
theorem SpellsDate.exists_date {s : String} {c : Civil} (h : SpellsDate s c) :
    ∃ day : Date, day.civil = c := by
  obtain ⟨hfirst, hlast⟩ := h.hasShortYear
  exact exists_civil_eq_iff.mpr ⟨by omega, by omega⟩

/-- The filter of a value is what its fields give, and there is one only for a date object whose
mode is the name of a mode and whose number of days and input have rules. A text that spells a date
is how the date is written, and all these dates are supported. A value that is no date object, or
one in which no field says anything, is refused as such, and otherwise the first bad field is
reported. So a date object that is built from a mode, a number and the text of a date reads back as
these. -/
theorem dateFilter_exact :
    (∀ (v : Value) (f : DateFilter), v.dateFilter = .ok f ↔
        ∃ d, v = .date d ∧ d.mode = some (.text f.mode.name) ∧
          DaysRule d.numberOfDays f.numberOfDays ∧ InputRule d.input f.input) ∧
      (∀ (s : String) (day : Date),
        SpellsDate s day.civil ↔ day.civil.HasShortYear ∧ day.text = s) ∧
      (∀ (s : String) (c : Civil), SpellsDate s c → ∃ day : Date, day.civil = c) ∧
      (∀ v : Value, (∀ d, v = .date d → ¬ d.HasField) →
        v.dateFilter = .error (.invalidDate .notADate)) ∧
      (∀ (d : DateValue) (fault : FilterFault), d.HasField →
        ((Value.date d).dateFilter = .error fault ↔
          FirstOf d.Fails [.numberOfDays, .input, .mode] fault)) ∧
      ∀ (m : DateMode) (n : Nat) (fits : FitsWord n) (day : Date),
        n < numberOfDaysLimit → day.civil.HasShortYear →
          (Value.date (((DateValue.ofMode m.name).withDays (.integer n fits)).withInput
            day.text)).dateFilter = .ok ⟨m, some n, some day⟩ := by
  refine ⟨fun _ _ => dateFilter_eq_ok_iff, fun _ _ => spellsDate_iff,
    fun _ _ => SpellsDate.exists_date, ?_, ?_, ?_⟩
  · intro v h
    cases v with
    | date d =>
      have hempty : d.isEmpty = true := by
        simpa using mt DateValue.isEmpty_eq_false_iff.mp (h d rfl)
      rw [Value.dateFilter, hempty]
      rfl
    | null | bool | number | text | list => rfl
  · intro d fault h
    rw [h.dateFilter_eq]
    exact DateValue.filter_eq_error_iff
  · intro m n fits day hn hyear
    exact dateFilter_eq_ok_iff.mpr
      ⟨_, rfl, rfl, .number hn, .date (day.spellsDate_text_iff.mpr hyear)⟩

/-- A built object for a leap day reads back. In an object with two bad fields the input comes
before the mode. -/
theorem leap_day_read_back :
    let leapDay : Date := ⟨738945, by decide, by decide⟩
    let built := ((DateValue.ofMode "daysAgo").withDays (.integer 7 (by decide))).withInput
      "2024-02-29"
    let bad : DateValue :=
      ⟨some (.text "someday"), some (.text " +7\t"), some (.text "2023-02-29")⟩
    leapDay.text = "2024-02-29" ∧ leapDay.civil.HasShortYear ∧
      (Value.date built).dateFilter = .ok ⟨.daysAgo, some 7, some leapDay⟩ ∧ bad.HasField ∧
      FirstOf bad.Fails [.numberOfDays, .input, .mode] (.invalidDate .badInput) := by
  intro leapDay built bad
  have htext : leapDay.text = "2024-02-29" := by decide +kernel
  have hyear : leapDay.civil.HasShortYear := ⟨by decide, by decide⟩
  obtain ⟨-, -, -, -, hfaults, hbuilt⟩ := dateFilter_exact
  have hread := hbuilt .daysAgo 7 (by decide) leapDay (by decide) hyear
  rw [htext] at hread
  have hfield : bad.HasField := ⟨_, List.mem_cons_self, _, rfl, by simp⟩
  have hbad : (Value.date bad).dateFilter = .error (.invalidDate .badInput) := by decide +kernel
  exact ⟨htext, hyear, hread, hfield, (hfaults bad _ hfield).mp hbad⟩

end RecordFilter
