import RecordFilter.Dates.Filter
import RecordFilter.Proofs.Calendar.DateReading
import RecordFilter.Proofs.Support.Except

/-!
# `RecordFilter.Proofs.Dates.Fields`: what the filter of a date object keeps of its fields

A value that has a filter is a date object. The mode of the filter is the one whose name the object
gives, and its input is a date that the object spells in ten characters.

* `DateValue.checkedMode_eq_ok_iff`: a mode is given by its name and nothing else.
* `Value.hasMode_of_dateFilter`: the mode of a filter is named in the value.
* `Value.HasMode.unique`: a value names at most one mode.
* `Value.year_of_input`: the year of the input fits four digits.
-/

set_option autoImplicit false

namespace RecordFilter

open RecordFilter.Proofs.Support

/-- The value is a date object that names the mode. -/
def Value.HasMode (v : Value) (mode : DateMode) : Prop :=
  ∃ d, v = .date d ∧ d.mode = some (.text mode.name)

/-! ### Modes -/

namespace DateMode

/-- A mode is found by its name. -/
theorem ofName?_name (mode : DateMode) : ofName? mode.name = some mode := by
  cases mode <;> rfl

/-- No two modes have the same name. -/
theorem name_injective {m n : DateMode} (h : m.name = n.name) : m = n := by
  have hfound := ofName?_name n
  rw [← h, ofName?_name] at hfound
  exact Option.some.inj hfound

/-- A text is read as the mode whose name it is. -/
theorem name_of_parse {s : String} {mode : DateMode} (h : parse s = .ok mode) : mode.name = s := by
  unfold parse at h
  split at h
  · rename_i found hfound
    cases h
    simpa using List.find?_some hfound
  · cases h

end DateMode

/-- A field is accepted as a mode exactly when it is the name of the mode. -/
theorem DateValue.checkedMode_eq_ok_iff {d : DateValue} {mode : DateMode} :
    d.checkedMode = .ok mode ↔ d.mode = some (.text mode.name) := by
  unfold checkedMode
  constructor
  · intro h
    split at h
    · cases h
    · rename_i s hs
      split at h
      · cases h
      · rw [hs, DateMode.name_of_parse h]
    · cases h
    · cases h
  · intro h
    rw [h]
    show (if mode.name.isEmpty then _ else DateMode.parse mode.name) = _
    rw [if_neg (by cases mode <;> decide), DateMode.parse, DateMode.ofName?_name]

namespace Value

variable {v : Value} {f : DateFilter}

/-- A filter comes from a date object with its fields. -/
theorem exists_date_of_dateFilter (h : v.dateFilter = .ok f) :
    ∃ d : DateValue, v = .date d ∧ d.filter = .ok f := by
  cases v with
  | date d =>
    rw [dateFilter] at h
    split at h
    · cases h
    · exact ⟨d, rfl, h⟩
  | null | bool | number | text | list => cases h

/-- The fields of a filter are those of its date object, each checked on its own. -/
theorem filter_eq_ok_iff {d : DateValue} : d.filter = .ok f ↔ d.checkedDays = .ok f.numberOfDays ∧
    d.checkedInput = .ok f.input ∧ d.checkedMode = .ok f.mode := by
  unfold DateValue.filter
  constructor
  · intro h
    obtain ⟨days, hdays, h⟩ := bind_eq_ok_iff.mp h
    obtain ⟨input, hinput, h⟩ := bind_eq_ok_iff.mp h
    obtain ⟨mode, hmode, h⟩ := bind_eq_ok_iff.mp h
    cases h
    exact ⟨hdays, hinput, hmode⟩
  · intro ⟨hdays, hinput, hmode⟩
    rw [hdays, hinput, hmode]
    rfl

/-- The mode of a filter is named in the value. -/
theorem hasMode_of_dateFilter (h : v.dateFilter = .ok f) : v.HasMode f.mode := by
  obtain ⟨d, rfl, hfilter⟩ := exists_date_of_dateFilter h
  obtain ⟨-, -, hmode⟩ := filter_eq_ok_iff.mp hfilter
  exact ⟨d, rfl, DateValue.checkedMode_eq_ok_iff.mp hmode⟩

/-- A value names at most one mode. -/
theorem HasMode.unique {m n : DateMode} (hm : v.HasMode m) (hn : v.HasMode n) : m = n := by
  obtain ⟨d, rfl, hd⟩ := hm
  obtain ⟨e, he, hname⟩ := hn
  cases he
  rw [hd] at hname
  exact DateMode.name_injective (Scalar.text.inj (Option.some.inj hname))

/-- The year of the input of a filter fits four digits. -/
theorem year_of_input {d : Date} (h : v.dateFilter = .ok f) (hd : f.input = some d) :
    d.civil.HasShortYear := by
  obtain ⟨object, -, hfilter⟩ := exists_date_of_dateFilter h
  obtain ⟨-, hinput, -⟩ := filter_eq_ok_iff.mp hfilter
  rw [hd] at hinput
  unfold DateValue.checkedInput at hinput
  -- Of all the fields that can be the input, only a text that spells a date gives one.
  split at hinput
  · cases hinput
  · split at hinput
    · cases hinput
    · split at hinput
      · rename_i date hdate
        cases hinput
        exact (Date.ofText?_eq_some_iff.mp hdate).hasShortYear
      · cases hinput
  · cases hinput
  · cases hinput

end Value

end RecordFilter
