import RecordFilter.Dates.Range
import RecordFilter.Proofs.Calendar.Succession

/-!
# `RecordFilter.Proofs.Dates.Words`: boundaries in machine words

`DateFilter.resolve` computes with integers of any size. `DateFilter.resolveInWords` is the same
computation in words: each sum, difference and negation has to fit the word that it is computed
in, and there is no result if one does not. `resolveInWords_eq` says that each one fits when the
number of days is one that a filter can have, so that the words are never noticed. The supported
years leave room on both sides in a word of 32 bits, and the days into the week are added up
before the start of the week is subtracted, so that the difference is not negative.
-/

set_option autoImplicit false

namespace RecordFilter

/-- The words that the boundaries are computed in. -/
inductive Word where
  | int32
  | int64
  | uint32

namespace Word

/-- The least integer of a word. -/
def least : Word → Int
  | .int32 => -2147483648
  | .int64 => -9223372036854775808
  | .uint32 => 0

/-- The greatest integer of a word. -/
def greatest : Word → Int
  | .int32 => 2147483647
  | .int64 => 9223372036854775807
  | .uint32 => 4294967295

/-- The integer fits the word. -/
def Holds (w : Word) (n : Int) : Prop :=
  w.least ≤ n ∧ n ≤ w.greatest

instance (w : Word) (n : Int) : Decidable (w.Holds n) :=
  inferInstanceAs (Decidable (_ ∧ _))

/-- The result of an operation in a word, or nothing if the operation overflows. -/
def fit? (w : Word) (n : Int) : Option Int :=
  if w.Holds n then some n else none

/-- What a word of 32 bits with a sign holds. -/
theorem holds_int32_iff {n : Int} : int32.Holds n ↔ -2147483648 ≤ n ∧ n ≤ 2147483647 :=
  Iff.rfl

/-- What a word of 64 bits with a sign holds. -/
theorem holds_int64_iff {n : Int} :
    int64.Holds n ↔ -9223372036854775808 ≤ n ∧ n ≤ 9223372036854775807 :=
  Iff.rfl

/-- What a word of 32 bits without a sign holds. -/
theorem holds_uint32_iff {n : Int} : uint32.Holds n ↔ 0 ≤ n ∧ n ≤ 4294967295 :=
  Iff.rfl

end Word

/-- The boundaries of a filter, computed in words. Numbers of days have 64 bits with a sign, the
days into the week have 32 bits without one, and years have 32 bits with one. The other modes add
and subtract nothing before they shift. -/
def DateFilter.resolveInWords (weekStart : Weekday) (f : DateFilter) (anchor : Date) :
    ExceptT FilterFault Option DateRange :=
  match f.mode with
  | .daysAgo => do
    let days ← f.days
    let back ← Word.int64.fit? (-days)
    return .day (← anchor.shiftDays back)
  | .pastNumberOfDays => do
    let days ← f.days
    let length ← Word.int64.fit? (days + 1)
    let back ← Word.int64.fit? (-length)
    return ⟨← anchor.shiftDays back, ← anchor.shiftDays 1⟩
  | .nextNumberOfDays => do
    let start ← anchor.shiftDays (-1)
    let days ← f.days
    let length ← Word.int64.fit? (days + 1)
    return ⟨start, ← anchor.shiftDays length⟩
  | .calendarWeek => do
    let sum ← Word.uint32.fit? (7 + anchor.weekday.index)
    let difference ← Word.uint32.fit? (sum - weekStart.index)
    let back ← Word.int64.fit? (-(difference % 7))
    let first ← anchor.shiftDays back
    return ⟨← first.shiftDays (-1), ← first.shiftDays 7⟩
  | .calendarYear => do
    let before ← Word.int32.fit? (anchor.civil.year - 1)
    let start ← Date.supported (Date.ofCivil? (.newYearsEve before))
    let after ← Word.int32.fit? (anchor.civil.year + 1)
    return ⟨start, ← Date.supported (Date.ofCivil? (.newYear after))⟩
  | _ => ExceptT.mk (some (f.resolve weekStart anchor))

/-! ### Steps -/

/-- A step without arithmetic is the same in words. -/
theorem lift_bind_eq {α β : Type} {x : Except FilterFault α} {g : α → ExceptT FilterFault Option β}
    {h : α → Except FilterFault β} (heq : ∀ a, x = .ok a → g a = some (h a)) :
    ((liftM x : ExceptT FilterFault Option α) >>= g) = some (x >>= h) := by
  cases x with
  | error fault => rfl
  | ok a => exact heq a rfl

/-- An operation that fits its word gives its result. -/
theorem fit?_bind_eq {w : Word} {n : Int} {β : Type} {g : Int → ExceptT FilterFault Option β}
    (h : w.Holds n) : ((liftM (w.fit? n) : ExceptT FilterFault Option Int) >>= g) = g n := by
  rw [Word.fit?, if_pos h]
  rfl

/-- The number of days is the one that the filter has. -/
theorem days_eq_ok_iff {f : DateFilter} {n : Nat} : f.days = .ok n ↔ f.numberOfDays = some n := by
  unfold DateFilter.days
  cases f.numberOfDays with
  | none => simp
  | some m => simp

/-! ### Resolving -/

variable {weekStart : Weekday} {f : DateFilter} {anchor : Date}

/-- The year of a supported day leaves room in a word of 32 bits. -/
theorem year_bounds (d : Date) : -262143 ≤ d.civil.year ∧ d.civil.year ≤ 262142 := by
  rw [← Civil.IsInRange, Civil.isInRange_iff, Date.dayNumber_civil]
  exact d.isSupported_number

/-- Computed in words, the boundaries of a filter are the same: no operation overflows. -/
theorem resolveInWords_eq (hdays : ∀ n ∈ f.numberOfDays, n < numberOfDaysLimit) :
    f.resolveInWords weekStart anchor = some (f.resolve weekStart anchor) := by
  have hlt : ∀ n, f.days = .ok n → n < 4294967296 :=
    fun n hn => hdays n (days_eq_ok_iff.mp hn)
  obtain ⟨mode, days, input⟩ := f
  cases mode with
  | daysAgo =>
    refine lift_bind_eq fun n hn => ?_
    have hn' := hlt n hn
    refine (fit?_bind_eq (Word.holds_int64_iff.mpr (by omega))).trans ?_
    exact lift_bind_eq fun d _ => rfl
  | pastNumberOfDays =>
    refine lift_bind_eq fun n hn => ?_
    have hn' := hlt n hn
    refine (fit?_bind_eq (Word.holds_int64_iff.mpr (by omega))).trans ?_
    refine (fit?_bind_eq (Word.holds_int64_iff.mpr (by omega))).trans ?_
    exact lift_bind_eq fun d _ => lift_bind_eq fun e _ => rfl
  | nextNumberOfDays =>
    refine lift_bind_eq fun d _ => lift_bind_eq fun n hn => ?_
    have hn' := hlt n hn
    refine (fit?_bind_eq (Word.holds_int64_iff.mpr (by omega))).trans ?_
    exact lift_bind_eq fun e _ => rfl
  | calendarWeek =>
    -- Seven more than the weekday of the anchor is at least the weekday that weeks start on.
    have hanchor : anchor.weekday.index ≤ 6 := anchor.weekday.index_le
    have hstart : weekStart.index ≤ 6 := weekStart.index_le
    have hoffset : (7 + anchor.weekday.index - weekStart.index : Int) % 7
        = anchor.daysIntoWeek weekStart := by
      unfold Date.daysIntoWeek
      omega
    refine (fit?_bind_eq (Word.holds_uint32_iff.mpr (by omega))).trans ?_
    refine (fit?_bind_eq (Word.holds_uint32_iff.mpr (by omega))).trans ?_
    refine (fit?_bind_eq (Word.holds_int64_iff.mpr (by omega))).trans ?_
    rw [hoffset]
    exact lift_bind_eq fun first _ => lift_bind_eq fun d _ => lift_bind_eq fun e _ => rfl
  | calendarYear =>
    have hyear := year_bounds anchor
    refine (fit?_bind_eq (Word.holds_int32_iff.mpr (by omega))).trans ?_
    refine lift_bind_eq fun d _ => ?_
    refine (fit?_bind_eq (Word.holds_int32_iff.mpr (by omega))).trans ?_
    exact lift_bind_eq fun e _ => rfl
  | _ => rfl

end RecordFilter
