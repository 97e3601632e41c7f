import RecordFilter.Proofs.Compile.Domain
import RecordFilter.Proofs.Dates.CalendarUnits
import RecordFilter.Proofs.Formula.DayTests

/-!
# `RecordFilter.Proofs.Compile.DayComparisons`: the order of days in tests

On a date column all comparisons are made of three functions: for the same day, for an earlier day
and for a later day. So the comparisons that include the day itself ask for the days before the
next day, or after the previous day. The text of each test is read back here, and what it says of
a day is what its operator means.

* `Operator.Test.SelectsDay`: the meaning of an operator.
* `ColumnTest.HoldsOn`: what the text of a test says of a day.
* `holdsOn_iff`: the two are the same, where the test compiles.
* `day_comparisons_coherent`: how the tests of one value on one column agree with each other.
-/

set_option autoImplicit false

namespace RecordFilter

/-! ### Meanings -/

/-- The operators that compare days on a date column. -/
def Operator.Test.ComparesDays (op : Operator.Test) : Prop :=
  (∃ comparison, op = .compare comparison) ∨ op = .isWithin

/-- The operator selects the day, for a value with these boundaries. -/
def Operator.Test.SelectsDay (r : DateRange) (day : Civil) : Operator.Test → Prop
  | .compare .eq => day = r.start.civil
  | .compare .ne => day ≠ r.start.civil
  | .compare .lt => day.dayNumber < r.start.number
  | .compare .le => day.dayNumber ≤ r.start.number
  | .compare .gt => r.start.number < day.dayNumber
  | .compare .ge => r.start.number ≤ day.dayNumber
  | .isWithin => r.Surrounds day
  | .contains | .doesNotContain | .filename | .isEmpty | .isNotEmpty => False

namespace ColumnTest

/-- The test has a formula. -/
def Compiles (dates : DateContext) (t : ColumnTest) : Prop :=
  ∃ a, t.atom dates = .ok a

/-- The test has a formula, and its text reads as a test that holds on the day. -/
def HoldsOn (dates : DateContext) (t : ColumnTest) (day : Civil) : Prop :=
  ∃ a e, t.atom dates = .ok a ∧ DayTest.ofText? t.columnName a.text = some e ∧ e.Holds day

end ColumnTest

variable {dates : DateContext} {name : String} {op : Operator.Test} {v : Value} {a : Atom}
  {r : DateRange} {t : ColumnTest} {day : Civil}

/-! ### Tests with a range -/

/-- A value has one range at most. -/
theorem Value.HasRange.unique {s : DateRange} (hr : v.HasRange dates r)
    (hs : v.HasRange dates s) : r = s := by
  obtain ⟨f, hf, hr⟩ := hr
  obtain ⟨g, hg, hs⟩ := hs
  cases hf.symm.trans hg
  exact Except.ok.inj (hr.symm.trans hs)

/-- A test that compares days says of a day what its operator means. -/
theorem AtomRule.exists_dayTest (h : AtomRule dates .date name op v a)
    (hop : op.ComparesDays) (hr : v.HasRange dates r) :
    ∃ e, a.dayTest? = some (name, e) ∧ ∀ day, e.Holds day ↔ op.SelectsDay r day := by
  cases h with
  | blank | notBlank => simp [Operator.Test.ComparesDays] at hop
  | checked _ ht | compare _ ht | found _ ht | notFound ht => cases ht
  | sameDay _ hs | notSameDay _ hs =>
    cases hr.unique hs
    exact ⟨_, rfl, fun _ => Iff.rfl⟩
  | before _ hs | after _ hs | within _ hs =>
    cases hr.unique hs
    refine ⟨_, rfl, fun day => ?_⟩
    simp only [DayTest.Holds, DayFunction.Holds, Date.dayNumber_civil]
    exact Iff.rfl
  | beforeNext _ hs hd =>
    -- A day is before the next day when it is not after the boundary.
    cases hr.unique hs
    refine ⟨_, rfl, fun day => ?_⟩
    show day.dayNumber < _ ↔ day.dayNumber ≤ _
    rw [Date.dayNumber_civil, hd]
    omega
  | afterPrevious _ hs hd =>
    cases hr.unique hs
    refine ⟨_, rfl, fun day => ?_⟩
    show _ < day.dayNumber ↔ _ ≤ day.dayNumber
    rw [Date.dayNumber_civil, hd]
    omega

/-- The text of a test that compares days reads as what its operator means. -/
theorem exists_ofText?_of_atom (ht : t.column.type = .date) (hop : t.operator.ComparesDays)
    (hr : t.value.HasRange dates r) (ha : t.atom dates = .ok a) :
    ∃ e, DayTest.ofText? t.columnName a.text = some e ∧
      ∀ day, e.Holds day ↔ t.operator.SelectsDay r day := by
  have hrule := atom_eq_ok_iff.mp ha
  rw [ht] at hrule
  obtain ⟨e, he, hmeaning⟩ := hrule.exists_dayTest hop hr
  exact ⟨e, Atom.ofText?_text he, hmeaning⟩

/-- A test that compares days compiles exactly when its value has the days that it needs. -/
theorem compiles_iff_hasDays (ht : t.column.type = .date) (hop : t.operator.ComparesDays) :
    t.Compiles dates ↔ t.value.HasDays dates t.operator := by
  simp only [ColumnTest.Compiles, atom_eq_ok_iff, ht]
  constructor
  · intro ⟨a, ha⟩
    rcases ha.acceptsTest with h | h | h
    · simp [Operator.Test.ComparesDays, h] at hop
    · simp [Operator.Test.ComparesDays, h] at hop
    · exact h.2
  · exact exists_atomRule_date hop

/-- A test that compares days compiles unless it needs a day beyond the supported ones. -/
theorem compiles_iff (ht : t.column.type = .date) (hop : t.operator.ComparesDays)
    (hr : t.value.HasRange dates r) :
    t.Compiles dates ↔ (t.operator = .compare .le → r.start.number ≠ Date.latest) ∧
      (t.operator = .compare .ge → r.start.number ≠ Date.earliest) := by
  have hstart := r.start.isSupported_number
  rw [compiles_iff_hasDays ht hop, hasDays_iff]
  unfold Date.IsSupported at *
  constructor
  · intro ⟨s, hs, hle, hge⟩
    cases hr.unique hs
    exact ⟨fun h => by have := hle h; omega, fun h => by have := hge h; omega⟩
  · intro ⟨hle, hge⟩
    exact ⟨r, hr, fun h => by have := hle h; omega, fun h => by have := hge h; omega⟩

/-- Only the two operators with equality need a day besides the boundaries. -/
theorem compiles_of_ne (ht : t.column.type = .date) (hop : t.operator.ComparesDays)
    (hr : t.value.HasRange dates r) (hle : t.operator ≠ .compare .le)
    (hge : t.operator ≠ .compare .ge) : t.Compiles dates :=
  (compiles_iff ht hop hr).mpr ⟨fun h => absurd h hle, fun h => absurd h hge⟩

/-- Where a test that compares days compiles, its text holds on the days that its operator
selects. -/
theorem holdsOn_iff (ht : t.column.type = .date) (hop : t.operator.ComparesDays)
    (hr : t.value.HasRange dates r) (hcompiles : t.Compiles dates) :
    t.HoldsOn dates day ↔ t.operator.SelectsDay r day := by
  obtain ⟨a, ha⟩ := hcompiles
  obtain ⟨e, he, hmeaning⟩ := exists_ofText?_of_atom ht hop hr ha
  rw [← hmeaning]
  constructor
  · intro ⟨a', e', ha', he', hholds⟩
    cases ha.symm.trans ha'
    cases he.symm.trans he'
    exact hholds
  · intro hholds
    exact ⟨a, e, ha, he, hholds⟩

/-! ### All comparisons -/

/-- A value that a date column can be tested to be equal to can be compared with it by every
operator for days. Only for `<=` its first boundary must not be the last supported day, and for
`>=` not the first one. The texts of the tests can all be read. On each day exactly one of `<`, `=`
and `>` holds, `!=` holds where `=` does not, the operators with equality hold where one of their
two parts does, and `isWithin` holds strictly between the boundaries. -/
theorem day_comparisons_coherent (dates : DateContext) (name : String) (column : Descriptor)
    (v : Value) (hcolumn : column.type = .date)
    (heq : (ColumnTest.mk name column (.compare .eq) v).Compiles dates) :
    let test : Operator.Test → ColumnTest := fun op => ⟨name, column, op, v⟩
    ∃ r, v.HasRange dates r ∧
      (∀ op : Operator.Test, op.ComparesDays → ∀ a, (test op).atom dates = .ok a →
        ∃ e, DayTest.ofText? name a.text = some e) ∧
      (test (.compare .ne)).Compiles dates ∧ (test (.compare .lt)).Compiles dates ∧
      (test (.compare .gt)).Compiles dates ∧ (test .isWithin).Compiles dates ∧
      ((test (.compare .le)).Compiles dates ↔ r.start.number ≠ Date.latest) ∧
      ((test (.compare .ge)).Compiles dates ↔ r.start.number ≠ Date.earliest) ∧
      ∀ day,
        let holds : Operator.Test → Prop := fun op => (test op).HoldsOn dates day
        ((holds (.compare .lt) ∧ ¬ holds (.compare .eq) ∧ ¬ holds (.compare .gt)) ∨
          (¬ holds (.compare .lt) ∧ holds (.compare .eq) ∧ ¬ holds (.compare .gt)) ∨
          (¬ holds (.compare .lt) ∧ ¬ holds (.compare .eq) ∧ holds (.compare .gt))) ∧
        (holds (.compare .eq) ↔ day = r.start.civil) ∧
        (holds (.compare .ne) ↔ ¬ holds (.compare .eq)) ∧
        ((test (.compare .le)).Compiles dates →
          (holds (.compare .le) ↔ holds (.compare .lt) ∨ holds (.compare .eq))) ∧
        ((test (.compare .ge)).Compiles dates →
          (holds (.compare .ge) ↔ holds (.compare .gt) ∨ holds (.compare .eq))) ∧
        (holds .isWithin ↔ r.Surrounds day) := by
  intro test
  have htype : ∀ op, (test op).column.type = .date := fun _ => hcolumn
  have hcomparison : ∀ comparison, (Operator.Test.compare comparison).ComparesDays :=
    fun comparison => .inl ⟨comparison, rfl⟩
  have hdays := (compiles_iff_hasDays (htype _) (hcomparison .eq)).mp heq
  obtain ⟨r, hr, -⟩ := hasDays_iff.mp hdays
  have hcompiles : ∀ op : Operator.Test, op.ComparesDays → op ≠ .compare .le →
      op ≠ .compare .ge → (test op).Compiles dates := fun op hop =>
    compiles_of_ne (htype op) hop hr
  have hne := hcompiles (.compare .ne) (hcomparison .ne) (by decide) (by decide)
  have hlt := hcompiles (.compare .lt) (hcomparison .lt) (by decide) (by decide)
  have hgt := hcompiles (.compare .gt) (hcomparison .gt) (by decide) (by decide)
  have hwithin := hcompiles .isWithin (.inr rfl) (by decide) (by decide)
  have hle : (test (.compare .le)).Compiles dates ↔ _ := compiles_iff (htype _) (hcomparison .le) hr
  have hge : (test (.compare .ge)).Compiles dates ↔ _ := compiles_iff (htype _) (hcomparison .ge) hr
  refine ⟨r, hr, ?_, hne, hlt, hgt, hwithin, by simpa [test] using hle, by simpa [test] using hge,
    ?_⟩
  · intro op hop a ha
    obtain ⟨e, he, -⟩ := exists_ofText?_of_atom (htype op) hop hr ha
    exact ⟨e, he⟩
  · intro day holds
    have hholds : ∀ op : Operator.Test, op.ComparesDays → (test op).Compiles dates →
        (holds op ↔ op.SelectsDay r day) := fun op hop => holdsOn_iff (htype op) hop hr
    -- What is left is the order of the number of the day and that of the boundary.
    have hday : day = r.start.civil ↔ day.dayNumber = r.start.number := by
      rw [eq_comm, Date.civil_eq_iff, eq_comm]
    rw [hholds _ (hcomparison .lt) hlt, hholds _ (hcomparison .eq) heq,
      hholds _ (hcomparison .gt) hgt, hholds _ (hcomparison .ne) hne, hholds _ (.inr rfl) hwithin]
    refine ⟨?_, Iff.rfl, Iff.rfl, fun hle => ?_, fun hge => ?_, Iff.rfl⟩
    · simp only [Operator.Test.SelectsDay, hday]
      omega
    · rw [hholds _ (hcomparison .le) hle]
      simp only [Operator.Test.SelectsDay, hday]
      omega
    · rw [hholds _ (hcomparison .ge) hge]
      simp only [Operator.Test.SelectsDay, hday]
      omega

/-- Up to the eve of a leap day is before the leap day. -/
theorem up_to_eve_of_leap_day :
    let dates : DateContext := ⟨⟨738955, by decide, by decide⟩, .monday⟩
    let test : Operator.Test → ColumnTest := fun op =>
      ⟨"Due", .plain "due" "Due" .date, op, .date (.exact "2024-02-28")⟩
    (∃ a, (test (.compare .le)).atom dates = .ok a ∧
        a.text = "IS_BEFORE({Due},'2024-02-29','days')") ∧
      ∀ day, (test (.compare .le)).HoldsOn dates day ↔
        (test (.compare .lt)).HoldsOn dates day ∨ (test (.compare .eq)).HoldsOn dates day := by
  intro dates test
  have hle : (test (.compare .le)).atom dates =
      .ok (.before "Due" ⟨738945, by decide, by decide⟩) := by decide +kernel
  have heq : (test (.compare .eq)).atom dates =
      .ok (.sameDay "Due" ⟨738944, by decide, by decide⟩) := by decide +kernel
  obtain ⟨r, -, -, -, -, -, -, -, -, hdays⟩ := day_comparisons_coherent dates "Due"
    (.plain "due" "Due" .date) (.date (.exact "2024-02-28")) rfl ⟨_, heq⟩
  refine ⟨⟨_, hle, by decide +kernel⟩, fun day => ?_⟩
  exact (hdays day).2.2.2.1 ⟨_, hle⟩

end RecordFilter
