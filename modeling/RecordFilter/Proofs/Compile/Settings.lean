import RecordFilter.Proofs.Compile.Agreement
import RecordFilter.Proofs.Compile.Yields
import RecordFilter.Proofs.Dates.Fields
import RecordFilter.Proofs.Dates.Table

/-!
# `RecordFilter.Proofs.Compile.Settings`: what the settings and the anchor have a say in

The limit on depth decides whether a tree compiles, but not what it compiles to. The first day of
the week and the anchor are looked at by the tests that compare days, and there only by some modes:
the first day of the week by `calendarWeek`, the anchor by all but `exactDate`.

* `Node.Yields.of_maxDepth_le`: with a greater limit on depth a node has the same formula. The
  proof follows the tree.
* `Criterion.agrees_of_resolve`: a criterion has the same outcome when the filter of its value has
  the same boundaries, or when it does not compare days.
* `compile_eq_of_settings`: what a change of a setting or of the anchor leaves alone.
-/

set_option autoImplicit false

namespace RecordFilter

/-! ### The limit on depth -/

section

variable {available : List Descriptor} {dates : DateContext} {maxDepth limit : Nat}

mutual

/-- With a greater limit on depth a node has the same formula. -/
theorem Node.Yields.of_maxDepth_le (hle : maxDepth ≤ limit) :
    ∀ {node : Node} {depth : Nat} {o : Option Formula},
      node.Yields ⟨available, maxDepth⟩ dates depth o →
        node.Yields ⟨available, limit⟩ dates depth o
  | .criterion c, depth, o, h => by
    cases h with
    | test hop hd ha => exact .test hop hd ha
    | many hop hd htype hdepth hatoms ho =>
      -- A list operator needs room as well: it stands for a group one level further down.
      exact .many hop hd htype (Nat.le_trans hdepth hle) hatoms ho
  | .group conjunction children, depth, o, h => by
    cases h with
    | group hdepth hparts ho =>
      exact .group (Nat.le_trans hdepth hle) (Node.YieldsAll.of_maxDepth_le hle hparts) ho

/-- With a greater limit on depth the children of a group have the same formulas. -/
theorem Node.YieldsAll.of_maxDepth_le (hle : maxDepth ≤ limit) :
    ∀ {nodes : List Node} {depth : Nat} {parts : List Formula},
      Node.YieldsAll ⟨available, maxDepth⟩ dates depth nodes parts →
        Node.YieldsAll ⟨available, limit⟩ dates depth nodes parts
  | [], depth, parts, h => by
    cases h
    exact .nil
  | node :: rest, depth, parts, h => by
    cases h with
    | cons hfirst hrest =>
      exact .cons (Node.Yields.of_maxDepth_le hle hfirst) (Node.YieldsAll.of_maxDepth_le hle hrest)

end

end

/-! ### Tests that compare days -/

/-- The criterion is on a date column and does more than ask whether there is a date. -/
def Criterion.ComparesDays (available : List Descriptor) (c : Criterion) : Prop :=
  (∃ d, Descriptor.IsLast available c.columnId d ∧ d.type = .date) ∧
    c.operator ≠ .test .isEmpty ∧ c.operator ≠ .test .isNotEmpty

variable {s t : Surroundings} {maxDepth : Nat}

/-- A test looks at the dates only on a date column, and there only for the range of its value. -/
theorem atom_eq_of_range {dates other : DateContext} {test : ColumnTest}
    (h : test.column.type = .date → test.operator ≠ .isEmpty → test.operator ≠ .isNotEmpty →
      test.range dates = test.range other) :
    test.atom dates = test.atom other := by
  unfold ColumnTest.atom
  cases htype : test.column.type with
  | date =>
    specialize h htype
    unfold ColumnTest.dateAtom
    cases hop : test.operator with
    | compare comparison => rw [h (by simp [hop]) (by simp [hop])]
    | isWithin => rw [h (by simp [hop]) (by simp [hop])]
    | isEmpty | isNotEmpty | contains | doesNotContain | filename => rfl
  | checkbox | number | string | user | select | multiSelect | link | attachment => rfl

/-- The range of a value comes from its filter. -/
theorem range_eq_of_resolve {dates other : DateContext} {test : ColumnTest}
    (h : ∀ f, test.value.dateFilter = .ok f →
      f.resolve dates.weekStart dates.anchor = f.resolve other.weekStart other.anchor) :
    test.range dates = test.range other := by
  unfold ColumnTest.range
  cases hfilter : test.value.dateFilter with
  | error fault => rfl
  | ok f => exact h f hfilter

/-- A criterion has the same outcome when the filter of its value has the same boundaries, or when
it does not compare days. -/
theorem Criterion.agrees_of_resolve {depth : Nat} {c : Criterion}
    (hcolumns : s.available = t.available)
    (h : c.ComparesDays s.available → ∀ f, c.value.dateFilter = .ok f →
      f.resolve s.dates.weekStart s.dates.anchor = f.resolve t.dates.weekStart t.dates.anchor) :
    c.Agrees s t maxDepth depth := by
  refine Criterion.agrees_of_agreeOn (hcolumns ▸ Descriptor.agreeOn_refl _ _) ?_ ?_
  · intro d op hd hop
    refine atom_eq_of_range fun htype hempty hnotEmpty => ?_
    have hdays : c.ComparesDays s.available := by
      refine ⟨⟨d, hd, htype⟩, ?_, ?_⟩
      · simpa [hop] using hempty
      · simpa [hop] using hnotEmpty
    exact range_eq_of_resolve (h hdays)
  · -- A column that accepts a list operator does not compare days.
    intro d op v hd hop hmany
    refine atom_eq_of_range fun htype => ?_
    rw [show d.type = .date from htype] at hmany
    cases hmany

/-! ### Boundaries -/

/-- Only the calendar week asks which day weeks start on. -/
theorem resolve_eq_of_mode_ne_calendarWeek {f : DateFilter} (h : f.mode ≠ .calendarWeek)
    (weekStart other : Weekday) (anchor : Date) :
    f.resolve weekStart anchor = f.resolve other anchor := by
  unfold DateFilter.resolve
  cases hmode : f.mode with
  | calendarWeek => exact absurd hmode h
  | _ => rfl

/-- A given date does not depend on the anchor. -/
theorem resolve_eq_of_mode_eq_exactDate {f : DateFilter} (h : f.mode = .exactDate)
    (weekStart : Weekday) (anchor other : Date) :
    f.resolve weekStart anchor = f.resolve weekStart other :=
  resolve_eq_of_readsAlike ⟨rfl, fun _ => rfl, fun _ => rfl⟩ fun hne => absurd h hne

/-! ### Whole trees -/

/-- A tree that compiles does so with the same text when groups may be nested deeper. The outcome
for a tree does not depend on the first day of the week, unless a criterion compares the days of a
calendar week, and it does not depend on the anchor if all criteria that compare days do so with a
given date. -/
theorem compile_eq_of_settings (available : List Descriptor) (tree : Group) :
    (∀ maxDepth limit weekStart anchor text, maxDepth ≤ limit →
      (Compiler.mk available ⟨maxDepth, weekStart⟩).compile tree anchor = .ok text →
        (Compiler.mk available ⟨limit, weekStart⟩).compile tree anchor = .ok text) ∧
      ((∀ p ∈ tree.criteria, p.2.ComparesDays available → ¬ p.2.value.HasMode .calendarWeek) →
        ∀ maxDepth weekStart other anchor,
          (Compiler.mk available ⟨maxDepth, weekStart⟩).compile tree anchor
            = (Compiler.mk available ⟨maxDepth, other⟩).compile tree anchor) ∧
      ((∀ p ∈ tree.criteria, p.2.ComparesDays available → p.2.value.HasMode .exactDate) →
        ∀ config anchor other, (Compiler.mk available config).compile tree anchor
          = (Compiler.mk available config).compile tree other) := by
  refine ⟨?_, ?_, ?_⟩
  · intro maxDepth limit weekStart anchor text hle hok
    obtain ⟨o, ho, htext⟩ := compile_eq_ok_iff.mp hok
    exact compile_eq_ok_iff.mpr ⟨o, Node.Yields.of_maxDepth_le hle ho, htext⟩
  · -- The filter of a criterion that compares days has a mode that its value names.
    intro h maxDepth weekStart other anchor
    refine compile_eq_of_agrees rfl fun p hp => Criterion.agrees_of_resolve rfl ?_
    intro hdays f hf
    refine resolve_eq_of_mode_ne_calendarWeek (fun hmode => h p hp hdays ?_) weekStart other anchor
    exact hmode ▸ Value.hasMode_of_dateFilter hf
  · intro h config anchor other
    refine compile_eq_of_agrees rfl fun p hp => Criterion.agrees_of_resolve rfl ?_
    intro hdays f hf
    have hmode := (Value.hasMode_of_dateFilter hf).unique (h p hp hdays)
    exact resolve_eq_of_mode_eq_exactDate hmode config.weekStartsOn anchor other

/-- Of the two criteria one compares days, with a given date, and the other does not, although its
value names the calendar week. -/
theorem given_day_in_any_week :
    let available : List Descriptor := [.plain "due" "Due" .date, .plain "done" "Done" .date]
    let due : Criterion := ⟨"due", "Due", .test (.compare .le), .date (.exact "2024-02-28")⟩
    let done : Criterion := ⟨"done", "Done", .test .isEmpty, .date (.ofMode "calendarWeek")⟩
    let tree : Group := ⟨.all, [.criterion due, .group .any [.criterion done]]⟩
    let anchor : Date := ⟨738000, by decide, by decide⟩
    let text := "AND(IS_BEFORE({Due},'2024-02-29','days'), OR({Done}=BLANK()))"
    (∀ p ∈ tree.criteria, p.2.ComparesDays available → ¬ p.2.value.HasMode .calendarWeek) ∧
      (∀ p ∈ tree.criteria, p.2.ComparesDays available → p.2.value.HasMode .exactDate) ∧
      due.ComparesDays available ∧ done.value.HasMode .calendarWeek ∧
      (Compiler.mk available ⟨2, .sunday⟩).compile tree anchor = .ok text ∧
      ∀ limit weekStart other, 2 ≤ limit →
        (Compiler.mk available ⟨limit, weekStart⟩).compile tree other = .ok text := by
  intro available due done tree anchor text
  have hexact : ∀ p ∈ tree.criteria, p.2.ComparesDays available → p.2.value.HasMode .exactDate := by
    intro p hp hdays
    rcases List.mem_cons.mp hp with rfl | hp
    · exact ⟨_, rfl, rfl⟩
    · cases List.mem_singleton.mp hp
      exact absurd rfl hdays.2.1
  have hweek : ∀ p ∈ tree.criteria, p.2.ComparesDays available →
      ¬ p.2.value.HasMode .calendarWeek := by
    intro p hp hdays hmode
    cases hmode.unique (hexact p hp hdays)
  have hok : (Compiler.mk available ⟨2, .sunday⟩).compile tree anchor = .ok text := by
    decide +kernel
  refine ⟨hweek, hexact, ?_, ⟨_, rfl, rfl⟩, hok, ?_⟩
  · exact ⟨⟨_, ⟨rfl, [], [_], rfl, by decide⟩, rfl⟩, by decide, by decide⟩
  · intro limit weekStart other hle
    obtain ⟨hdepth, hstart, hanchor⟩ := compile_eq_of_settings available tree
    rw [hanchor hexact _ other anchor, hstart hweek limit weekStart .sunday anchor]
    exact hdepth 2 limit .sunday anchor text hle hok

end RecordFilter
