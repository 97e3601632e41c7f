import RecordFilter.Proofs.Compile.Settings
import RecordFilter.Proofs.Compile.Unambiguous
import RecordFilter.Proofs.Dates.Years
import RecordFilter.Proofs.Formula.Days

/-!
# `RecordFilter.Proofs.Compile.ComparedDays`: which days a formula names

Only criteria that compare days bring days into a formula: the boundaries of their filters, and for
the comparisons that include the day itself the day next to it.

* `AtomRule.mem_days_iff`: the days in a test.
* `Node.Yields.mem_days_iff`: the days in the formula of a node are those that its criteria compare
  with. The proof follows the tree.
* `days_of_compile`: when every day of a text is written as four digits, two digits and two digits.
  Nothing but the year of a day decides this. The year fits in ordinary use, but nothing keeps a
  number of days, or an anchor at either end of the four-digit years, from leading to one that
  does not.
-/

set_option autoImplicit false

namespace RecordFilter

/-! ### The days of a criterion -/

/-- With the two boundaries of a filter, the operator compares with this day. -/
def Operator.Test.ComparesWith (start stop day : Civil) : Operator.Test → Prop
  | .compare .eq | .compare .ne | .compare .lt | .compare .gt => day = start
  | .compare .le => start.later 1 = day
  | .compare .ge => day.later 1 = start
  | .isWithin => day = start ∨ day = stop
  | .contains | .doesNotContain | .filename | .isEmpty | .isNotEmpty => False

/-- With the value, the operator compares with this day. -/
def Value.ComparesWith (dates : DateContext) (v : Value) (op : Operator.Test) (day : Civil) :
    Prop :=
  ∃ f start stop, v.dateFilter = .ok f ∧
    f.HasBoundaries dates.weekStart dates.anchor.civil start stop ∧ op.ComparesWith start stop day

/-- The criterion is on a date column and compares it with this day. -/
def Criterion.ComparesWith (available : List Descriptor) (dates : DateContext) (c : Criterion)
    (day : Civil) : Prop :=
  ∃ d op, Descriptor.IsLast available c.columnId d ∧ d.type = .date ∧ c.operator = .test op ∧
    c.value.ComparesWith dates op day

variable {ctx : LoweringContext} {dates : DateContext} {day : Civil}

/-- A criterion that compares with a day compares days. -/
theorem Criterion.ComparesWith.comparesDays {available : List Descriptor} {c : Criterion}
    (h : c.ComparesWith available dates day) : c.ComparesDays available := by
  obtain ⟨d, op, hd, htype, hop, f, start, stop, -, -, hday⟩ := h
  refine ⟨⟨d, hd, htype⟩, ?_, ?_⟩
  · intro heq
    cases hop.symm.trans heq
    exact hday
  · intro heq
    cases hop.symm.trans heq
    exact hday

/-! ### The days of a test -/

section

variable {type : ColumnType} {name : String} {op : Operator.Test} {v : Value}

/-- A value compares with days that follow from its range. -/
theorem Value.HasRange.comparesWith_iff {r : DateRange} (h : v.HasRange dates r) :
    v.ComparesWith dates op day ↔ op.ComparesWith r.start.civil r.stop.civil day := by
  obtain ⟨f, hf, hr⟩ := h
  have hboundaries := resolve_eq_ok_iff_hasBoundaries.mp hr
  constructor
  · -- A value has one filter at most, and a filter one pair of boundaries.
    intro ⟨g, start, stop, hg, hgiven, hday⟩
    cases Except.ok.inj (hf.symm.trans hg)
    obtain ⟨rfl, rfl⟩ := hasBoundaries_unique hboundaries hgiven
    exact hday
  · intro hday
    exact ⟨f, _, _, hf, hboundaries, hday⟩

/-- The days in a test are those that its operator compares with, on a date column. -/
theorem AtomRule.mem_days_iff {a : Atom} (h : AtomRule dates type name op v a) :
    day ∈ a.days.map Date.civil ↔ type = .date ∧ v.ComparesWith dates op day := by
  -- A test without days is not on a date column, or does not look at its value.
  have hother : type ≠ .date → (day ∈ ([] : List Civil) ↔
      type = .date ∧ v.ComparesWith dates op day) := fun htype => by simp [htype]
  cases h with
  | blank | notBlank =>
    refine iff_of_false List.not_mem_nil ?_
    intro ⟨_, f, start, stop, _, _, hday⟩
    exact hday
  | checked _ ht => exact hother (by simp [ht])
  | compare _ ht | found _ ht | notFound ht =>
    refine hother ?_
    intro htype
    rw [htype] at ht
    cases ht
  | sameDay ht hr | notSameDay ht hr | before ht hr | after ht hr =>
    rw [hr.comparesWith_iff]
    simp [ht, Atom.days, Operator.Test.ComparesWith]
  | within ht hr =>
    rw [hr.comparesWith_iff]
    simp [ht, Atom.days, Operator.Test.ComparesWith]
  | beforeNext ht hr hd =>
    -- The test names the day after the boundary, which is given by its number.
    rw [hr.comparesWith_iff]
    simp only [ht, Atom.days, Operator.Test.ComparesWith, List.map_cons, List.map_nil,
      List.mem_singleton, true_and, ← Civil.dayNumber_inj, Civil.dayNumber_later,
      Date.dayNumber_civil, hd]
    omega
  | afterPrevious ht hr hd =>
    rw [hr.comparesWith_iff]
    simp only [ht, Atom.days, Operator.Test.ComparesWith, List.map_cons, List.map_nil,
      List.mem_singleton, true_and, ← Civil.dayNumber_inj, Civil.dayNumber_later,
      Date.dayNumber_civil, hd]
    omega

/-- Tests of values on a column that is no date column have no days. -/
theorem days_of_forall₂ {values : List Value} {atoms : List Atom} (htype : type ≠ .date)
    (h : List.Forall₂ (AtomRule dates type name op) values atoms) :
    atoms.flatMap Atom.days = [] := by
  induction h with
  | nil => rfl
  | @cons v a values atoms ha _ ih =>
    have hnone : a.days = [] := by
      apply List.eq_nil_iff_forall_not_mem.mpr
      intro d hd
      exact htype (ha.mem_days_iff.mp (List.mem_map_of_mem hd)).1
    rw [List.flatMap_cons, hnone, ih, List.append_nil]

end

/-! ### The days of a tree -/

/-- A group has the days of its children. -/
theorem Conjunction.Joins.daysAll_eq {conjunction : Conjunction} {parts : List Formula}
    {o : Option Formula} (h : conjunction.Joins parts o) :
    Formula.daysAll o.toList = Formula.daysAll parts := by
  cases h with
  | nothing => rfl
  | group f rest => simp [Formula.daysAll, Formula.days]

/-- The days in the formula of a criterion are those that it compares with. -/
theorem criterion_mem_days_iff {depth : Nat} {c : Criterion} {o : Option Formula}
    (h : (Node.criterion c).Yields ctx dates depth o) :
    day ∈ (Formula.daysAll o.toList).map Date.civil ↔
      c.ComparesWith ctx.available dates day := by
  cases h with
  | @test _ _ op d a hop hd ha =>
    have hdays : Formula.daysAll (some (Formula.atom a)).toList = a.days := by
      simp [Formula.daysAll, Formula.days]
    rw [hdays, ha.mem_days_iff]
    constructor
    · intro h
      exact ⟨d, op, hd, h.1, hop, h.2⟩
    · intro h
      obtain ⟨e, test, he, htype, htest, hday⟩ := h
      cases hd.unique he
      cases hop.symm.trans htest
      exact ⟨htype, hday⟩
  | many hop hd htype hdepth hatoms hjoins =>
    have hdate : ∀ {type : ColumnType}, type.isSingleValued = false → type ≠ .date := by
      intro type hmany hdate
      rw [hdate] at hmany
      cases hmany
    rw [hjoins.daysAll_eq, Formula.daysAll_map_atom, days_of_forall₂ (hdate htype) hatoms]
    -- A list operator compares with no day.
    refine iff_of_false List.not_mem_nil ?_
    intro h
    obtain ⟨_, test, _, _, htest, _⟩ := h
    cases hop.symm.trans htest

mutual

/-- The days in the formula of a node are those that its criteria compare with. -/
theorem Node.Yields.mem_days_iff : ∀ {node : Node} {depth : Nat} {o : Option Formula},
    node.Yields ctx dates depth o →
      (day ∈ (Formula.daysAll o.toList).map Date.civil ↔
        ∃ p ∈ node.criteria depth, p.2.ComparesWith ctx.available dates day)
  | .criterion c, depth, o, h => by
    rw [criterion_mem_days_iff h, Node.criteria]
    simp
  | .group conjunction children, depth, o, h => by
    cases h with
    | group hdepth hparts hjoins =>
      rw [hjoins.daysAll_eq, Node.YieldsAll.mem_days_iff hparts]
      rfl

/-- The days in the formulas of the children of a group are those that their criteria compare
with. -/
theorem Node.YieldsAll.mem_days_iff : ∀ {nodes : List Node} {depth : Nat} {parts : List Formula},
    Node.YieldsAll ctx dates depth nodes parts →
      (day ∈ (Formula.daysAll parts).map Date.civil ↔
        ∃ p ∈ Node.criteriaAll depth nodes, p.2.ComparesWith ctx.available dates day)
  | [], depth, parts, h => by
    cases h
    simp [Formula.daysAll, Node.criteriaAll]
  | node :: rest, depth, parts, h => by
    cases h with
    | cons hfirst hrest =>
      have hnode := Node.Yields.mem_days_iff hfirst
      have hnodes := Node.YieldsAll.mem_days_iff hrest
      rw [Formula.daysAll_append, List.map_append, List.mem_append, hnode, hnodes,
        Node.criteriaAll]
      simp only [List.mem_append, or_and_right, exists_or]

end

/-- All days in the formula of a tree have the format exactly when all days that its criteria
compare with have years that fit. -/
theorem Group.Yields.hasDayFormat_iff {c : Compiler} {tree : Group} {anchor : Date}
    {o : Option Formula} (h : tree.Yields c anchor o) :
    (∀ d ∈ Formula.daysAll o.toList, HasDayFormat d.text) ↔
      ∀ p ∈ tree.criteria, ∀ day,
        p.2.ComparesWith c.available ⟨anchor, c.config.weekStartsOn⟩ day → day.HasShortYear := by
  constructor
  · intro hformat p hp day hday
    obtain ⟨d, hd, hcivil⟩ := List.mem_map.mp (h.mem_days_iff.mpr ⟨p, hp, hday⟩)
    rw [← hcivil]
    exact d.hasDayFormat_text_iff.mp (hformat d hd)
  · intro hyears d hd
    obtain ⟨p, hp, hday⟩ := h.mem_days_iff.mp (List.mem_map_of_mem hd)
    exact d.hasDayFormat_text_iff.mpr (hyears p hp d.civil hday)

/-! ### Ordinary use -/

/-- The criterion does not compare days, or it does so with days that follow from the anchor alone,
or with a given date itself. -/
def Criterion.IsOrdinary (available : List Descriptor) (c : Criterion) : Prop :=
  c.ComparesDays available → ∀ mode, c.value.HasMode mode →
    mode.IsRelative ∨ mode = .exactDate ∧ c.operator ≠ .test (.compare .le) ∧
      c.operator ≠ .test (.compare .ge)

/-- A day that is compared with is a boundary, or next to the first boundary. -/
theorem Operator.Test.ComparesWith.isNear {op : Operator.Test} {start stop : Civil}
    (h : op.ComparesWith start stop day) : start.IsNear day ∨ day = stop := by
  cases op with
  | compare comparison =>
    cases comparison with
    | eq | ne | gt | lt => exact .inl (h ▸ .refl _)
    | le => exact .inl (Civil.isNear_of_later h (by decide))
    | ge => exact .inl (Civil.isNear_of_later h (by decide)).symm
  | isWithin =>
    rcases h with h | h
    · exact .inl (h ▸ .refl _)
    · exact .inr h
  | contains | doesNotContain | filename | isEmpty | isNotEmpty => exact h.elim

/-- Some years away from both ends of the years with four digits, an ordinary criterion compares
only with days whose years fit. -/
theorem Criterion.IsOrdinary.hasShortYear {available : List Descriptor} {c : Criterion}
    (h : c.IsOrdinary available) (hday : c.ComparesWith available dates day)
    (hfirst : 2 ≤ dates.anchor.civil.year) (hlast : dates.anchor.civil.year ≤ 9997) :
    day.HasShortYear := by
  have hmode := h hday.comparesDays
  obtain ⟨d, op, hd, htype, hop, f, start, stop, hf, hboundaries, hday⟩ := hday
  rcases hmode f.mode (Value.hasMode_of_dateFilter hf) with hrelative | ⟨hexact, hle, hge⟩
  · -- The boundaries are near the anchor, and the day is near them or one of them.
    obtain ⟨hstart, hstop⟩ := isNear_of_hasBoundaries hrelative hboundaries
    unfold Civil.IsNear at hstart hstop
    rcases hday.isNear with hnear | rfl
    · unfold Civil.IsNear at hnear
      exact ⟨by omega, by omega⟩
    · exact ⟨by omega, by omega⟩
  · -- Both boundaries are the given date, and no operator is left that goes on to another day.
    unfold DateFilter.HasBoundaries at hboundaries
    rw [hexact] at hboundaries
    obtain ⟨input, hinput, rfl, rfl⟩ := hboundaries
    have hyear := Value.year_of_input hf hinput
    rw [hop] at hle hge
    cases op with
    | compare comparison =>
      cases comparison with
      | eq | ne | gt | lt => exact hday ▸ hyear
      | le => exact absurd rfl hle
      | ge => exact absurd rfl hge
    | isWithin =>
      rcases hday with rfl | rfl
      · exact hyear
      · exact hyear
    | contains | doesNotContain | filename | isEmpty | isNotEmpty => exact hday.elim

/-! ### Whole trees -/

/-- No phrase has the empty text. -/
theorem Phrase.Derives.ne_nil {e : Phrase} {cs : List Char} (h : e.Derives cs) : cs ≠ [] := by
  cases h with
  | clause h => cases h <;> simp [columnChars, callChars]
  | group _ h => simp

/-- A text that compiles has the days of a formula of the tree, and they are what a reader of the
text finds between the quotes of days. They all have the format of days exactly when the years of
the days that the criteria compare with all fit four digits. In ordinary use they do, unless the
anchor is near the ends of these years. -/
theorem days_of_compile (c : Compiler) (tree : Group) (anchor : Date) (text : String)
    (hok : c.compile tree anchor = .ok text) :
    ∃ o, tree.Yields c anchor o ∧ textOf o = text ∧
      ((∀ p ∈ tree.criteria, '}' ∉ p.2.columnName.toList) → ∀ e : Phrase,
        e.Derives text.toList → e.days = (Formula.daysAll o.toList).map Date.text) ∧
      ((∀ d ∈ Formula.daysAll o.toList, HasDayFormat d.text) ↔
        ∀ p ∈ tree.criteria, ∀ day,
          p.2.ComparesWith c.available ⟨anchor, c.config.weekStartsOn⟩ day →
            day.HasShortYear) ∧
      (2 ≤ anchor.civil.year → anchor.civil.year ≤ 9997 →
        (∀ p ∈ tree.criteria, p.2.IsOrdinary c.available) →
          ∀ d ∈ Formula.daysAll o.toList, HasDayFormat d.text) := by
  obtain ⟨o, ho, htext⟩ := compile_eq_ok_iff.mp hok
  refine ⟨o, ho, htext, ?_, ho.hasDayFormat_iff, ?_⟩
  · intro hnames e he
    cases o with
    | none =>
      -- A tree without a formula has the empty text, and this is the text of no phrase.
      have hempty : text.toList = [] := by
        rw [← htext]
        rfl
      exact absurd hempty he.ne_nil
    | some f =>
      have hf : f.phrase.Derives text.toList := by
        rw [← htext]
        exact Node.Yields.derives ho hnames
      rw [Phrase.derives_unique he hf, f.days_phrase]
      simp [Formula.daysAll]
  · intro hfirst hlast hordinary
    refine ho.hasDayFormat_iff.mpr ?_
    intro p hp day hday
    exact (hordinary p hp).hasShortYear hday hfirst hlast

/-- A day next to a month ago and a given date, in a year far from both ends. -/
theorem ordinary_days_in_format :
    let c : Compiler := ⟨[.plain "due" "Due" .date], .standard⟩
    let late : Node := .criterion
      ⟨"due", "Due", .test (.compare .ge), .date (.ofMode "oneMonthAgo")⟩
    let given : Node := .criterion ⟨"due", "Due", .test (.compare .eq), .date (.exact "0099-12-31")⟩
    let tree : Group := ⟨.all, [late, .group .any [given]]⟩
    let anchor : Date := ⟨738955, by decide, by decide⟩
    let text := "AND(IS_AFTER({Due},'2024-02-09','days'), OR(IS_SAME({Due},'0099-12-31','days')))"
    c.compile tree anchor = .ok text ∧ 2 ≤ anchor.civil.year ∧ anchor.civil.year ≤ 9997 ∧
      (∀ p ∈ tree.criteria, p.2.IsOrdinary c.available) ∧
      ∃ o, tree.Yields c anchor o ∧ textOf o = text ∧
        ∀ d ∈ Formula.daysAll o.toList, HasDayFormat d.text := by
  intro c late given tree anchor text
  have hok : c.compile tree anchor = .ok text := by decide +kernel
  have hordinary : ∀ p ∈ tree.criteria, p.2.IsOrdinary c.available := by
    intro p hp _ mode hmode
    rcases List.mem_cons.mp hp with rfl | hp
    · cases hmode.unique (show Value.HasMode _ .oneMonthAgo from ⟨_, rfl, rfl⟩)
      exact .inl ⟨rfl, by decide⟩
    · cases List.mem_singleton.mp hp
      cases hmode.unique (show Value.HasMode _ .exactDate from ⟨_, rfl, rfl⟩)
      exact .inr ⟨rfl, by decide, by decide⟩
  have hfirst : 2 ≤ anchor.civil.year := by decide
  have hlast : anchor.civil.year ≤ 9997 := by decide
  obtain ⟨o, ho, htext, -, -, hformat⟩ := days_of_compile c tree anchor text hok
  exact ⟨hok, hfirst, hlast, hordinary, o, ho, htext, hformat hfirst hlast hordinary⟩

/-- From an anchor of this century, a number of days can lead to a year with five digits. -/
theorem far_day_out_of_format :
    let c : Compiler := ⟨[.plain "d" "Due" .date], .standard⟩
    let ahead : DateValue :=
      ⟨some (.text "daysFromNow"), some (.number (.integer 3000000 (by decide))), none⟩
    let tree : Group := ⟨.all, [.criterion ⟨"d", "Due", .test (.compare .eq), .date ahead⟩]⟩
    let anchor : Date := ⟨738955, by decide, by decide⟩
    let text := "AND(IS_SAME({Due},'+10237-11-29','days'))"
    anchor.civil.HasShortYear ∧ c.compile tree anchor = .ok text ∧
      ∃ e : Phrase, e.Derives text.toList ∧ "+10237-11-29" ∈ e.days ∧
        ¬ HasDayFormat "+10237-11-29" := by
  intro c ahead tree anchor text
  have hok : c.compile tree anchor = .ok text := by decide +kernel
  have hname : IsColumnName "Due" := by
    unfold IsColumnName
    decide
  have hday : IsDayText "+10237-11-29" := by
    unfold IsDayText
    decide
  have htext : text.toList = "AND".toList
      ++ '(' :: (callChars "IS_SAME" "Due" "+10237-11-29" ++ [')']) := by decide
  refine ⟨⟨by decide, by decide⟩, hok, .group .all [.clause (.sameDay "Due" "+10237-11-29")], ?_,
    List.mem_singleton.mpr rfl, ?_⟩
  · rw [htext]
    exact .group .all (.one (.clause (.sameDay hname hday)))
  · intro h
    exact absurd h.length (by decide)

end RecordFilter
