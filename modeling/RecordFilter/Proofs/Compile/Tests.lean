import RecordFilter.Compile.Basic
import RecordFilter.Proofs.Dates.Boundaries

/-!
# `RecordFilter.Proofs.Compile.Tests`: the rules for single tests

The rules say which formula a test of one value has, without the order in which the compiler
looks at its parts. A test without a rule does not compile.

* `Descriptor.IsLast`: the column that an identifier stands for.
* `LiteralRule`: the literal of a value in a given shape.
* `AtomRule`: the formula of a test on a column of a given type.
* `atom_eq_ok_iff`: the compiler gives exactly the formulas that the rules give.
-/

set_option autoImplicit false

namespace RecordFilter

open RecordFilter.Proofs.Support

/-! ### Columns -/

/-- The descriptor is the last one of the list that has the identifier. -/
def Descriptor.IsLast (available : List Descriptor) (id : String) (d : Descriptor) : Prop :=
  d.id = id ∧ ∃ before after, available = before ++ d :: after ∧ ∀ e ∈ after, e.id ≠ id

/-- Looking up an identifier gives the last descriptor that has it. -/
theorem Descriptor.lookup?_eq_some_iff {available : List Descriptor} {id : String}
    {d : Descriptor} :
    lookup? available id = some d ↔ IsLast available id d := by
  unfold lookup? IsLast
  rw [List.find?_eq_some_iff_append]
  constructor
  · rintro ⟨hid, after, before, hsplit, hafter⟩
    refine ⟨by simpa using hid, before.reverse, after.reverse, ?_, ?_⟩
    · have h := congrArg List.reverse hsplit
      simpa using h
    · intro e he
      simpa using hafter e (List.mem_reverse.mp he)
  · rintro ⟨hid, before, after, hsplit, hafter⟩
    refine ⟨by simpa using hid, after.reverse, before.reverse, ?_, ?_⟩
    · rw [hsplit]; simp
    · intro e he
      simpa using hafter e (List.mem_reverse.mp he)

/-- An identifier stands for one column at most. -/
theorem Descriptor.IsLast.unique {available : List Descriptor} {id : String} {d e : Descriptor}
    (hd : IsLast available id d) (he : IsLast available id e) : d = e := by
  rw [← lookup?_eq_some_iff] at hd he
  rw [hd] at he
  exact Option.some.inj he

/-- A criterion has a column when the last descriptor of its identifier is that column. -/
theorem column_eq_ok_iff {ctx : LoweringContext} {c : Criterion} {d : Descriptor} :
    ctx.column c = .ok d ↔ Descriptor.IsLast ctx.available c.columnId d := by
  rw [← Descriptor.lookup?_eq_some_iff, LoweringContext.column]
  cases Descriptor.lookup? ctx.available c.columnId <;> simp

/-! ### Literals -/

/-- The literal of a value. A text literal holds the text as it is, a number literal the digits
without the blanks around them. -/
inductive LiteralRule : LiteralShape → Value → Literal → Prop
  | null : LiteralRule .string .null (.text "")
  | text (s : String) : LiteralRule .string (.text s) (.text s)
  | numberText (n : Number) : LiteralRule .string (.number n) (.text n.text)
  | number (n : Number) : LiteralRule .number (.number n) (.number n.text)
  | digits (s : String) (h : isNumberText (Text.trimChars s.toList) = true) :
    LiteralRule .number (.text s) (.number (Text.trim s))

/-- A value has a literal exactly when the rules give it one. A text is a number literal when its
characters between the blanks are a numeral. -/
theorem literal_eq_ok_iff {shape : LiteralShape} {v : Value} {l : Literal} :
    v.literal shape = .ok l ↔ LiteralRule shape v l := by
  constructor
  · intro h
    cases shape with
    | string =>
      cases v <;> simp only [Value.literal, Value.textLiteral, Except.ok.injEq, reduceCtorEq] at h
      · subst h; exact .null
      · subst h; exact .numberText _
      · subst h; exact .text _
    | number =>
      cases v <;> simp only [Value.literal, Value.numberLiteral, Except.ok.injEq, reduceCtorEq] at h
      · subst h; exact .number _
      · split at h
        · rename_i s hs
          cases h
          exact .digits s hs
        · cases h
  · intro h
    cases h with
    | digits s h => simp [Value.literal, Value.numberLiteral, h]
    | _ => rfl

/-! ### Days -/

/-- The boundaries that a value describes, when they are supported. -/
def Value.HasRange (dates : DateContext) (v : Value) (r : DateRange) : Prop :=
  ∃ f, v.dateFilter = .ok f ∧ f.resolve dates.weekStart dates.anchor = .ok r

/-- A test has the range of its value: the value is read as a filter first, and then resolved. -/
theorem range_eq_ok_iff {dates : DateContext} {t : ColumnTest} {r : DateRange} :
    t.range dates = .ok r ↔ t.value.HasRange dates r :=
  bind_eq_ok_iff

/-! ### Tests -/

/-- The shape of the literals that a column is compared with. -/
def ColumnType.literalShape : ColumnType → LiteralShape
  | .number => .number
  | _ => .string

/-- The formula of a test with the given operator and value, on the column of that name and
type. -/
inductive AtomRule (dates : DateContext) (type : ColumnType) (name : String) :
    Operator.Test → Value → Atom → Prop
  | blank (v : Value) : AtomRule dates type name .isEmpty v (.blank name)
  | notBlank (v : Value) : AtomRule dates type name .isNotEmpty v (.notBlank name)
  | checked (v : Value) (ht : type = .checkbox) :
    AtomRule dates type name (.compare .eq) v (.checked name v.isChecked)
  | sameDay {v : Value} {r : DateRange} (ht : type = .date) (hr : v.HasRange dates r) :
    AtomRule dates type name (.compare .eq) v (.sameDay name r.start)
  | notSameDay {v : Value} {r : DateRange} (ht : type = .date) (hr : v.HasRange dates r) :
    AtomRule dates type name (.compare .ne) v (.notSameDay name r.start)
  | before {v : Value} {r : DateRange} (ht : type = .date) (hr : v.HasRange dates r) :
    AtomRule dates type name (.compare .lt) v (.before name r.start)
  | after {v : Value} {r : DateRange} (ht : type = .date) (hr : v.HasRange dates r) :
    AtomRule dates type name (.compare .gt) v (.after name r.start)
  | beforeNext {v : Value} {r : DateRange} {d : Date} (ht : type = .date)
    (hr : v.HasRange dates r) (hd : d.number = r.start.number + 1) :
    AtomRule dates type name (.compare .le) v (.before name d)
  | afterPrevious {v : Value} {r : DateRange} {d : Date} (ht : type = .date)
    (hr : v.HasRange dates r) (hd : d.number = r.start.number - 1) :
    AtomRule dates type name (.compare .ge) v (.after name d)
  | within {v : Value} {r : DateRange} (ht : type = .date) (hr : v.HasRange dates r) :
    AtomRule dates type name .isWithin v (.within name r.start r.stop)
  | compare {v : Value} {l : Literal} (op : Comparison) (ht : type.isSingleValued = false)
    (hl : LiteralRule type.literalShape v l) :
    AtomRule dates type name (.compare op) v (.compare op name l)
  | found {op : Operator.Test} {v : Value} {l : Literal} (hop : op = .contains ∨ op = .filename)
    (ht : type.isSingleValued = false) (hl : LiteralRule type.literalShape v l) :
    AtomRule dates type name op v (.found l name)
  | notFound {v : Value} {l : Literal} (ht : type.isSingleValued = false)
    (hl : LiteralRule type.literalShape v l) :
    AtomRule dates type name .doesNotContain v (.notFound l name)

variable {dates : DateContext} {t : ColumnTest} {a : Atom}

/-- A test with a range goes on with this range, whatever its operator makes of it. -/
theorem range_bind_eq {r : DateRange} {β : Type} (f : DateRange → Except FilterFault β)
    (hr : t.value.HasRange dates r) : (t.range dates >>= f) = f r := by
  rw [range_eq_ok_iff.mpr hr]
  rfl

/-- A value with a literal goes on with this literal, whatever the operator makes of it. -/
theorem literal_bind_eq {shape : LiteralShape} {v : Value} {l : Literal} {β : Type}
    (f : Literal → Except FilterFault β) (hl : LiteralRule shape v l) :
    (v.literal shape >>= f) = f l := by
  rw [literal_eq_ok_iff.mpr hl]
  rfl

/-- What a date column compiles to has a rule. All comparisons look at the first day of the range
only, and `<=` and `>=` become strict ones with the day next to it. -/
theorem AtomRule.of_dateAtom (ht : t.column.type = .date) (h : t.dateAtom dates = .ok a) :
    AtomRule dates t.column.type t.columnName t.operator t.value a := by
  obtain ⟨name, d, op, v⟩ := t
  cases op with
  | compare comparison =>
    obtain ⟨r, hr, h⟩ := bind_eq_ok_iff.mp h
    have hr := range_eq_ok_iff.mp hr
    cases comparison with
    | eq => cases h; exact .sameDay ht hr
    | ne => cases h; exact .notSameDay ht hr
    | gt => cases h; exact .after ht hr
    | lt => cases h; exact .before ht hr
    | ge =>
      obtain ⟨e, he, h⟩ := bind_eq_ok_iff.mp h
      cases h
      exact .afterPrevious ht hr (Date.shiftDays_eq_ok_iff.mp he)
    | le =>
      obtain ⟨e, he, h⟩ := bind_eq_ok_iff.mp h
      cases h
      exact .beforeNext ht hr (Date.shiftDays_eq_ok_iff.mp he)
  | isWithin =>
    obtain ⟨r, hr, h⟩ := bind_eq_ok_iff.mp h
    cases h
    exact .within ht (range_eq_ok_iff.mp hr)
  | isEmpty => cases h; exact .blank v
  | isNotEmpty => cases h; exact .notBlank v
  | contains => cases h
  | doesNotContain => cases h
  | filename => cases h

/-- A date column compiles to what its rule says. -/
theorem AtomRule.dateAtom_eq (ht : t.column.type = .date)
    (h : AtomRule dates t.column.type t.columnName t.operator t.value a) :
    t.dateAtom dates = .ok a := by
  obtain ⟨name, d, op, v⟩ := t
  cases h with
  | blank => rfl
  | notBlank => rfl
  | sameDay _ hr => exact range_bind_eq _ hr
  | notSameDay _ hr => exact range_bind_eq _ hr
  | before _ hr => exact range_bind_eq _ hr
  | after _ hr => exact range_bind_eq _ hr
  | within _ hr => exact range_bind_eq _ hr
  | beforeNext _ hr hd =>
    refine (range_bind_eq _ hr).trans ?_
    show (Date.shiftDays _ 1 >>= _) = _
    rw [Date.shiftDays_eq_ok_iff.mpr hd]
    rfl
  | afterPrevious _ hr hd =>
    refine (range_bind_eq _ hr).trans ?_
    show (Date.shiftDays _ (-1) >>= _) = _
    rw [Date.shiftDays_eq_ok_iff.mpr hd]
    rfl
  -- The other rules are those of columns of other types.
  | checked _ h | compare _ h | found _ h | notFound h =>
    simp only at ht
    rw [ht] at h
    cases h

/-- A date column compiles as its rules say. -/
theorem dateAtom_eq_ok_iff (ht : t.column.type = .date) :
    t.dateAtom dates = .ok a ↔
      AtomRule dates t.column.type t.columnName t.operator t.value a :=
  ⟨.of_dateAtom ht, fun h => h.dateAtom_eq ht⟩

/-- A checkbox compiles as its rules say: it is compared with a truth value, and only with `=`. -/
theorem checkboxAtom_eq_ok_iff (ht : t.column.type = .checkbox) :
    t.checkboxAtom = .ok a ↔
      AtomRule dates t.column.type t.columnName t.operator t.value a := by
  obtain ⟨name, d, op, v⟩ := t
  simp only at ht ⊢
  constructor
  · intro h
    unfold ColumnTest.checkboxAtom at h
    split at h
    · rename_i hop
      cases h; cases hop
      exact .checked v ht
    · rename_i hop
      cases h; cases hop
      exact .blank v
    · rename_i hop
      cases h; cases hop
      exact .notBlank v
    · cases h
  · intro h
    cases h with
    | blank => rfl
    | notBlank => rfl
    | checked => rfl
    | sameDay h | notSameDay h | before h | after h | beforeNext h | afterPrevious h
    | within h | compare _ h | found _ h | notFound h => rw [ht] at h; cases h

/-- What a column with literals compiles to has a rule. -/
theorem AtomRule.of_literalAtom (ht : t.column.type.isSingleValued = false)
    (h : t.literalAtom t.column.type.literalShape = .ok a) :
    AtomRule dates t.column.type t.columnName t.operator t.value a := by
  obtain ⟨name, d, op, v⟩ := t
  cases op with
  | compare comparison =>
    obtain ⟨l, hl, h⟩ := bind_eq_ok_iff.mp h
    cases h
    exact .compare comparison ht (literal_eq_ok_iff.mp hl)
  | contains =>
    obtain ⟨l, hl, h⟩ := bind_eq_ok_iff.mp h
    cases h
    exact .found (.inl rfl) ht (literal_eq_ok_iff.mp hl)
  | filename =>
    obtain ⟨l, hl, h⟩ := bind_eq_ok_iff.mp h
    cases h
    exact .found (.inr rfl) ht (literal_eq_ok_iff.mp hl)
  | doesNotContain =>
    obtain ⟨l, hl, h⟩ := bind_eq_ok_iff.mp h
    cases h
    exact .notFound ht (literal_eq_ok_iff.mp hl)
  | isEmpty => cases h; exact .blank v
  | isNotEmpty => cases h; exact .notBlank v
  | isWithin => cases h

/-- A column with literals compiles to what its rule says. -/
theorem AtomRule.literalAtom_eq (ht : t.column.type.isSingleValued = false)
    (h : AtomRule dates t.column.type t.columnName t.operator t.value a) :
    t.literalAtom t.column.type.literalShape = .ok a := by
  obtain ⟨name, d, op, v⟩ := t
  cases h with
  | blank => rfl
  | notBlank => rfl
  | compare _ _ hl => exact literal_bind_eq _ hl
  | found hop _ hl => rcases hop with rfl | rfl <;> exact literal_bind_eq _ hl
  | notFound _ hl => exact literal_bind_eq _ hl
  -- The other rules are those of dates and checkboxes, whose tests have one value at most.
  | checked _ h | sameDay h | notSameDay h | before h | after h | beforeNext h
  | afterPrevious h | within h =>
    simp only at ht
    rw [h] at ht
    cases ht

/-- A column with literals compiles as its rules say. -/
theorem literalAtom_eq_ok_iff (ht : t.column.type.isSingleValued = false) :
    t.literalAtom t.column.type.literalShape = .ok a ↔
      AtomRule dates t.column.type t.columnName t.operator t.value a :=
  ⟨.of_literalAtom ht, fun h => h.literalAtom_eq ht⟩

/-- A test compiles to the formula that the rules give, and does not compile without a rule. -/
theorem atom_eq_ok_iff :
    t.atom dates = .ok a ↔
      AtomRule dates t.column.type t.columnName t.operator t.value a := by
  cases ht : t.column.type with
  | date => rw [← ht, ← dateAtom_eq_ok_iff ht, ColumnTest.atom, ht]
  | checkbox => rw [← ht, ← checkboxAtom_eq_ok_iff ht, ColumnTest.atom, ht]
  | number | string | user | select | multiSelect | link | attachment =>
    rw [← ht, ← literalAtom_eq_ok_iff (by rw [ht]; rfl), ColumnTest.atom, ht]
    rfl

end RecordFilter
