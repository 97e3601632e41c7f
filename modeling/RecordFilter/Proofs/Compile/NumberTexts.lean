import RecordFilter.Proofs.Compile.Expansion
import RecordFilter.Proofs.Compile.OtherValues
import RecordFilter.Proofs.Dates.Validation
import RecordFilter.Proofs.Formula.NumberLiterals
import RecordFilter.Proofs.Number.NumberText

/-!
# `RecordFilter.Proofs.Compile.NumberTexts`: numbers and their texts

A number may be given as a number or as its text. Four readers tell the two apart: text literals,
number literals, numbers of days, and the values of a list operator. Each of them gives the same
result for both, or the same fault.

* `literal_eq_of_exchange`: the literals of a value in both shapes.
* `dateFilter_eq_of_exchange`: the filter of a date object, where the number of days is given as a
  text. `Number.daysOfChars?_text` says that a text of a float is no number of days either.
* `compile_eq_of_respelled`: the outcome for a tree in which any such numbers are given as texts.
-/

set_option autoImplicit false

namespace RecordFilter

/-! ### Values -/

/-- The second value is the first one with some values in it exchanged as `R` says: the value
itself, or values in lists at any depth. -/
inductive Value.Exchange (R : Value → Value → Prop) : Value → Value → Prop
  | same (v : Value) : Value.Exchange R v v
  | leaf {v w : Value} (h : R v w) : Value.Exchange R v w
  | list {vs ws : List Value} (h : List.Forall₂ (Value.Exchange R) vs ws) :
    Value.Exchange R (.list vs) (.list ws)

/-- The text of a number for the number. -/
inductive Value.NumberAsText : Value → Value → Prop
  | number (n : Number) : Value.NumberAsText (.number n) (.text n.text)

/-- A date object with the text of a number of days for the number. -/
inductive Value.DaysAsText : Value → Value → Prop
  | days (mode : Option Scalar) (n : Number) (input : Option Scalar) :
    Value.DaysAsText (.date ⟨mode, some (.number n), input⟩)
      (.date ⟨mode, some (.text n.text), input⟩)

/-- The value is a text or a number. -/
def Value.IsTextOrNumber (v : Value) : Prop :=
  (∃ s, v = .text s) ∨ ∃ n, v = .number n

/-! ### Literals -/

variable {v w : Value}

/-- A value has the same literals with texts for numbers. -/
theorem literal_eq_of_exchange (h : v.Exchange Value.NumberAsText w) (shape : LiteralShape) :
    v.literal shape = w.literal shape := by
  cases h with
  | same => rfl
  | list h => cases shape <;> rfl
  | leaf h =>
    obtain ⟨n⟩ := h
    cases shape with
    | string => rfl
    | number =>
      show _ = (Value.text n.text).numberLiteral
      rw [numberLiteral_text_eq, n.trimChars_text, if_pos n.isNumberText_text, String.ofList_toList]
      rfl

/-- The values of a list operator are exchanged one by one. -/
theorem toList_exchange (h : v.Exchange Value.NumberAsText w) :
    List.Forall₂ (Value.Exchange Value.NumberAsText) v.toList w.toList := by
  cases h with
  | same => exact List.forall₂_same.mpr fun v _ => .same v
  | list h => exact h
  | leaf h =>
    obtain ⟨n⟩ := h
    exact .cons (.leaf (.number n)) .nil

/-- A text or a number has the same values as the list of itself. -/
theorem toList_singleton (h : w.IsTextOrNumber) : (Value.list [w]).toList = w.toList := by
  rcases h with ⟨s, rfl⟩ | ⟨n, rfl⟩ <;> rfl

/-! ### Numbers of days -/

/-- The characters of a number of days are digits and a plus. -/
theorem SpellsDays.of_mem {cs : List Char} {k : Nat} (h : SpellsDays cs k) {c : Char}
    (hc : c ∈ cs) : c = '+' ∨ c.isDigit = true := by
  obtain ⟨sign, digits, rfl, hsign, -, hdigits, -⟩ := h
  rcases List.mem_append.mp hc with hc | hc
  · rcases hsign with rfl | rfl
    · cases hc
    · exact .inl (List.mem_singleton.mp hc)
  · exact .inr (hdigits c hc)

/-- Digits alone spell the number of days that they spell as a number. -/
theorem spellsDays_toDigits_iff {n k : Nat} : SpellsDays (Nat.toDigits 10 n) k ↔ n = k := by
  have hdigits := allDigits_toDigits n
  constructor
  · rintro ⟨sign, digits, hcs, hsign, -, -, hvalue⟩
    rcases hsign with rfl | rfl
    · rw [← digitsValue_toDigits n, hcs]
      exact hvalue
    · -- There is no plus among the digits.
      have hplus := hdigits '+' (by rw [hcs]; exact List.mem_cons_self)
      cases hplus
  · rintro rfl
    exact ⟨[], _, rfl, .inl rfl, Nat.toDigits_ne_nil, hdigits, digitsValue_toDigits n⟩

/-- The text of a number is read as the number of days that the number is, if it is one. -/
theorem Number.daysOfChars?_text (n : Number) : daysOfChars? n.text.toList = n.toNat? := by
  ext k
  rw [daysOfChars?_eq_some_iff]
  cases n with
  | float x =>
    -- A float is written with a mark that no number of days has.
    obtain ⟨c, hc, hmark⟩ := x.exists_mark_mem_text
    refine iff_of_false (fun h => ?_) (by simp [toNat?])
    have hday := h.of_mem hc
    rcases hmark with rfl | rfl <;> exact absurd hday (by decide)
  | integer value fits =>
    show SpellsDays (String.ofList (integerChars value)).toList k ↔ _
    rw [String.toList_ofList, integerChars, toNat?]
    split
    · rename_i hneg
      refine iff_of_false (fun h => ?_) (by simp [hneg])
      exact absurd (h.of_mem List.mem_cons_self) (by decide)
    · rename_i hnonneg
      rw [spellsDays_toDigits_iff, if_pos (by omega), Option.some.injEq,
        show value.natAbs = value.toNat by omega]

/-- The number of days of a date object may be given as a text. -/
theorem dateFilter_eq_of_exchange (h : v.Exchange Value.DaysAsText w) :
    v.dateFilter = w.dateFilter := by
  cases h with
  | same | list => rfl
  | leaf h =>
    obtain ⟨mode, n, input⟩ := h
    have hchars : n.text.toList.isEmpty = false := by
      simpa using n.isNumeralText_text.1
    have hdays : (DateValue.mk mode (some (.number n)) input).checkedDays =
        (DateValue.mk mode (some (.text n.text)) input).checkedDays := by
      rw [DateValue.checkedDays_text, DateValue.checkedDays_number, n.trimChars_text, hchars,
        n.daysOfChars?_text]
      rfl
    -- A number carries a value, and its text is not empty, so neither object is.
    have htext : n.text.isEmpty = false := by
      simpa using n.isNumeralText_text.1
    have hempty : (DateValue.mk mode (some (.number n)) input).isEmpty = false := by
      simp [DateValue.isEmpty, Scalar.isEmpty]
    have hempty' : (DateValue.mk mode (some (.text n.text)) input).isEmpty = false := by
      simp [DateValue.isEmpty, Scalar.isEmpty, htext]
    simp only [Value.dateFilter, hempty, hempty', Bool.false_eq_true, if_false, DateValue.filter,
      hdays]
    rfl

/-! ### Tests -/

variable {dates : DateContext} {name : String} {d : Descriptor} {op : Operator.Test}

/-- A test of a column that compares with literals looks at the literals of its value only. -/
theorem atom_eq_of_literal (htype : d.type.isSingleValued = false)
    (h : ∀ shape, v.literal shape = w.literal shape) :
    (ColumnTest.mk name d op v).atom dates = (ColumnTest.mk name d op w).atom dates := by
  have hatom : ∀ shape, (ColumnTest.mk name d op v).literalAtom shape =
      (ColumnTest.mk name d op w).literalAtom shape := by
    intro shape
    simp only [ColumnTest.literalAtom, h shape]
    rfl
  unfold ColumnTest.atom
  cases hd : d.type with
  | date | checkbox =>
    rw [hd] at htype
    cases htype
  | number => exact hatom .number
  | string | user | select | multiSelect | link | attachment => exact hatom .string

/-- A test of a date column looks at the filter of its value only. -/
theorem atom_eq_of_dateFilter (htype : d.type = .date) (h : v.dateFilter = w.dateFilter) :
    (ColumnTest.mk name d op v).atom dates = (ColumnTest.mk name d op w).atom dates := by
  have hrange : (ColumnTest.mk name d op v).range dates =
      (ColumnTest.mk name d op w).range dates := by
    simp only [ColumnTest.range, h]
  simp only [ColumnTest.atom, htype, ColumnTest.dateAtom, hrange]
  rfl

/-! ### Criteria and trees -/

/-- The value is that of the criterion with texts for some numbers: on a column that is neither a
date nor a checkbox for numbers in the value, where a list operator may also have the list of its
one value, and on a date column for the number of days of a date object. -/
inductive Criterion.Respelled (available : List Descriptor) (c : Criterion) : Value → Prop
  | same : Criterion.Respelled available c c.value
  | numbers {w : Value}
    (hcolumn : ∀ d, Descriptor.IsLast available c.columnId d → d.type ≠ .date ∧ d.type ≠ .checkbox)
    (h : c.value.Exchange Value.NumberAsText w) : Criterion.Respelled available c w
  | listed {w : Value}
    (hcolumn : ∀ d, Descriptor.IsLast available c.columnId d → d.type ≠ .date ∧ d.type ≠ .checkbox)
    (hop : c.operator.isOfMany = true) (h : c.value.Exchange Value.NumberAsText w)
    (hscalar : w.IsTextOrNumber) : Criterion.Respelled available c (.list [w])
  | days {w : Value} (hcolumn : ∀ d, Descriptor.IsLast available c.columnId d → d.type = .date)
    (h : c.value.Exchange Value.DaysAsText w) : Criterion.Respelled available c w

variable {s : Surroundings} {maxDepth : Nat} {c : Criterion}

/-- A criterion on a column that compares with literals has the same outcome when its value has the
same literals, and when the values of its list have. -/
theorem Criterion.keeps_of_literals
    (hcolumn : ∀ d, Descriptor.IsLast s.available c.columnId d →
      d.type ≠ .date ∧ d.type ≠ .checkbox)
    (htest : c.operator.isOfMany = false → ∀ shape, c.value.literal shape = w.literal shape)
    (hmany : List.Forall₂ (fun v v' => ∀ shape, v.literal shape = v'.literal shape)
      c.value.toList w.toList) : c.Keeps s maxDepth w := by
  have htype : ∀ d, Descriptor.IsLast s.available c.columnId d → d.type.isSingleValued = false := by
    intro d hd
    rw [← Bool.not_eq_true, ColumnType.isSingleValued_iff, not_or]
    exact hcolumn d hd
  refine Criterion.keeps_of_atoms ?_ ?_
  · intro d op hd hop
    exact atom_eq_of_literal (htype d hd) (htest (by rw [hop]; rfl))
  · intro d op hd _ _
    exact hmany.imp fun _ _ h => atom_eq_of_literal (htype d hd) h

/-- A criterion has the same outcome with texts for numbers. -/
theorem Criterion.Respelled.keeps (h : c.Respelled s.available w) : c.Keeps s maxDepth w := by
  cases h with
  | same => exact c.keeps_self
  | numbers hcolumn h =>
    refine Criterion.keeps_of_literals hcolumn (fun _ => literal_eq_of_exchange h) ?_
    exact (toList_exchange h).imp fun _ _ hv => literal_eq_of_exchange hv
  | listed hcolumn hop h hscalar =>
    refine Criterion.keeps_of_literals hcolumn (fun htest => ?_) ?_
    · rw [hop] at htest
      cases htest
    · rw [toList_singleton hscalar]
      exact (toList_exchange h).imp fun _ _ hv => literal_eq_of_exchange hv
  | days hcolumn h =>
    refine Criterion.keeps_of_atoms ?_ ?_
    · intro d op hd _
      exact atom_eq_of_dateFilter (hcolumn d hd) (dateFilter_eq_of_exchange h)
    · -- A date column has no list operators.
      intro d op hd _ hs
      rw [hcolumn d hd] at hs
      cases hs

/-- A tree has the same outcome, the same text or the same fault, when numbers in the values of any
of its criteria are given as texts. -/
theorem compile_eq_of_respelled (available : List Descriptor) (config : CompilerConfig)
    (tree other : Group) (anchor : Date) (h : tree.Revalued (Criterion.Respelled available) other) :
    (Compiler.mk available config).compile tree anchor
      = (Compiler.mk available config).compile other anchor :=
  compile_eq_of_revalued (fun _ _ hw => hw.keeps) h

/-- Every kind of exchange at once: a float in a list, the list of one number, a number of days. -/
theorem three_numbers_as_texts :
    let available : List Descriptor :=
      [.plain "name" "Name" .string, .plain "size" "Size" .number, .plain "due" "Due" .date]
    let half : Binary64 := ⟨true, 4503599627370496, -53, by decide⟩
    let name : Criterion :=
      ⟨"name", "Name", .many .hasAllOf, .list [.text "a", .number (.float half)]⟩
    let size : Criterion := ⟨"size", "Size", .many .isAnyOf, .number (.integer 7 (by decide))⟩
    let due : Criterion := ⟨"due", "Due", .test (.compare .ge), .date
      ((DateValue.ofMode "daysAgo").withDays (.integer 30 (by decide)))⟩
    let tree : Group := ⟨.all, [.criterion name, .group .any [.criterion size, .criterion due]]⟩
    let name' : Value := .list [.text "a", .text "-0.5"]
    let size' : Value := .list [.text "7"]
    let due' : Value := .date ⟨some (.text "daysAgo"), some (.text "30"), none⟩
    let other : Group := ⟨.all, [.criterion { name with value := name' },
      .group .any [.criterion { size with value := size' }, .criterion { due with value := due' }]]⟩
    let anchor : Date := ⟨738000, by decide, by decide⟩
    tree.Revalued (Criterion.Respelled available) other ∧
      (Compiler.mk available .standard).compile other anchor
        = .ok ("AND(AND(FIND(\"a\",{Name}), FIND(\"-0.5\",{Name})), "
          ++ "OR(OR({Size}=7), IS_AFTER({Due},'2021-06-28','days')))") := by
  intro available half name size due tree name' size' due' other anchor
  -- The column of an identifier is found, and so it is the only one to look at.
  have hlast : ∀ {id : String} {d e : Descriptor}, Descriptor.lookup? available id = some e →
      Descriptor.IsLast available id d → d = e := fun hlookup hd =>
    hd.unique (Descriptor.lookup?_eq_some_iff.mp hlookup)
  have hname : name.Respelled available name' := by
    have htext : (Number.float half).text = "-0.5" := by decide +kernel
    refine .numbers (fun d hd => ?_) (.list (.cons (.same _) (.cons (.leaf ?_) .nil)))
    · cases hlast rfl hd
      decide
    · exact htext ▸ .number (.float half)
  have hsize : size.Respelled available size' := by
    refine .listed (fun d hd => ?_) rfl (.leaf (.number (.integer 7 (by decide)))) (.inl ⟨_, rfl⟩)
    cases hlast rfl hd
    decide
  have hdue : due.Respelled available due' := by
    refine .days (fun d hd => ?_) (.leaf (.days _ (.integer 30 (by decide)) _))
    cases hlast rfl hd
    rfl
  have hother : tree.Revalued (Criterion.Respelled available) other :=
    .group (.cons (.criterion hname)
      (.cons (.group (.cons (.criterion hsize) (.cons (.criterion hdue) .nil))) .nil))
  refine ⟨hother, ?_⟩
  rw [← compile_eq_of_respelled available .standard tree other anchor hother]
  decide +kernel

end RecordFilter
