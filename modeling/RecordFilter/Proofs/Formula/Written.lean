import RecordFilter.Proofs.Calendar.DateText
import RecordFilter.Proofs.Compile.Tests
import RecordFilter.Proofs.Formula.Grammar

/-!
# `RecordFilter.Proofs.Formula.Written`: what is written is in the grammar

* `LiteralRule.literalText`: a literal that comes from a value is written as the grammar says.
* `AtomRule.clauseText`: so is a test of a column whose name ends where its reference ends.
* `derives_groupText`: and so is a conjunction of texts of phrases.

The digits of a number literal come from a value and are not escaped. They are numerals because
the text of a number is one, and because a text is only taken for a number when it is one.
-/

set_option autoImplicit false

namespace RecordFilter

/-! ### Numerals -/

/-- Numerals have digits. -/
theorem isNumeralChar_of_isDigit {c : Char} (h : c.isDigit = true) : isNumeralChar c = true := by
  simp [isNumeralChar, h]

/-- The digits of a natural number are characters of numerals. -/
theorem isNumeralChar_of_mem_toDigits {n : Nat} {c : Char} (h : c ∈ Nat.toDigits 10 n) :
    isNumeralChar c = true :=
  isNumeralChar_of_isDigit (Nat.isDigit_of_mem_toDigits (by decide) (by decide) h)

/-- The text is a numeral of the grammar. -/
def IsNumeralText (cs : List Char) : Prop :=
  cs ≠ [] ∧ ∀ c ∈ cs, isNumeralChar c = true

namespace Number

/-- An integer is written as a numeral. -/
theorem isNumeralText_integerChars (n : Int) : IsNumeralText (integerChars n) := by
  unfold integerChars
  split
  · refine ⟨List.cons_ne_nil _ _, ?_⟩
    intro c hc
    cases List.mem_cons.mp hc with
    | inl hsign => rw [hsign]; rfl
    | inr hdigit => exact isNumeralChar_of_mem_toDigits hdigit
  · exact ⟨Nat.toDigits_ne_nil, fun c hc => isNumeralChar_of_mem_toDigits hc⟩

end Number

namespace Binary64

/-- Writing digits by position adds only zeros and the point to them. -/
theorem isNumeralText_positionalText {digits : List Char} {point : Int}
    (h : ∀ c ∈ digits, isNumeralChar c = true) : IsNumeralText (positionalText digits point) := by
  unfold positionalText
  split
  · refine ⟨List.cons_ne_nil _ _, ?_⟩
    intro c hc
    simp only [List.mem_cons, List.mem_append, List.mem_replicate] at hc
    rcases hc with rfl | rfl | ⟨-, rfl⟩ | hc
    · rfl
    · rfl
    · rfl
    · exact h c hc
  · refine ⟨by simp, ?_⟩
    intro c hc
    simp only [List.mem_append, List.mem_cons, List.mem_replicate] at hc
    rcases hc with (hc | ⟨-, rfl⟩) | rfl | hc
    · exact h c (List.mem_of_mem_take hc)
    · rfl
    · rfl
    · split at hc
      · cases List.mem_singleton.mp hc; rfl
      · exact h c (List.mem_of_mem_drop hc)

/-- Writing digits with an exponent adds a point, the mark, a sign and more digits. -/
theorem isNumeralText_exponentText {digits : List Char} {exponent : Int}
    (h : ∀ c ∈ digits, isNumeralChar c = true) :
    IsNumeralText (exponentText digits exponent) := by
  unfold exponentText
  refine ⟨by simp, ?_⟩
  intro c hc
  simp only [List.mem_append, List.mem_cons] at hc
  rcases hc with (hc | hc) | rfl | rfl | hc
  · exact h c (List.mem_of_mem_take hc)
  · split at hc
    · cases hc
    · cases List.mem_cons.mp hc with
      | inl hpoint => rw [hpoint]; rfl
      | inr hplace => exact h c (List.mem_of_mem_drop hplace)
  · rfl
  · split <;> rfl
  · exact isNumeralChar_of_mem_toDigits hc

/-- A decimal form is laid out as a numeral, by position or with an exponent. -/
theorem isNumeralText_layout (d : DecimalForm) : IsNumeralText (layout d) := by
  have h : ∀ c ∈ ((Nat.toDigits 10 d.coefficient).reverse.dropWhile (· == '0')).reverse,
      isNumeralChar c = true := by
    intro c hc
    have hmem := (List.dropWhile_sublist _).subset (List.mem_reverse.mp hc)
    exact isNumeralChar_of_mem_toDigits (List.mem_reverse.mp hmem)
  unfold layout
  simp only
  -- Both forms add nothing but characters of numerals to the digits.
  split
  · exact isNumeralText_positionalText h
  · exact isNumeralText_exponentText h

/-- A float is written as a numeral. -/
theorem isNumeralText_text (x : Binary64) : IsNumeralText x.text.toList := by
  have hmagnitude : IsNumeralText (if x.isZero then ['0', '.', '0'] else layout x.shortest) := by
    split
    · refine ⟨List.cons_ne_nil _ _, ?_⟩
      simp only [List.forall_mem_cons]
      exact ⟨rfl, rfl, rfl, List.forall_mem_nil _⟩
    · exact isNumeralText_layout _
  unfold text
  rw [String.toList_ofList]
  split
  · refine ⟨List.cons_ne_nil _ _, ?_⟩
    intro c hc
    cases List.mem_cons.mp hc with
    | inl hsign => rw [hsign]; rfl
    | inr hrest => exact hmagnitude.2 c hrest
  · exact hmagnitude

end Binary64

/-- The text of a number is a numeral. -/
theorem Number.isNumeralText_text (n : Number) : IsNumeralText n.text.toList := by
  cases n with
  | integer value fits =>
    show IsNumeralText (String.ofList (integerChars value)).toList
    rw [String.toList_ofList]
    exact isNumeralText_integerChars value
  | float x => exact x.isNumeralText_text

namespace Numeral

/-- A sign is a character of a numeral, so what `readSign` leaves decides. -/
theorem isNumeralChar_of_readSign {cs : List Char}
    (h : ∀ c ∈ (readSign cs).2, isNumeralChar c = true) : ∀ c ∈ cs, isNumeralChar c = true := by
  intro c hc
  unfold readSign at h
  split at h
  · cases List.mem_cons.mp hc with
    | inl hsign => rw [hsign]; rfl
    | inr hrest => exact h c hrest
  · cases List.mem_cons.mp hc with
    | inl hsign => rw [hsign]; rfl
    | inr hrest => exact h c hrest
  · exact h c hc

/-- The characters in front are digits, so what is left after them decides. -/
theorem isNumeralChar_of_dropWhile {cs : List Char}
    (h : ∀ c ∈ cs.dropWhile Char.isDigit, isNumeralChar c = true) :
    ∀ c ∈ cs, isNumeralChar c = true := by
  intro c hc
  have hsplit : cs.takeWhile Char.isDigit ++ cs.dropWhile Char.isDigit = cs :=
    List.takeWhile_append_dropWhile
  rw [← hsplit] at hc
  cases List.mem_append.mp hc with
  | inl hdigit => exact isNumeralChar_of_isDigit (List.all_eq_true.mp List.all_takeWhile c hdigit)
  | inr hrest => exact h c hrest

/-- A fraction takes off a point and digits. -/
theorem isNumeralChar_of_readFraction {cs : List Char}
    (h : ∀ c ∈ (readFraction cs).2, isNumeralChar c = true) :
    ∀ c ∈ cs, isNumeralChar c = true := by
  intro c hc
  unfold readFraction at h
  split at h
  · cases List.mem_cons.mp hc with
    | inl hpoint => rw [hpoint]; rfl
    | inr hrest => exact isNumeralChar_of_dropWhile h c hrest
  · exact h c hc

/-- An exponent is its mark, a sign and digits. -/
theorem isNumeralChar_of_readExponent? {cs : List Char} {e : Int}
    (h : readExponent? cs = some e) : ∀ c ∈ cs, isNumeralChar c = true := by
  unfold readExponent? at h
  split at h
  · intro c hc; cases hc
  · rename_i mark rest
    split at h
    · rename_i hmark
      have hdigits : (readSign rest).2.all Char.isDigit = true := by
        cases hall : (readSign rest).2.all Char.isDigit with
        | true => rfl
        | false => simp only [hall, Bool.not_false, Bool.or_true, if_true, reduceCtorEq] at h
      intro c hc
      cases List.mem_cons.mp hc with
      | inl hfirst =>
        rw [hfirst]
        rcases hmark with rfl | rfl <;> rfl
      | inr hrest =>
        exact isNumeralChar_of_readSign
          (fun d hd => isNumeralChar_of_isDigit (List.all_eq_true.mp hdigits d hd)) c hrest
    · cases h

/-- A text that is read as a numeral is one of the grammar. -/
theorem isNumeralText_of_ofChars? {cs : List Char} {n : Numeral} (h : ofChars? cs = some n) :
    IsNumeralText cs := by
  refine ⟨?_, ?_⟩
  · rintro rfl
    cases h
  · unfold ofChars? at h
    simp only at h
    split at h
    · cases h
    · -- The sign, the digits, the fraction and the exponent are taken off one after the other.
      obtain ⟨e, he, -⟩ := Option.map_eq_some_iff.mp h
      exact isNumeralChar_of_readSign (isNumeralChar_of_dropWhile
        (isNumeralChar_of_readFraction (isNumeralChar_of_readExponent? he)))

end Numeral

/-- A text that counts as a number is a numeral of the grammar. -/
theorem isNumeralText_of_isNumberText {cs : List Char} (h : isNumberText cs = true) :
    IsNumeralText cs := by
  obtain ⟨n, hn, -⟩ := (Option.any_eq_true _ _).mp h
  exact Numeral.isNumeralText_of_ofChars? hn

/-! ### Literals -/

/-- The characters with backslashes stand for the characters. -/
theorem quotedBody_escapeQuotes (cs : List Char) : QuotedBody cs (Text.escapeQuotes cs) := by
  induction cs with
  | nil => exact .nil
  | cons c cs ih =>
    rw [Text.escapeQuotes]
    split
    · exact .marked c ih
    · rename_i hmark
      rw [Text.isMarked, Bool.or_eq_true, beq_iff_eq, beq_iff_eq, not_or] at hmark
      exact .plain hmark.1 hmark.2 ih

/-- The characters of a quoted text. -/
theorem toList_quote (s : String) : (Text.quote s).toList = Text.quoteChars s.toList :=
  String.toList_ofList

/-- A quoted text is a literal of the grammar. -/
theorem literalText_quote (s : String) : LiteralText (.text s) (Text.quote s).toList := by
  rw [toList_quote]
  exact .text (quotedBody_escapeQuotes s.toList)

/-- A literal that comes from a value is written as a literal of the grammar. -/
theorem LiteralRule.literalText {shape : LiteralShape} {v : Value} {l : Literal}
    (h : LiteralRule shape v l) : LiteralText l l.render.toList := by
  cases h with
  | null => exact literalText_quote ""
  | text s => exact literalText_quote s
  | numberText n => exact literalText_quote n.text
  | number n => exact .number n.isNumeralText_text.1 n.isNumeralText_text.2
  | digits s hs =>
    have hnumeral : IsNumeralText (Text.trim s).toList := by
      rw [Text.trim, String.toList_ofList]
      exact isNumeralText_of_isNumberText hs
    exact .number hnumeral.1 hnumeral.2

/-! ### Tests -/

/-- The symbols that comparisons are written with are those of the grammar. -/
theorem comparisonText_symbol (op : Comparison) : ComparisonText op op.symbol.toList := by
  cases op with
  | eq => exact .eq
  | ne => exact .ne
  | gt => exact .gt
  | ge => exact .ge
  | lt => exact .lt
  | le => exact .le

/-- The characters of a column reference are those of the grammar. -/
theorem toList_columnReference (name : String) :
    (columnReference name).toList = columnChars name := by
  show ("\x7b" ++ name ++ "\x7d").toList = '{' :: (name.toList ++ ['}'])
  rw [String.toList_append, String.toList_append]
  rfl

/-- The characters of a day are those of the grammar. -/
theorem toList_dateLiteral (d : Date) : (dateLiteral d).toList = dayChars d.text := by
  show ("'" ++ d.text ++ "'").toList = '\'' :: (d.text.toList ++ ['\''])
  rw [String.toList_append, String.toList_append]
  rfl

/-- The characters of a call with a day are those of the grammar. -/
theorem toList_dayCall (function column : String) (d : Date) :
    (dayCall function column d).toList = callChars function column d.text := by
  unfold dayCall
  simp only [String.toList_append, toList_columnReference, toList_dateLiteral, List.append_assoc]
  rfl

/-- A test is written as a clause of the grammar. -/
theorem AtomRule.clauseText {dates : DateContext} {type : ColumnType} {name : String}
    {op : Operator.Test} {v : Value} {a : Atom} (h : AtomRule dates type name op v a)
    (hname : IsColumnName name) : ClauseText a.clause a.text.toList := by
  have hday : ∀ d : Date, IsDayText d.text := Date.quote_not_mem_text
  have hbefore : ∀ d : Date,
      ClauseText (.before name d.text) (dayCall "IS_BEFORE" name d).toList := by
    intro d
    rw [toList_dayCall]
    exact .before hname (hday d)
  have hafter : ∀ d : Date,
      ClauseText (.after name d.text) (dayCall "IS_AFTER" name d).toList := by
    intro d
    rw [toList_dayCall]
    exact .after hname (hday d)
  -- The printer joins texts and the grammar joins characters, so each text is taken apart.
  cases h with
  | blank =>
    show ClauseText (.blank name) (columnReference name ++ "=BLANK()").toList
    rw [String.toList_append, toList_columnReference]
    exact .blank hname
  | notBlank =>
    show ClauseText (.notBlank name) ("NOT(" ++ columnReference name ++ "=BLANK())").toList
    rw [String.toList_append, String.toList_append, toList_columnReference, List.append_assoc]
    exact .notBlank hname
  | checked =>
    cases v.isChecked with
    | true =>
      show ClauseText (.checked name true) (columnReference name ++ "=TRUE()").toList
      rw [String.toList_append, toList_columnReference]
      exact .checked hname
    | false =>
      show ClauseText (.checked name false) (columnReference name ++ "=FALSE()").toList
      rw [String.toList_append, toList_columnReference]
      exact .unchecked hname
  | @sameDay _ r =>
    show ClauseText (.sameDay name r.start.text) (dayCall "IS_SAME" name r.start).toList
    rw [toList_dayCall]
    exact .sameDay hname (hday _)
  | @notSameDay _ r =>
    show ClauseText (.notSameDay name r.start.text)
      ("NOT(" ++ dayCall "IS_SAME" name r.start ++ ")").toList
    rw [String.toList_append, String.toList_append, toList_dayCall, List.append_assoc]
    exact .notSameDay hname (hday _)
  | before | beforeNext => exact hbefore _
  | after | afterPrevious => exact hafter _
  | @within _ r =>
    show ClauseText (.within name r.start.text r.stop.text)
      ("AND(IS_AFTER(" ++ columnReference name ++ "," ++ dateLiteral r.start ++ "),IS_BEFORE("
        ++ columnReference name ++ "," ++ dateLiteral r.stop ++ "))").toList
    simp only [String.toList_append, toList_columnReference, toList_dateLiteral,
      List.append_assoc]
    exact .within hname (hday _) (hday _)
  | @compare _ l comparison _ hl =>
    show ClauseText (.compare comparison name l)
      (columnReference name ++ comparison.symbol ++ l.render).toList
    rw [String.toList_append, String.toList_append, toList_columnReference, List.append_assoc]
    exact .compare hname (comparisonText_symbol comparison) hl.literalText
  | @found _ _ l _ _ hl =>
    show ClauseText (.found l name)
      ("FIND(" ++ l.render ++ "," ++ columnReference name ++ ")").toList
    simp only [String.toList_append, toList_columnReference, List.append_assoc]
    exact .found hl.literalText hname
  | @notFound _ l _ hl =>
    show ClauseText (.notFound l name)
      ("FIND(" ++ l.render ++ "," ++ columnReference name ++ ")=FALSE()").toList
    simp only [String.toList_append, toList_columnReference, List.append_assoc]
    exact .notFound hl.literalText hname

/-! ### Conjunctions -/

/-- The keywords that conjunctions are written with are those of the grammar. -/
theorem conjunctionText_keyword (conjunction : Conjunction) :
    ConjunctionText conjunction conjunction.keyword.toList := by
  cases conjunction with
  | all => exact .all
  | any => exact .any

/-- Texts of phrases with commas between them are the parts of a conjunction. -/
theorem derivesAll_intercalate : ∀ {parts : List Formula}, parts ≠ [] →
    (∀ f ∈ parts, f.phrase.Derives f.text.toList) →
    Phrase.DerivesAll (Formula.phrases parts)
      (String.intercalate ", " (Formula.texts parts)).toList
  | [], hne, _ => absurd rfl hne
  | [f], _, h => by
    show Phrase.DerivesAll [f.phrase] (String.intercalate ", " [f.text]).toList
    rw [String.intercalate_singleton]
    exact .one (h f List.mem_cons_self)
  | f :: g :: rest, _, h => by
    show Phrase.DerivesAll (f.phrase :: Formula.phrases (g :: rest))
      (String.intercalate ", " (f.text :: g.text :: Formula.texts rest)).toList
    rw [String.intercalate_cons_cons, String.toList_append, String.toList_append,
      List.append_assoc]
    exact .more (h f List.mem_cons_self)
      (derivesAll_intercalate (List.cons_ne_nil _ _) fun e he => h e (List.mem_cons_of_mem _ he))

/-- A conjunction of phrases is a phrase. -/
theorem derives_groupText {conjunction : Conjunction} {parts : List Formula} (hne : parts ≠ [])
    (h : ∀ f ∈ parts, f.phrase.Derives f.text.toList) :
    (Formula.group conjunction parts).phrase.Derives
      (Formula.group conjunction parts).text.toList := by
  show Phrase.Derives (.group conjunction (Formula.phrases parts))
    (conjunction.keyword ++ "(" ++ String.intercalate ", " (Formula.texts parts) ++ ")").toList
  simp only [String.toList_append, List.append_assoc]
  exact .group (conjunctionText_keyword conjunction) (derivesAll_intercalate hne h)

/-! ### Reading a formula back -/

/-- The clause of a test determines the test: a day is known by its text. -/
theorem Atom.clause_injective {a b : Atom} (h : a.clause = b.clause) : a = b := by
  have hday : ∀ d e : Date, d.text = e.text ↔ d = e := fun d e =>
    ⟨Date.text_injective, congrArg Date.text⟩
  cases a <;> cases b <;>
    simp only [Atom.clause, Clause.blank.injEq, Clause.notBlank.injEq, Clause.checked.injEq,
      Clause.sameDay.injEq, Clause.notSameDay.injEq, Clause.before.injEq, Clause.after.injEq,
      Clause.within.injEq, Clause.compare.injEq, Clause.found.injEq, Clause.notFound.injEq, hday,
      reduceCtorEq] at h <;>
    simp only [h]

mutual

/-- The phrase of a formula determines the formula. -/
theorem Formula.phrase_injective : ∀ {f g : Formula}, f.phrase = g.phrase → f = g
  | .atom a, .atom b, h => by
    rw [Formula.phrase, Formula.phrase, Phrase.clause.injEq] at h
    rw [Atom.clause_injective h]
  | .group _ parts, .group _ others, h => by
    rw [Formula.phrase, Formula.phrase, Phrase.group.injEq] at h
    rw [h.1, Formula.phrases_injective h.2]
  | .atom _, .group _ _, h => by rw [Formula.phrase, Formula.phrase] at h; cases h
  | .group _ _, .atom _, h => by rw [Formula.phrase, Formula.phrase] at h; cases h

/-- Formulas that are written as the same phrases are the same, one by one. -/
theorem Formula.phrases_injective : ∀ {fs gs : List Formula},
    Formula.phrases fs = Formula.phrases gs → fs = gs
  | [], [], _ => rfl
  | f :: fs, g :: gs, h => by
    rw [Formula.phrases, Formula.phrases, List.cons.injEq] at h
    rw [Formula.phrase_injective h.1, Formula.phrases_injective h.2]
  | [], _ :: _, h => by rw [Formula.phrases, Formula.phrases] at h; cases h
  | _ :: _, [], h => by rw [Formula.phrases, Formula.phrases] at h; cases h

end

end RecordFilter
