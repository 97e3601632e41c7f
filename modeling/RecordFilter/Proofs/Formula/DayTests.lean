import RecordFilter.Proofs.Calendar.DateReading
import RecordFilter.Proofs.Formula.Reader
import RecordFilter.Proofs.Formula.Written

/-!
# `RecordFilter.Proofs.Formula.DayTests`: what the text of a test says of a day

A test of a date column is a call that compares the day in the column with a given day, a negation,
or a conjunction. `DayTest.ofText?` reads it from text, with the given days as civil dates, and
`DayTest.Holds` says on which days it holds.

The reader is told the name of the column. So it needs no end of the column reference in the text,
and a name may have any characters.

* `Reader.ReadsDay`: the reader finds a test whatever follows its text, with one lemma for each
  form of a test.
* `Atom.ofText?_text`: the text of every test that compares days reads back.
-/

set_option autoImplicit false

namespace RecordFilter

/-! ### Tests of a day -/

/-- The functions that compare the day in a column with a given day. -/
inductive DayFunction where
  | isSame
  | isBefore
  | isAfter
  deriving DecidableEq

namespace DayFunction

/-- The name of the function. -/
def name : DayFunction → String
  | .isSame => "IS_SAME"
  | .isBefore => "IS_BEFORE"
  | .isAfter => "IS_AFTER"

/-- What a call can have after the given day. The unit can be left out where the order of the days
is asked for. -/
def endings : DayFunction → List String
  | .isSame => [",'days')"]
  | .isBefore | .isAfter => [",'days')", ")"]

/-- The function holds for the day in the column and the given day. -/
def Holds (day given : Civil) : DayFunction → Prop
  | .isSame => day = given
  | .isBefore => day.dayNumber < given.dayNumber
  | .isAfter => given.dayNumber < day.dayNumber

end DayFunction

/-- A test of the day in a column. -/
inductive DayTest where
  | call (function : DayFunction) (given : Civil)
  | not (test : DayTest)
  | both (first second : DayTest)

/-- The test holds on the day. -/
def DayTest.Holds (day : Civil) : DayTest → Prop
  | .call function given => function.Holds day given
  | .not test => ¬ test.Holds day
  | .both first second => first.Holds day ∧ second.Holds day

/-! ### The reader -/

namespace Reader

/-- A call of the function on the column. -/
def dayCall? (column : String) (function : DayFunction) (cs : List Char) :
    Option (DayTest × List Char) := do
  let cs ← expect? function.name cs
  let cs ← expect? "(" cs
  let cs ← expect? (columnReference column) cs
  let cs ← expect? "," cs
  let (day, cs) ← day? cs
  let given ← Civil.ofText? day
  let cs ← function.endings.findSome? (expect? · cs)
  return (.call function given, cs)

/-- A test of the day in the column. The count bounds the tests that are read one inside the
other. -/
def dayTest? (column : String) : Nat → List Char → Option (DayTest × List Char)
  | 0, _ => none
  | n + 1, cs =>
    ([DayFunction.isSame, .isBefore, .isAfter].findSome? (dayCall? column · cs)) <|>
      (do let cs ← expect? "NOT(" cs
          let (test, cs) ← dayTest? column n cs
          let cs ← expect? ")" cs
          return (.not test, cs)) <|>
      (do let cs ← expect? "AND(" cs
          let (first, cs) ← dayTest? column n cs
          let cs ← expect? "," cs
          let (second, cs) ← dayTest? column n cs
          let cs ← expect? ")" cs
          return (.both first second, cs))

end Reader

/-- The test of the day in the column that the whole text is. -/
def DayTest.ofText? (column s : String) : Option DayTest :=
  match Reader.dayTest? column s.toList.length s.toList with
  | some (test, []) => some test
  | _ => none

/-! ### Reading what is written -/

/-- A call of the function, with the given ending. -/
def DayFunction.callChars (function : DayFunction) (column : String) (d : Date)
    (ending : String) : List Char :=
  function.name.toList ++ '(' :: (columnChars column ++ ',' :: (dayChars d.text ++ ending.toList))

namespace Reader

variable {column : String} {depth : Nat} {cs ds : List Char} {e e' : DayTest}

/-- No ending of a call is the beginning of another one. -/
theorem ending?_append {function : DayFunction} {ending : String}
    (h : ending ∈ function.endings) (r : List Char) :
    function.endings.findSome? (expect? · (ending.toList ++ r)) = some r := by
  cases function with
  | isSame =>
    cases List.mem_singleton.mp h
    simp [DayFunction.endings, expect?, List.isPrefixOf?]
  | isBefore | isAfter =>
    simp only [DayFunction.endings, List.mem_cons, List.not_mem_nil, or_false] at h
    rcases h with rfl | rfl
    · simp [DayFunction.endings, expect?, List.isPrefixOf?]
    · simp [DayFunction.endings, expect?, List.isPrefixOf?]

/-- The column that is asked for is taken off the front. -/
theorem expect?_columnReference (r : List Char) :
    expect? (columnReference column) (columnChars column ++ r) = some r := by
  rw [← toList_columnReference]
  exact expect?_append _ r

/-- A call is read with each of the endings that its function can have. -/
theorem dayCall?_append {function : DayFunction} {ending : String}
    (h : ending ∈ function.endings) (d : Date) (r : List Char) :
    dayCall? column function (function.callChars column d ending ++ r) =
      some (.call function d.civil, r) := by
  have hday : IsDayText d.text := d.quote_not_mem_text
  simp only [dayCall?, DayFunction.callChars, List.append_assoc, List.cons_append, expect?_append,
    expect?_open, expect?_columnReference, expect?_comma, day?_append hday, Civil.ofText?_text,
    ending?_append h, Option.bind_eq_bind, Option.bind_some]
  rfl

/-- A call of one function is no call of another. -/
theorem dayCall?_other {function other : DayFunction} (hne : other ≠ function) (d : Date)
    (ending : String) (r : List Char) :
    dayCall? column other (function.callChars column d ending ++ r) = none := by
  have hname : expect? other.name (function.callChars column d ending ++ r) = none := by
    unfold DayFunction.callChars
    cases function with
    | isSame => cases other <;> simp [expect?, DayFunction.name, List.isPrefixOf?] at hne ⊢
    | isBefore => cases other <;> simp [expect?, DayFunction.name, List.isPrefixOf?] at hne ⊢
    | isAfter => cases other <;> simp [expect?, DayFunction.name, List.isPrefixOf?] at hne ⊢
  rw [dayCall?, hname]
  rfl

/-- The reader finds the test of these characters whatever follows them. The test is nested to the
depth at most, and so deep a test has as many characters. -/
structure ReadsDay (column : String) (depth : Nat) (cs : List Char) (e : DayTest) : Prop where
  depth_le : depth ≤ cs.length
  read : ∀ n r, dayTest? column (depth + n) (cs ++ r) = some (e, r)

/-- The reader tries the functions in order and finds the one that is called. -/
theorem readsDay_call {function : DayFunction} {ending : String}
    (h : ending ∈ function.endings) (d : Date) :
    ReadsDay column 1 (function.callChars column d ending) (.call function d.civil) := by
  refine ⟨by simp [DayFunction.callChars]; omega, fun n r => ?_⟩
  have hfind : [DayFunction.isSame, .isBefore, .isAfter].findSome?
      (dayCall? column · (function.callChars column d ending ++ r)) =
        some (.call function d.civil, r) := by
    cases function with
    | isSame => simp [List.findSome?, dayCall?_append h]
    | isBefore => simp [List.findSome?, dayCall?_append h, dayCall?_other]
    | isAfter => simp [List.findSome?, dayCall?_append h, dayCall?_other]
  rw [Nat.add_comm, dayTest?, hfind]
  rfl

/-- A negation is read around a test. It begins as no call does. -/
theorem ReadsDay.not (h : ReadsDay column depth cs e) :
    ReadsDay column (depth + 1) ("NOT(".toList ++ (cs ++ [')'])) (.not e) := by
  have hdepth := h.depth_le
  refine ⟨by simp; omega, fun n r => ?_⟩
  have hcall : [DayFunction.isSame, .isBefore, .isAfter].findSome?
      (dayCall? column · ("NOT(".toList ++ (cs ++ ')' :: r))) = none := by
    simp [List.findSome?, dayCall?, expect?, DayFunction.name, List.isPrefixOf?]
  rw [Nat.add_right_comm, dayTest?, List.append_assoc, List.append_assoc, List.cons_append,
    List.nil_append, hcall]
  simp only [expect?_append, h.read n, expect?_close, Option.bind_eq_bind, Option.bind_some]
  rfl

/-- Two tests are read one after the other. What stands before them begins as neither a call nor a
negation does. -/
theorem ReadsDay.both (h : ReadsDay column depth cs e) (h' : ReadsDay column depth ds e') :
    ReadsDay column (depth + 1) ("AND(".toList ++ (cs ++ ',' :: (ds ++ [')']))) (.both e e') := by
  have hdepth := h.depth_le
  refine ⟨by simp; omega, fun n r => ?_⟩
  have hcall : [DayFunction.isSame, .isBefore, .isAfter].findSome?
      (dayCall? column · ("AND(".toList ++ (cs ++ ',' :: (ds ++ ')' :: r)))) = none := by
    simp [List.findSome?, dayCall?, expect?, DayFunction.name, List.isPrefixOf?]
  have hnot : expect? "NOT(" ("AND(".toList ++ (cs ++ ',' :: (ds ++ ')' :: r))) = none := by
    simp [expect?, List.isPrefixOf?]
  rw [Nat.add_right_comm, dayTest?, List.append_assoc, List.append_assoc, List.cons_append,
    List.append_assoc, List.cons_append, List.nil_append, hcall]
  simp only [hnot, expect?_append, h.read n, h'.read n, expect?_comma, expect?_close,
    Option.bind_eq_bind, Option.bind_some, Option.bind_none]
  rfl

/-- The depth is no limit for a whole text. -/
theorem ReadsDay.ofText? {s : String} (h : ReadsDay column depth s.toList e) :
    DayTest.ofText? column s = some e := by
  have hread := h.read (s.toList.length - depth) []
  rw [Nat.add_sub_cancel' h.depth_le, List.append_nil] at hread
  rw [DayTest.ofText?, hread]

end Reader

/-- The column of a test that compares days, and what the test says of the day there. -/
def Atom.dayTest? : Atom → Option (String × DayTest)
  | .sameDay c d => some (c, .call .isSame d.civil)
  | .notSameDay c d => some (c, .not (.call .isSame d.civil))
  | .before c d => some (c, .call .isBefore d.civil)
  | .after c d => some (c, .call .isAfter d.civil)
  | .within c start stop =>
    some (c, .both (.call .isAfter start.civil) (.call .isBefore stop.civil))
  | .blank _ | .notBlank _ | .checked _ _ | .compare _ _ _ | .found _ _ | .notFound _ _ => none

/-- A call with the unit as its ending is a call in the text of a test. -/
theorem DayFunction.callChars_unit (function : DayFunction) (column : String) (d : Date) :
    function.callChars column d ",'days')" = (dayCall function.name column d).toList :=
  (toList_dayCall function.name column d).symm

/-- Every call can end with the unit. -/
theorem DayFunction.unit_mem_endings (function : DayFunction) :
    ",'days')" ∈ function.endings := by
  cases function <;> decide

/-- The text of a test that compares days reads as what the test says. -/
theorem Atom.ofText?_text {a : Atom} {column : String} {e : DayTest}
    (h : a.dayTest? = some (column, e)) : DayTest.ofText? column a.text = some e := by
  have hcall : ∀ (function : DayFunction) (d : Date), Reader.ReadsDay column 1
      (dayCall function.name column d).toList (.call function d.civil) := by
    intro function d
    rw [← function.callChars_unit]
    exact Reader.readsDay_call function.unit_mem_endings d
  cases a with
  | sameDay c d =>
    cases h
    exact (hcall .isSame d).ofText?
  | before c d =>
    cases h
    exact (hcall .isBefore d).ofText?
  | after c d =>
    cases h
    exact (hcall .isAfter d).ofText?
  | notSameDay c d =>
    cases h
    have htext : (Atom.notSameDay column d).text.toList =
        "NOT(".toList ++ ((dayCall "IS_SAME" column d).toList ++ [')']) := by
      show ("NOT(" ++ dayCall "IS_SAME" column d ++ ")").toList = _
      rw [String.toList_append, String.toList_append, List.append_assoc]
      rfl
    exact (htext ▸ (hcall .isSame d).not : Reader.ReadsDay _ 2 _ _).ofText?
  | within c start stop =>
    cases h
    -- In a window the calls end without the unit, as calls for the order of days may.
    have hstart : Reader.ReadsDay column 1 (DayFunction.isAfter.callChars column start ")") _ :=
      Reader.readsDay_call (by decide) start
    have hstop : Reader.ReadsDay column 1 (DayFunction.isBefore.callChars column stop ")") _ :=
      Reader.readsDay_call (by decide) stop
    have htext : (Atom.within column start stop).text.toList =
        "AND(".toList ++ (DayFunction.isAfter.callChars column start ")" ++
          ',' :: (DayFunction.isBefore.callChars column stop ")" ++ [')'])) := by
      show ("AND(IS_AFTER(" ++ columnReference column ++ "," ++ dateLiteral start ++
        "),IS_BEFORE(" ++ columnReference column ++ "," ++ dateLiteral stop ++ "))").toList = _
      simp [DayFunction.callChars, DayFunction.name, toList_columnReference, toList_dateLiteral]
    exact (htext ▸ hstart.both hstop : Reader.ReadsDay _ 2 _ _).ofText?
  | blank | notBlank | checked | compare | found | notFound => cases h

end RecordFilter
