import Mathlib.Data.List.Basic
import RecordFilter.Proofs.Formula.Grammar

/-!
# `RecordFilter.Proofs.Formula.Reader`: formula text reads one way only

A reader for formula text that looks at the text from left to right. Every function gives what it
has read and the rest of the text. `Phrase.derives_unique` is the result: no text has two
phrases. It follows from `Reader.phrase?_append`, which says that the reader finds a phrase of the
text whatever follows it, if what follows can end a phrase.

Two places need more than one character to decide. A group opens as a window of days does, with
`AND(IS_AFTER(`, so the reader tries a group first and shows that no window reads as one. A
numeral ends with the longest run of its characters, so the text after it may not go on with one.
-/

set_option autoImplicit false

namespace RecordFilter

/-! ### The reader -/

namespace Reader

/-- The text after a fixed beginning. -/
def expect? (beginning : String) (cs : List Char) : Option (List Char) :=
  beginning.toList.isPrefixOf? cs

/-- The characters before the first `stop`, and the text after it. -/
def until? (stop : Char) : List Char → Option (List Char × List Char)
  | [] => none
  | c :: cs =>
    if c = stop then some ([], cs)
    else (until? stop cs).map fun r => (c :: r.1, r.2)

/-- The text that the characters up to the closing quote stand for. -/
def quoted? : List Char → Option (List Char × List Char)
  | [] => none
  | '"' :: cs => some ([], cs)
  | '\\' :: c :: cs => (quoted? cs).map fun r => (c :: r.1, r.2)
  | c :: cs => (quoted? cs).map fun r => (c :: r.1, r.2)

/-- The name of a column. -/
def column? (cs : List Char) : Option (String × List Char) := do
  let cs ← expect? "\x7b" cs
  let (name, cs) ← until? '}' cs
  return (String.ofList name, cs)

/-- A day. -/
def day? (cs : List Char) : Option (String × List Char) := do
  let cs ← expect? "'" cs
  let (day, cs) ← until? '\'' cs
  return (String.ofList day, cs)

/-- A quoted text, or a numeral that is as long as it can be. -/
def literal? : List Char → Option (Literal × List Char)
  | '"' :: cs => (quoted? cs).map fun r => (.text (String.ofList r.1), r.2)
  | cs =>
    if (cs.takeWhile isNumeralChar).isEmpty then none
    else some (.number (String.ofList (cs.takeWhile isNumeralChar)), cs.dropWhile isNumeralChar)

/-- The comparisons with their symbols. The longer of two symbols comes first. -/
def comparisons : List (String × Comparison) :=
  [("!=", .ne), (">=", .ge), ("<=", .le), ("=", .eq), (">", .gt), ("<", .lt)]

/-- A comparison of the column with a literal. -/
def comparison? (column : String) (cs : List Char) : Option (Clause × List Char) :=
  comparisons.findSome? fun (symbol, op) => do
    let cs ← expect? symbol cs
    let (l, cs) ← literal? cs
    return (.compare op column l, cs)

/-- A clause that begins with its column. -/
def columnClause? (cs : List Char) : Option (Clause × List Char) := do
  let (c, cs) ← column? cs
  ((expect? "=BLANK()" cs).map fun cs => (.blank c, cs)) <|>
    ((expect? "=TRUE()" cs).map fun cs => (.checked c true, cs)) <|>
    ((expect? "=FALSE()" cs).map fun cs => (.checked c false, cs)) <|>
    comparison? c cs

/-- The column and the day of a call. -/
def call? (function : String) (cs : List Char) : Option ((String × String) × List Char) := do
  let cs ← expect? function cs
  let cs ← expect? "(" cs
  let (c, cs) ← column? cs
  let cs ← expect? "," cs
  let (d, cs) ← day? cs
  let cs ← expect? ",'days')" cs
  return ((c, d), cs)

/-- A clause that is a call. -/
def callClause? (cs : List Char) : Option (Clause × List Char) :=
  ((call? "IS_SAME" cs).map fun r => (.sameDay r.1.1 r.1.2, r.2)) <|>
    ((call? "IS_BEFORE" cs).map fun r => (.before r.1.1 r.1.2, r.2)) <|>
    ((call? "IS_AFTER" cs).map fun r => (.after r.1.1 r.1.2, r.2))

/-- A clause with a negation. -/
def notClause? (cs : List Char) : Option (Clause × List Char) := do
  let cs ← expect? "NOT(" cs
  (do let (c, cs) ← column? cs
      let cs ← expect? "=BLANK())" cs
      return (.notBlank c, cs)) <|>
    (do let ((c, d), cs) ← call? "IS_SAME" cs
        let cs ← expect? ")" cs
        return (.notSameDay c d, cs))

/-- A clause that looks for a literal. -/
def findClause? (cs : List Char) : Option (Clause × List Char) := do
  let cs ← expect? "FIND(" cs
  let (l, cs) ← literal? cs
  let cs ← expect? "," cs
  let (c, cs) ← column? cs
  let cs ← expect? ")" cs
  match expect? "=FALSE()" cs with
  | some cs => return (.notFound l c, cs)
  | none => return (.found l c, cs)

/-- A window of days. -/
def withinClause? (cs : List Char) : Option (Clause × List Char) := do
  let cs ← expect? "AND(IS_AFTER(" cs
  let (c, cs) ← column? cs
  let cs ← expect? "," cs
  let (start, cs) ← day? cs
  let cs ← expect? "),IS_BEFORE(" cs
  let (c', cs) ← column? cs
  guard (c' = c)
  let cs ← expect? "," cs
  let (stop, cs) ← day? cs
  let cs ← expect? "))" cs
  return (.within c start stop, cs)

/-- A clause. Its first character tells its kind. -/
def clause? (cs : List Char) : Option (Clause × List Char) :=
  match cs.head? with
  | some '{' => columnClause? cs
  | some 'N' => notClause? cs
  | some 'I' => callClause? cs
  | some 'F' => findClause? cs
  | some 'A' => withinClause? cs
  | _ => none

/-- The conjunction of a group, up to the opening parenthesis. -/
def opening? (cs : List Char) : Option (Conjunction × List Char) :=
  ((expect? "AND(" cs).map fun cs => (.all, cs)) <|>
    ((expect? "OR(" cs).map fun cs => (.any, cs))

mutual

/-- A phrase. The count bounds the phrases that are read one inside the other or one after the
other. -/
def phrase? : Nat → List Char → Option (Phrase × List Char)
  | 0, _ => none
  | n + 1, cs =>
    (do let (conjunction, cs) ← opening? cs
        let (parts, cs) ← parts? n cs
        return (.group conjunction parts, cs)) <|>
      ((clause? cs).map fun r => (.clause r.1, r.2))

/-- The parts of a group up to the closing parenthesis. -/
def parts? : Nat → List Char → Option (List Phrase × List Char)
  | 0, _ => none
  | n + 1, cs => do
    let (e, cs) ← phrase? n cs
    match cs with
    | ')' :: cs => return ([e], cs)
    | ',' :: ' ' :: cs => do
      let (rest, cs) ← parts? n cs
      return (e :: rest, cs)
    | _ => none

end

/-! ### Parts of clauses -/

/-- What is expected is taken off the front. -/
theorem expect?_append (beginning : String) (r : List Char) :
    expect? beginning (beginning.toList ++ r) = some r :=
  List.isPrefixOf?_eq_some_iff_append_eq.mpr rfl

/-- An opening parenthesis is taken off the front. -/
theorem expect?_open (cs : List Char) : expect? "(" ('(' :: cs) = some cs :=
  expect?_append "(" cs

/-- A comma is taken off the front. -/
theorem expect?_comma (cs : List Char) : expect? "," (',' :: cs) = some cs :=
  expect?_append "," cs

/-- A closing parenthesis is taken off the front. -/
theorem expect?_close (cs : List Char) : expect? ")" (')' :: cs) = some cs :=
  expect?_append ")" cs

/-- A run ends at the first character that stops it. -/
theorem until?_append {stop : Char} {cs : List Char} (h : stop ∉ cs) (r : List Char) :
    until? stop (cs ++ stop :: r) = some (cs, r) := by
  induction cs with
  | nil => simp [until?]
  | cons c cs ih =>
    have hc : c ≠ stop := fun hc => h (hc ▸ List.mem_cons_self)
    have hcs : stop ∉ cs := fun hcs => h (List.mem_cons_of_mem c hcs)
    rw [List.cons_append, until?, if_neg hc, ih hcs]
    rfl

/-- The reader follows the marks: it stops at the quote that closes the body, and not before. -/
theorem quoted?_append {value body : List Char} (h : QuotedBody value body) (r : List Char) :
    quoted? (body ++ '"' :: r) = some (value, r) := by
  induction h with
  | nil => rfl
  | plain hquote hmark h ih =>
    rw [List.cons_append, quoted?, ih]
    · rfl
    · exact hquote
    · intro d ds h _
      exact hmark h
  | marked c h ih =>
    rw [List.cons_append, List.cons_append, quoted?, ih]
    rfl

/-- A column reference is read, and what follows it is left. The name has no closing brace, so the
brace that is found is the one at its end. -/
theorem column?_append {name : String} (h : IsColumnName name) (r : List Char) :
    column? (columnChars name ++ r) = some (name, r) := by
  have hopen : expect? "\x7b" (columnChars name ++ r) = some (name.toList ++ '}' :: r) := by
    simpa [columnChars] using expect?_append "\x7b" (name.toList ++ '}' :: r)
  simp only [column?, hopen, Option.bind_eq_bind, Option.bind_some, until?_append h,
    String.ofList_toList]
  rfl

/-- A day between its quotes is read, and what follows it is left. -/
theorem day?_append {day : String} (h : IsDayText day) (r : List Char) :
    day? (dayChars day ++ r) = some (day, r) := by
  have hopen : expect? "'" (dayChars day ++ r) = some (day.toList ++ '\'' :: r) := by
    simpa [dayChars] using expect?_append "'" (day.toList ++ '\'' :: r)
  simp only [day?, hopen, Option.bind_eq_bind, Option.bind_some, until?_append h,
    String.ofList_toList]
  rfl

/-- A text that does not go on with a character of numerals. -/
def EndsNumeral (r : List Char) : Prop :=
  ∀ c ∈ r.head?, isNumeralChar c = false

/-- A numeral is the longest run of its characters when none follows it. -/
theorem numeralRun_append {cs r : List Char} (h : ∀ c ∈ cs, isNumeralChar c = true)
    (hr : EndsNumeral r) :
    (cs ++ r).takeWhile isNumeralChar = cs ∧ (cs ++ r).dropWhile isNumeralChar = r := by
  rw [List.takeWhile_append_of_pos h, List.dropWhile_append_of_pos h]
  cases r with
  | nil => simp
  | cons c r => simp [hr c rfl]

/-- A literal begins with a quote or with a character of numerals. -/
theorem literalText_head {l : Literal} {cs : List Char} (h : LiteralText l cs) :
    ∃ c rest, cs = c :: rest ∧ (c = '"' ∨ isNumeralChar c = true) := by
  cases h with
  | text h => exact ⟨_, _, rfl, .inl rfl⟩
  | @number digits hne h =>
    cases hd : digits.toList with
    | nil => exact absurd hd hne
    | cons c rest => exact ⟨c, rest, rfl, .inr (h c (by simp [hd]))⟩

/-- A literal is read, and what follows it is left. A quoted text ends by itself, but a numeral goes
on as long as there are characters for it. -/
theorem literal?_append {l : Literal} {cs r : List Char} (h : LiteralText l cs)
    (hr : EndsNumeral r) : literal? (cs ++ r) = some (l, r) := by
  cases h with
  | @text s body h =>
    rw [List.cons_append, List.append_assoc]
    show (quoted? (body ++ '"' :: r)).map _ = _
    rw [quoted?_append h]
    simp
  | @number digits hne h =>
    obtain ⟨htake, hdrop⟩ := numeralRun_append h hr
    -- The reader looks for a quote first, and a numeral does not begin with one.
    have hquote : ∀ cs, digits.toList ++ r ≠ '"' :: cs := by
      intro cs hcs
      cases hd : digits.toList with
      | nil => exact hne hd
      | cons d ds =>
        rw [hd] at hcs
        cases hcs
        exact absurd (h '"' (by simp [hd])) (by decide)
    rw [literal?, htake, hdrop, String.ofList_toList]
    · exact if_neg (by simpa using hne)
    · exact hquote

/-- The call of a function of days is read, and what follows it is left. -/
theorem call?_append (function : String) {c d : String} (hc : IsColumnName c)
    (hd : IsDayText d) (r : List Char) :
    call? function (callChars function c d ++ r) = some ((c, d), r) := by
  simp only [call?, callChars, List.append_assoc, List.cons_append, expect?_append, expect?_open,
    expect?_comma, column?_append hc, day?_append hd, Option.bind_eq_bind, Option.bind_some]
  rfl

/-! ### Clauses -/

/-- A comparison is read with its symbol, whatever the literal is. -/
theorem comparison?_append {op : Comparison} {symbol : List Char} (hop : ComparisonText op symbol)
    (c : String) {l : Literal} {cs r : List Char} (hl : LiteralText l cs) (hr : EndsNumeral r) :
    comparison? c (symbol ++ (cs ++ r)) = some (.compare op c l, r) := by
  obtain ⟨d, rest, hd, hhead⟩ := literalText_head hl
  -- After `<` and `>` the reader has looked for an equals sign, which begins no literal.
  have hne : '=' ≠ d := by
    rintro rfl
    revert hhead
    decide
  have hliteral : literal? (d :: (rest ++ r)) = some (l, r) := by
    have h := literal?_append hl hr
    rwa [hd] at h
  rw [hd, List.cons_append]
  cases hop <;>
    simp [comparison?, comparisons, expect?, List.isPrefixOf?, List.findSome?, hliteral, hne]

/-- A column with a comparison after it is read as the comparison. -/
theorem columnClause?_compare {op : Comparison} {symbol : List Char}
    (hop : ComparisonText op symbol) {c : String} (hc : IsColumnName c) {l : Literal}
    {cs r : List Char} (hl : LiteralText l cs) (hr : EndsNumeral r) :
    columnClause? (columnChars c ++ (symbol ++ (cs ++ r))) = some (.compare op c l, r) := by
  have hcomparison := comparison?_append hop c hl hr
  obtain ⟨d, rest, hd, hhead⟩ := literalText_head hl
  have hne : 'B' ≠ d ∧ 'T' ≠ d ∧ 'F' ≠ d := by
    refine ⟨?_, ?_, ?_⟩ <;> (rintro rfl; revert hhead; decide)
  rw [hd, List.cons_append] at hcomparison ⊢
  -- No literal begins as `BLANK()`, `TRUE()` or `FALSE()` do.
  have hcall : ∀ p : String, p = "=BLANK()" ∨ p = "=TRUE()" ∨ p = "=FALSE()" →
      expect? p (symbol ++ d :: (rest ++ r)) = none := by
    rintro p (rfl | rfl | rfl) <;> cases hop <;> simp [expect?, List.isPrefixOf?, hne]
  simp [columnClause?, column?_append hc, hcall, hcomparison]

/-- A search is read with all that the reader looks ahead for: whether it is denied shows only
behind its closing parenthesis. -/
theorem findClause?_append {l : Literal} {c : String} {cs r : List Char}
    (hl : LiteralText l cs) (hc : IsColumnName c) :
    findClause? ("FIND(".toList ++ (cs ++ ',' :: (columnChars c ++ ')' :: r)))
      = match expect? "=FALSE()" r with
        | some r => some (.notFound l c, r)
        | none => some (.found l c, r) := by
  have hend : EndsNumeral (',' :: (columnChars c ++ ')' :: r)) := by
    intro d hd
    cases hd
    decide
  simp only [findClause?, expect?_append, literal?_append hl hend, expect?_comma,
    column?_append hc, expect?_close, Option.bind_eq_bind, Option.bind_some]
  rfl

/-- A text that can stand after a phrase: the end, or what follows a part of a group. -/
def EndsPhrase (r : List Char) : Prop :=
  ∀ c ∈ r.head?, c = ',' ∨ c = ')'

/-- What can stand after a phrase goes on with no numeral. -/
theorem EndsPhrase.endsNumeral {r : List Char} (h : EndsPhrase r) : EndsNumeral r := by
  intro c hc
  rcases h c hc with rfl | rfl <;> decide

/-- What can stand after a phrase denies no search. -/
theorem EndsPhrase.expect?_false {r : List Char} (h : EndsPhrase r) :
    expect? "=FALSE()" r = none := by
  cases r with
  | nil => rfl
  | cons c r => rcases h c rfl with rfl | rfl <;> rfl

/-- The reader finds a clause, whatever follows that can end it. -/
theorem clause?_append {t : Clause} {cs r : List Char} (h : ClauseText t cs)
    (hr : EndsPhrase r) : clause? (cs ++ r) = some (t, r) := by
  have hhead : ∀ (c : String) (cs : List Char), (columnChars c ++ cs).head? = some '{' :=
    fun _ _ => rfl
  cases h with
  | @blank c hc =>
    rw [List.append_assoc, clause?, hhead]
    simp [columnClause?, column?_append hc, expect?, List.isPrefixOf?]
  | @checked c hc =>
    rw [List.append_assoc, clause?, hhead]
    simp [columnClause?, column?_append hc, expect?, List.isPrefixOf?]
  | @unchecked c hc =>
    rw [List.append_assoc, clause?, hhead]
    simp [columnClause?, column?_append hc, expect?, List.isPrefixOf?]
  | @compare op c l symbol cs hc hop hl =>
    rw [List.append_assoc, List.append_assoc, clause?, hhead]
    exact columnClause?_compare hop hc hl hr.endsNumeral
  | @notBlank c hc =>
    rw [List.append_assoc, List.append_assoc]
    show notClause? ("NOT(".toList ++ _) = _
    rw [notClause?, expect?_append]
    simp [column?_append hc, expect?, List.isPrefixOf?]
  | @notSameDay c d hc hd =>
    rw [List.append_assoc, List.append_assoc]
    show notClause? ("NOT(".toList ++ _) = _
    have hcolumn : ∀ r, column? (callChars "IS_SAME" c d ++ r) = none := by
      intro r
      simp [column?, expect?, callChars, List.isPrefixOf?]
    rw [notClause?, expect?_append]
    simp [hcolumn, call?_append "IS_SAME" hc hd, expect?, List.isPrefixOf?]
  | @sameDay c d hc hd =>
    show callClause? (callChars "IS_SAME" c d ++ r) = _
    simp [callClause?, call?_append "IS_SAME" hc hd]
  | @before c d hc hd =>
    show callClause? (callChars "IS_BEFORE" c d ++ r) = _
    have hsame : call? "IS_SAME" (callChars "IS_BEFORE" c d ++ r) = none := by
      simp [call?, expect?, callChars, List.isPrefixOf?]
    simp [callClause?, hsame, call?_append "IS_BEFORE" hc hd]
  | @after c d hc hd =>
    show callClause? (callChars "IS_AFTER" c d ++ r) = _
    have hsame : call? "IS_SAME" (callChars "IS_AFTER" c d ++ r) = none := by
      simp [call?, expect?, callChars, List.isPrefixOf?]
    have hbefore : call? "IS_BEFORE" (callChars "IS_AFTER" c d ++ r) = none := by
      simp [call?, expect?, callChars, List.isPrefixOf?]
    simp [callClause?, hsame, hbefore, call?_append "IS_AFTER" hc hd]
  | @within c start stop hc hstart hstop =>
    simp only [List.append_assoc, List.cons_append]
    show withinClause? ("AND(IS_AFTER(".toList ++ _) = _
    simp only [withinClause?, expect?_append, column?_append hc, day?_append hstart,
      day?_append hstop, expect?_comma, guard, if_pos, Option.bind_eq_bind, Option.bind_some]
    rfl
  | @found l c cs hl hc =>
    -- What can end a phrase does not go on with the test that makes the search negative.
    have hfind := findClause?_append hl hc (r := r)
    simp only [List.append_assoc, List.cons_append]
    show findClause? ("FIND(".toList ++ _) = _
    rw [hr.expect?_false] at hfind
    exact hfind
  | @notFound l c cs hl hc =>
    have hfind := findClause?_append hl hc (r := "=FALSE()".toList ++ r)
    simp only [List.append_assoc, List.cons_append]
    show findClause? ("FIND(".toList ++ _) = _
    rw [expect?_append] at hfind
    exact hfind

/-! ### Phrases -/

/-- What a window of days has after its opening parenthesis. -/
def windowChars (c start : String) (r : List Char) : List Char :=
  "IS_AFTER".toList ++ '(' :: (columnChars c ++ ',' :: (dayChars start ++
    ("),IS_BEFORE(".toList ++ r)))

/-- The first part of a window does not end as a call does. -/
theorem clause?_windowChars {c start : String} (hc : IsColumnName c) (hstart : IsDayText start)
    (r : List Char) : clause? (windowChars c start r) = none := by
  have hsame : call? "IS_SAME" (windowChars c start r) = none := by
    unfold windowChars
    simp [call?, expect?, List.isPrefixOf?]
  have hbefore : call? "IS_BEFORE" (windowChars c start r) = none := by
    unfold windowChars
    simp [call?, expect?, List.isPrefixOf?]
  have hafter : call? "IS_AFTER" (windowChars c start r) = none := by
    -- The call is read up to the day. Then it asks for a unit, where a window closes.
    unfold windowChars
    simp only [call?, expect?_append, expect?_open, expect?_comma, column?_append hc,
      day?_append hstart, Option.bind_eq_bind, Option.bind_some]
    rfl
  show callClause? (windowChars c start r) = none
  simp [callClause?, hsame, hbefore, hafter]

/-- The inside of a window is not read as the parts of a group: its first call has no unit. So a
window is told from a group that begins in the same way. -/
theorem parts?_windowChars (n : Nat) {c start : String} (hc : IsColumnName c)
    (hstart : IsDayText start) (r : List Char) : parts? n (windowChars c start r) = none := by
  have hopening : opening? (windowChars c start r) = none := rfl
  match n with
  | 0 => rfl
  | 1 => rfl
  | n + 2 =>
    have hphrase : phrase? (n + 1) (windowChars c start r) = none := by
      rw [phrase?, hopening, clause?_windowChars hc hstart]
      rfl
    rw [parts?, hphrase]
    rfl

/-- No clause reads as a group. -/
theorem opening?_bind_parts?_clause {t : Clause} {cs : List Char} (h : ClauseText t cs) (n : Nat)
    (r : List Char) : ((opening? (cs ++ r)).bind fun p => parts? n p.2) = none := by
  cases h with
  | @within c start stop hc hstart hstop =>
    have hopening : opening? ("AND(IS_AFTER(".toList ++ (columnChars c ++ ',' ::
          (dayChars start ++ ("),IS_BEFORE(".toList ++
            (columnChars c ++ ',' :: (dayChars stop ++ "))".toList))))) ++ r)
        = some (.all, windowChars c start
          (columnChars c ++ ',' :: (dayChars stop ++ "))".toList) ++ r)) := by
      unfold windowChars
      simp [opening?, expect?, List.isPrefixOf?]
    rw [hopening]
    exact parts?_windowChars n hc hstart _
  | blank | checked | unchecked | compare | notBlank | notSameDay | sameDay | before | after | found
  | notFound =>
    simp [opening?, expect?, columnChars, callChars, List.isPrefixOf?]

mutual

/-- The reader finds a phrase of a text, whatever follows that can end it. -/
theorem phrase?_append : ∀ {e : Phrase} {cs : List Char}, e.Derives cs →
    ∀ (n : Nat), cs.length < n → ∀ r, EndsPhrase r → phrase? n (cs ++ r) = some (e, r)
  | _, cs, @Phrase.Derives.clause t _ h, n + 1, _, r, hr => by
    -- The group is tried first, so it has to fail on a clause before the clause is read.
    have hgroup := opening?_bind_parts?_clause h n r
    rw [phrase?, clause?_append h hr]
    cases ho : opening? (cs ++ r) with
    | none => rfl
    | some p =>
      rw [ho] at hgroup
      have hparts : parts? n p.2 = none := hgroup
      simp [hparts]
  | _, _, @Phrase.Derives.group conjunction parts keyword cs hkeyword h, n + 1, hn, r, hr => by
    have hopening : ∀ ds, opening? (keyword ++ '(' :: ds) = some (conjunction, ds) := by
      intro ds
      cases hkeyword <;> simp [opening?, expect?, List.isPrefixOf?]
    -- The keyword and the parentheses pay for the two levels of recursion.
    have hlength : cs.length + 1 < n := by
      have hshortest : 2 ≤ keyword.length := by cases hkeyword <;> decide
      simp only [List.length_append, List.length_cons, List.length_nil] at hn
      omega
    have hparts := parts?_append h n hlength r
    rw [phrase?, List.append_assoc, List.cons_append, List.append_assoc, hopening]
    simp only [Option.bind_eq_bind, Option.bind_some, List.cons_append, List.nil_append, hparts]
    rfl

/-- The reader finds the parts of a group up to its end. -/
theorem parts?_append : ∀ {es : List Phrase} {cs : List Char}, Phrase.DerivesAll es cs →
    ∀ (n : Nat), cs.length + 1 < n → ∀ r, parts? n (cs ++ ')' :: r) = some (es, r)
  | _, cs, .one h, n + 1, hn, r => by
    have hend : EndsPhrase (')' :: r) := by
      intro c hc
      cases hc
      exact .inr rfl
    rw [parts?, phrase?_append h n (by omega) _ hend]
    rfl
  | _, _, @Phrase.DerivesAll.more _ cs _ ds h hrest, n + 1, hn, r => by
    simp only [List.length_append, List.length_cons] at hn
    have hend : EndsPhrase (',' :: ' ' :: (ds ++ ')' :: r)) := by
      intro c hc
      cases hc
      exact .inl rfl
    rw [List.append_assoc, List.cons_append, List.cons_append, parts?,
      phrase?_append h n (by omega) _ hend]
    show (parts? n (ds ++ ')' :: r) >>= _) = _
    rw [parts?_append hrest n (by omega) r]
    rfl

end

end Reader

/-- No text has two phrases. -/
theorem Phrase.derives_unique {e e' : Phrase} {cs : List Char} (h : e.Derives cs)
    (h' : e'.Derives cs) : e = e' := by
  have hend : Reader.EndsPhrase [] := fun c hc => nomatch hc
  have hread := Reader.phrase?_append h (cs.length + 1) (by omega) [] hend
  rw [Reader.phrase?_append h' (cs.length + 1) (by omega) [] hend] at hread
  cases hread
  rfl

end RecordFilter
