import RecordFilter.Formula.Basic

/-!
# `RecordFilter.Proofs.Formula.Grammar`: the grammar of formula text

A formula is a text in a small language, and `Phrase.Derives` is its grammar:

    phrase ::= (AND | OR) '(' phrase (', ' phrase)* ')' | clause

A clause is one of the shapes that a test is written in. A column stands between braces and ends
at the first closing one; a day is whatever stands between two single quotes; a quoted text ends
at the first quote without a backslash, where a backslash stands for the character after it; and
a numeral is a run of the characters that numerals are made of. The grammar is that of a reader,
so it is wider than what the printer writes: `"\a"` is a quoted text, `1e` a numeral and `'x'` a
day. It has symbols and keywords of its own; that the printer writes them is
`comparisonText_symbol` and `conjunctionText_keyword`.

Phrases keep days as text. `Formula.phrase` is the phrase of a formula.
-/

set_option autoImplicit false

namespace RecordFilter

/-- A test as it is read from text. -/
inductive Clause where
  | blank (column : String)
  | notBlank (column : String)
  | checked (column : String) (flag : Bool)
  | sameDay (column day : String)
  | notSameDay (column day : String)
  | before (column day : String)
  | after (column day : String)
  | within (column start stop : String)
  | compare (comparison : Comparison) (column : String) (literal : Literal)
  | found (literal : Literal) (column : String)
  | notFound (literal : Literal) (column : String)
  deriving DecidableEq

/-- A formula as it is read from text. -/
inductive Phrase where
  | clause (clause : Clause)
  | group (conjunction : Conjunction) (parts : List Phrase)

/-! ### Parts of clauses -/

/-- The characters of numerals. -/
def isNumeralChar (c : Char) : Bool :=
  c.isDigit || c == '+' || c == '-' || c == '.' || c == 'e' || c == 'E'

/-- A column reference. -/
def columnChars (name : String) : List Char :=
  '{' :: (name.toList ++ ['}'])

/-- A day between its quotes. -/
def dayChars (day : String) : List Char :=
  '\'' :: (day.toList ++ ['\''])

/-- A call of a function that compares a column with a day. -/
def callChars (function column day : String) : List Char :=
  function.toList ++ '(' :: (columnChars column ++ ',' :: (dayChars day ++ ",'days')".toList))

/-- A name that ends where its column reference ends. -/
def IsColumnName (name : String) : Prop :=
  '}' ∉ name.toList

/-- A day that ends where its quotes end. -/
def IsDayText (day : String) : Prop :=
  '\'' ∉ day.toList

/-- The texts of a comparison. -/
inductive ComparisonText : Comparison → List Char → Prop
  | eq : ComparisonText .eq "=".toList
  | ne : ComparisonText .ne "!=".toList
  | gt : ComparisonText .gt ">".toList
  | ge : ComparisonText .ge ">=".toList
  | lt : ComparisonText .lt "<".toList
  | le : ComparisonText .le "<=".toList

/-- The texts of a conjunction in front of its parts. -/
inductive ConjunctionText : Conjunction → List Char → Prop
  | all : ConjunctionText .all "AND".toList
  | any : ConjunctionText .any "OR".toList

/-- The characters between the quotes of a quoted text, and what they stand for. -/
inductive QuotedBody : List Char → List Char → Prop
  | nil : QuotedBody [] []
  | plain {c : Char} {value body : List Char} (hquote : c ≠ '"') (hmark : c ≠ '\\')
    (h : QuotedBody value body) : QuotedBody (c :: value) (c :: body)
  | marked (c : Char) {value body : List Char} (h : QuotedBody value body) :
    QuotedBody (c :: value) ('\\' :: c :: body)

/-- The texts of a literal. -/
inductive LiteralText : Literal → List Char → Prop
  | text {s : String} {body : List Char} (h : QuotedBody s.toList body) :
    LiteralText (.text s) ('"' :: (body ++ ['"']))
  | number {digits : String} (hne : digits.toList ≠ [])
    (h : ∀ c ∈ digits.toList, isNumeralChar c = true) :
    LiteralText (.number digits) digits.toList

/-! ### Clauses and phrases -/

/-- The texts of a clause. -/
inductive ClauseText : Clause → List Char → Prop
  | blank {c : String} (hc : IsColumnName c) :
    ClauseText (.blank c) (columnChars c ++ "=BLANK()".toList)
  | notBlank {c : String} (hc : IsColumnName c) :
    ClauseText (.notBlank c) ("NOT(".toList ++ (columnChars c ++ "=BLANK())".toList))
  | checked {c : String} (hc : IsColumnName c) :
    ClauseText (.checked c true) (columnChars c ++ "=TRUE()".toList)
  | unchecked {c : String} (hc : IsColumnName c) :
    ClauseText (.checked c false) (columnChars c ++ "=FALSE()".toList)
  | sameDay {c d : String} (hc : IsColumnName c) (hd : IsDayText d) :
    ClauseText (.sameDay c d) (callChars "IS_SAME" c d)
  | notSameDay {c d : String} (hc : IsColumnName c) (hd : IsDayText d) :
    ClauseText (.notSameDay c d) ("NOT(".toList ++ (callChars "IS_SAME" c d ++ [')']))
  | before {c d : String} (hc : IsColumnName c) (hd : IsDayText d) :
    ClauseText (.before c d) (callChars "IS_BEFORE" c d)
  | after {c d : String} (hc : IsColumnName c) (hd : IsDayText d) :
    ClauseText (.after c d) (callChars "IS_AFTER" c d)
  | within {c start stop : String} (hc : IsColumnName c) (hstart : IsDayText start)
    (hstop : IsDayText stop) :
    ClauseText (.within c start stop)
      ("AND(IS_AFTER(".toList ++ (columnChars c ++ ',' :: (dayChars start ++
        ("),IS_BEFORE(".toList ++ (columnChars c ++ ',' :: (dayChars stop ++ "))".toList))))))
  | compare {op : Comparison} {c : String} {l : Literal} {symbol cs : List Char}
    (hc : IsColumnName c) (hop : ComparisonText op symbol) (hl : LiteralText l cs) :
    ClauseText (.compare op c l) (columnChars c ++ (symbol ++ cs))
  | found {l : Literal} {c : String} {cs : List Char} (hl : LiteralText l cs)
    (hc : IsColumnName c) :
    ClauseText (.found l c) ("FIND(".toList ++ (cs ++ ',' :: (columnChars c ++ [')'])))
  | notFound {l : Literal} {c : String} {cs : List Char} (hl : LiteralText l cs)
    (hc : IsColumnName c) :
    ClauseText (.notFound l c)
      ("FIND(".toList ++ (cs ++ ',' :: (columnChars c ++ ")=FALSE()".toList)))

mutual

/-- The texts of a phrase. -/
inductive Phrase.Derives : Phrase → List Char → Prop
  | clause {t : Clause} {cs : List Char} (h : ClauseText t cs) : Phrase.Derives (.clause t) cs
  | group {conjunction : Conjunction} {parts : List Phrase} {keyword cs : List Char}
    (hkeyword : ConjunctionText conjunction keyword) (h : Phrase.DerivesAll parts cs) :
    Phrase.Derives (.group conjunction parts) (keyword ++ '(' :: (cs ++ [')']))

/-- The texts of the parts of a group, of which there is at least one. -/
inductive Phrase.DerivesAll : List Phrase → List Char → Prop
  | one {e : Phrase} {cs : List Char} (h : Phrase.Derives e cs) : Phrase.DerivesAll [e] cs
  | more {e : Phrase} {cs : List Char} {rest : List Phrase} {ds : List Char}
    (h : Phrase.Derives e cs) (hrest : Phrase.DerivesAll rest ds) :
    Phrase.DerivesAll (e :: rest) (cs ++ ',' :: ' ' :: ds)

end

/-! ### Formulas as phrases -/

/-- The clause that a test is written as. -/
def Atom.clause : Atom → Clause
  | .blank c => .blank c
  | .notBlank c => .notBlank c
  | .checked c flag => .checked c flag
  | .sameDay c d => .sameDay c d.text
  | .notSameDay c d => .notSameDay c d.text
  | .before c d => .before c d.text
  | .after c d => .after c d.text
  | .within c start stop => .within c start.text stop.text
  | .compare op c l => .compare op c l
  | .found l c => .found l c
  | .notFound l c => .notFound l c

mutual

/-- The phrase that a formula is written as. -/
def Formula.phrase : Formula → Phrase
  | .atom a => .clause a.clause
  | .group conjunction parts => .group conjunction (Formula.phrases parts)

/-- The phrases that formulas are written as. -/
def Formula.phrases : List Formula → List Phrase
  | [] => []
  | f :: rest => f.phrase :: Formula.phrases rest

end

end RecordFilter
