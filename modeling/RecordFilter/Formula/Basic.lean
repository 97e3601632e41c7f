import RecordFilter.Calendar.Date
import RecordFilter.Text.Quoted
import RecordFilter.Tree.Operator

/-!
# `RecordFilter.Formula.Basic`: formulas and their text

A formula is a test of one column, or a conjunction of formulas. `Formula.text` writes it. A
column is written between braces and its name is not escaped, because the language has no escape
for a brace; a text is a quoted literal, and a date stands between single quotes.
-/

set_option autoImplicit false

namespace RecordFilter

/-- A literal: a text, or the digits of a number as they are written. -/
inductive Literal where
  | text (value : String)
  | number (digits : String)
  deriving DecidableEq, Inhabited

/-- The text of a literal. -/
def Literal.render : Literal → String
  | .text s => Text.quote s
  | .number digits => digits

/-- A test of a column. Dates are compared by the day; a window excludes its boundaries. -/
inductive Atom where
  | blank (column : String)
  | notBlank (column : String)
  | checked (column : String) (flag : Bool)
  | sameDay (column : String) (day : Date)
  | notSameDay (column : String) (day : Date)
  | before (column : String) (day : Date)
  | after (column : String) (day : Date)
  | within (column : String) (start stop : Date)
  | compare (comparison : Comparison) (column : String) (literal : Literal)
  | found (literal : Literal) (column : String)
  | notFound (literal : Literal) (column : String)
  deriving DecidableEq

/-- A formula. -/
inductive Formula where
  | atom (atom : Atom)
  | group (conjunction : Conjunction) (parts : List Formula)

/-- The reference to a column. -/
def columnReference (name : String) : String :=
  "\x7b" ++ name ++ "\x7d"

/-- A date between single quotes. -/
def dateLiteral (d : Date) : String :=
  "'" ++ d.text ++ "'"

/-- A call of a function that compares a column with a day. -/
def dayCall (function column : String) (d : Date) : String :=
  function ++ "(" ++ columnReference column ++ "," ++ dateLiteral d ++ ",'days')"

/-- The text of a test. -/
def Atom.text : Atom → String
  | .blank c => columnReference c ++ "=BLANK()"
  | .notBlank c => "NOT(" ++ columnReference c ++ "=BLANK())"
  | .checked c true => columnReference c ++ "=TRUE()"
  | .checked c false => columnReference c ++ "=FALSE()"
  | .sameDay c d => dayCall "IS_SAME" c d
  | .notSameDay c d => "NOT(" ++ dayCall "IS_SAME" c d ++ ")"
  | .before c d => dayCall "IS_BEFORE" c d
  | .after c d => dayCall "IS_AFTER" c d
  | .within c start stop =>
    "AND(IS_AFTER(" ++ columnReference c ++ "," ++ dateLiteral start ++ "),IS_BEFORE("
      ++ columnReference c ++ "," ++ dateLiteral stop ++ "))"
  | .compare op c l => columnReference c ++ op.symbol ++ l.render
  | .found l c => "FIND(" ++ l.render ++ "," ++ columnReference c ++ ")"
  | .notFound l c => "FIND(" ++ l.render ++ "," ++ columnReference c ++ ")=FALSE()"

namespace Formula

mutual

/-- The text of a formula. -/
def text : Formula → String
  | .atom a => a.text
  | .group conjunction parts =>
    conjunction.keyword ++ "(" ++ String.intercalate ", " (texts parts) ++ ")"

/-- The texts of formulas. -/
def texts : List Formula → List String
  | [] => []
  | f :: rest => text f :: texts rest

end

end Formula

end RecordFilter
