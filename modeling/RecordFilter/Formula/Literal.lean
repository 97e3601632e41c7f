import RecordFilter.Fault
import RecordFilter.Formula.Basic
import RecordFilter.Number.Numeral
import RecordFilter.Text.Blank
import RecordFilter.Tree.Value

/-!
# `RecordFilter.Formula.Literal`: values as literals

A value is read as a text or as a number, as the column asks. A text literal is made of a text,
of the text of a number, or of nothing for null. A number literal is made of a number, or of a
text that is a finite numeral between blanks; it is written as it stands there.
-/

set_option autoImplicit false

namespace RecordFilter

/-- The characters spell a numeral with a finite value. -/
def isNumberText (cs : List Char) : Bool :=
  (Numeral.ofChars? cs).any Numeral.isFinite

namespace Value

/-- A value in a message: a text in quotes, anything else by its kind. -/
def describe : Value → String
  | .text s => "\"" ++ s ++ "\""
  | v => v.kind

/-- The text literal of a value. -/
def textLiteral : Value → Except FilterFault Literal
  | .null => .ok (.text "")
  | .text s => .ok (.text s)
  | .number n => .ok (.text n.text)
  | v => .error (.invalidValue .string v.describe)

/-- The number literal of a value. -/
def numberLiteral : Value → Except FilterFault Literal
  | .number n => .ok (.number n.text)
  | .text s =>
    if isNumberText (Text.trimChars s.toList) then .ok (.number (Text.trim s))
    else .error (.invalidValue .number (describe (.text s)))
  | v => .error (.invalidValue .number v.describe)

/-- The literal of a value in the given shape. -/
def literal (v : Value) : LiteralShape → Except FilterFault Literal
  | .string => v.textLiteral
  | .number => v.numberLiteral

end Value

end RecordFilter
