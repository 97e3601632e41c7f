/-!
# `RecordFilter.Text.Quoted`: quoted text

A quoted text stands between double quotes. Inside it a backslash precedes each double quote
and each backslash, and every other character stands for itself.
-/

set_option autoImplicit false

namespace RecordFilter.Text

/-- The characters that a quoted text marks with a backslash. -/
def isMarked (c : Char) : Bool :=
  c == '"' || c == '\\'

/-- The characters with a backslash in front of each marked one. -/
def escapeQuotes : List Char → List Char
  | [] => []
  | c :: cs => if isMarked c then '\\' :: c :: escapeQuotes cs else c :: escapeQuotes cs

/-- The characters of a text between its two quotes, with the quotes. -/
def quoteChars (cs : List Char) : List Char :=
  '"' :: (escapeQuotes cs ++ ['"'])

/-- The text as a quoted text. -/
def quote (s : String) : String :=
  String.ofList (quoteChars s.toList)

end RecordFilter.Text
