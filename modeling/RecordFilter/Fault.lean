import RecordFilter.Available.ColumnType
import RecordFilter.Dates.Mode

/-!
# `RecordFilter.Fault`: why a filter does not compile

Each constructor is a cause, and `FilterFault.message` words it. A tree that is no filter tree at
all has no better wording than that.
-/

set_option autoImplicit false

namespace RecordFilter

/-- What is wrong with a date value or its boundaries. -/
inductive DateFault where
  | notADate
  | badNumberOfDays
  | badInput
  | missingMode
  | badMode
  | unknownMode (text : String) (suggestion : Option DateMode)
  | missingNumberOfDays (mode : DateMode)
  | missingInput
  | outOfRange
  deriving DecidableEq

/-- The wording of a date fault. -/
def DateFault.message : DateFault → String
  | .notADate => "expected a non-empty date object"
  | .badNumberOfDays => "unexpected numberOfDays value, format expected: number"
  | .badInput => "unexpected date input value, format expected: YYYY-MM-DD"
  | .missingMode => "date mode is required"
  | .badMode => "unexpected date mode value, format expected: string"
  | .unknownMode text none => "unexpected date mode '" ++ text ++ "'"
  | .unknownMode text (some mode) =>
    "unexpected date mode '" ++ text ++ "', did you mean '" ++ mode.name ++ "'?"
  | .missingNumberOfDays mode => "numberOfDays is required for mode '" ++ mode.name ++ "'"
  | .missingInput => "input is required for mode 'exactDate'"
  | .outOfRange => "date out of range"

/-- What is wrong with the payload of a tree. -/
inductive TreeFault where
  | notATree
  | missingColumnId
  | missingOperator
  deriving DecidableEq

/-- The wording of a tree fault. -/
def TreeFault.message : TreeFault → String
  | .notATree => "not a filter tree"
  | .missingColumnId => "criterion without columnId"
  | .missingOperator => "criterion without operator"

/-- The two literals that a scalar value can become in a formula. -/
inductive LiteralShape where
  | string
  | number
  deriving DecidableEq, Inhabited

/-- The name of a literal's shape. -/
def LiteralShape.name : LiteralShape → String
  | .string => "string"
  | .number => "number"

/-- Why a filter cannot be read or compiled. The column type of an unsupported operator is absent
where the token itself is unknown. -/
inductive FilterFault where
  | unknownConjunction (name : String)
  | notAvailable (column : String)
  | invalidDate (fault : DateFault)
  | invalidValue (expected : LiteralShape) (found : String)
  | unsupportedOperator (token : String) (columnType : Option ColumnType)
  | tooDeep (limit : Nat)
  | malformedTree (fault : TreeFault)
  deriving DecidableEq

/-- The wording of a fault. -/
def FilterFault.message : FilterFault → String
  | .unknownConjunction name => "unknown conjunction: " ++ name
  | .notAvailable column => "filter not available anymore: " ++ column
  | .invalidDate fault => "invalid date value: " ++ fault.message
  | .invalidValue expected found =>
    "invalid value: expected " ++ expected.name ++ ", found " ++ found
  | .unsupportedOperator token columnType =>
    "unsupported operator '" ++ token ++ "' for "
      ++ ((columnType.map ColumnType.name).getD "any") ++ " filter"
  | .tooDeep limit => "filter groups nested too deep (limit: " ++ toString limit ++ ")"
  | .malformedTree fault => "malformed filter tree: " ++ fault.message

end RecordFilter
