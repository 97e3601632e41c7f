import RecordFilter.Compile.Lowering
import RecordFilter.Dates.Range
import RecordFilter.Formula.Literal

/-!
# `RecordFilter.Compile.Test`: single tests as formulas

`ColumnTest.atom` makes the formula of a test, as the type of the column asks. Whether a column is
blank can be tested on every column. A date column compares days, and the comparisons that
include the day itself move the day by one. A checkbox can only be equal to a value, and is
checked for `"1"` and for true. All other columns compare with a literal.
-/

set_option autoImplicit false

namespace RecordFilter

/-- The anchor date and the first day of the week, which date filters are resolved with. -/
structure DateContext where
  anchor : Date
  weekStart : Weekday

/-- The value checks a checkbox. -/
def Value.isChecked : Value → Bool
  | .text s => s == "1"
  | .bool b => b
  | _ => false

namespace ColumnTest

/-- The operator of the test does not apply to its column. -/
def fault (t : ColumnTest) : FilterFault :=
  unsupported (.test t.operator) t.column

/-- The boundaries of the date filter that the value describes. -/
def range (ctx : DateContext) (t : ColumnTest) : Except FilterFault DateRange := do
  let filter ← t.value.dateFilter
  filter.resolve ctx.weekStart ctx.anchor

/-- The test of a date column. -/
def dateAtom (ctx : DateContext) (t : ColumnTest) : Except FilterFault Atom :=
  match t.operator with
  | .compare comparison => do
    let range ← t.range ctx
    match comparison with
    | .eq => return .sameDay t.columnName range.start
    | .ne => return .notSameDay t.columnName range.start
    | .lt => return .before t.columnName range.start
    | .gt => return .after t.columnName range.start
    | .le => return .before t.columnName (← range.start.shiftDays 1)
    | .ge => return .after t.columnName (← range.start.shiftDays (-1))
  | .isWithin => do
    let range ← t.range ctx
    return .within t.columnName range.start range.stop
  | .isEmpty => .ok (.blank t.columnName)
  | .isNotEmpty => .ok (.notBlank t.columnName)
  | .contains | .doesNotContain | .filename => .error t.fault

/-- The test of a checkbox column. -/
def checkboxAtom (t : ColumnTest) : Except FilterFault Atom :=
  match t.operator with
  | .compare .eq => .ok (.checked t.columnName t.value.isChecked)
  | .isEmpty => .ok (.blank t.columnName)
  | .isNotEmpty => .ok (.notBlank t.columnName)
  | _ => .error t.fault

/-- The test of a column that compares with literals of the given shape. -/
def literalAtom (shape : LiteralShape) (t : ColumnTest) : Except FilterFault Atom :=
  match t.operator with
  | .compare comparison => return .compare comparison t.columnName (← t.value.literal shape)
  | .contains | .filename => return .found (← t.value.literal shape) t.columnName
  | .doesNotContain => return .notFound (← t.value.literal shape) t.columnName
  | .isEmpty => .ok (.blank t.columnName)
  | .isNotEmpty => .ok (.notBlank t.columnName)
  | .isWithin => .error t.fault

/-- The formula of a test. -/
def atom (ctx : DateContext) (t : ColumnTest) : Except FilterFault Atom :=
  match t.column.type with
  | .date => t.dateAtom ctx
  | .checkbox => t.checkboxAtom
  | .number => t.literalAtom .number
  | _ => t.literalAtom .string

end ColumnTest

end RecordFilter
