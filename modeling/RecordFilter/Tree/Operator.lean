import RecordFilter.Tree.Conjunction

/-!
# `RecordFilter.Tree.Operator`: the operators of a criterion

A `Test` operator compares a column with one value. A `Many` operator takes a list of values; it
abbreviates a group with one test for each value, and `Many.conjunction` and `Many.test` say
which.
-/

set_option autoImplicit false

namespace RecordFilter

/-- The order comparisons. -/
inductive Comparison where
  | eq
  | ne
  | gt
  | ge
  | lt
  | le
  deriving DecidableEq, Inhabited

/-- The symbol of a comparison, in the payload and in formulas. -/
def Comparison.symbol : Comparison → String
  | .eq => "="
  | .ne => "!="
  | .gt => ">"
  | .ge => ">="
  | .lt => "<"
  | .le => "<="

namespace Operator

/-- The operators that take one value, or none. -/
inductive Test where
  | compare (comparison : Comparison)
  | contains
  | doesNotContain
  | filename
  | isEmpty
  | isNotEmpty
  | isWithin
  deriving DecidableEq, Inhabited

/-- The operators that take a list of values. -/
inductive Many where
  | isAnyOf
  | isNoneOf
  | hasAnyOf
  | hasAllOf
  | hasNoneOf
  deriving DecidableEq, Inhabited

/-- The token in the payload. -/
def Test.token : Test → String
  | .compare c => c.symbol
  | .contains => "contains"
  | .doesNotContain => "doesNotContain"
  | .filename => "filename"
  | .isEmpty => "isEmpty"
  | .isNotEmpty => "isNotEmpty"
  | .isWithin => "isWithin"

/-- The token in the payload. -/
def Many.token : Many → String
  | .isAnyOf => "isAnyOf"
  | .isNoneOf => "isNoneOf"
  | .hasAnyOf => "|"
  | .hasAllOf => "&"
  | .hasNoneOf => "hasNoneOf"

/-- The conjunction of the group that the operator abbreviates. -/
def Many.conjunction : Many → Conjunction
  | .isAnyOf | .hasAnyOf => .any
  | .isNoneOf | .hasAllOf | .hasNoneOf => .all

/-- The test that the group makes for each value. -/
def Many.test : Many → Test
  | .isAnyOf => .compare .eq
  | .isNoneOf => .compare .ne
  | .hasAnyOf | .hasAllOf => .contains
  | .hasNoneOf => .doesNotContain

end Operator

/-- The operator of a criterion. -/
inductive Operator where
  | test (test : Operator.Test)
  | many (many : Operator.Many)
  deriving DecidableEq, Inhabited

namespace Operator

/-- The token in the payload. -/
def token : Operator → String
  | .test t => t.token
  | .many m => m.token

/-- The operator takes a list of values. -/
def isOfMany : Operator → Bool
  | .test _ => false
  | .many _ => true

/-- The operator of that token. -/
def ofToken? : String → Option Operator
  | "=" => some (.test (.compare .eq))
  | "!=" => some (.test (.compare .ne))
  | ">" => some (.test (.compare .gt))
  | ">=" => some (.test (.compare .ge))
  | "<" => some (.test (.compare .lt))
  | "<=" => some (.test (.compare .le))
  | "contains" => some (.test .contains)
  | "doesNotContain" => some (.test .doesNotContain)
  | "filename" => some (.test .filename)
  | "isEmpty" => some (.test .isEmpty)
  | "isNotEmpty" => some (.test .isNotEmpty)
  | "isWithin" => some (.test .isWithin)
  | "isAnyOf" => some (.many .isAnyOf)
  | "isNoneOf" => some (.many .isNoneOf)
  | "|" => some (.many .hasAnyOf)
  | "&" => some (.many .hasAllOf)
  | "hasNoneOf" => some (.many .hasNoneOf)
  | _ => none

/-- The two tables of tokens agree: a text is read as the operator whose token it is. -/
theorem ofToken?_eq_some_iff {s : String} {o : Operator} : ofToken? s = some o ↔ o.token = s := by
  constructor
  · intro h
    unfold ofToken? at h
    split at h <;> cases h <;> rfl
  · rintro rfl
    cases o with
    | test t =>
      cases t with
      | compare c => cases c <;> rfl
      | _ => rfl
    | many m => cases m <;> rfl

end Operator

end RecordFilter
