/-!
# `RecordFilter.Tree.Conjunction`: how the children of a group combine

A conjunction is read from its name in the payload, in small letters, and written in formulas as
a keyword, in capitals.
-/

set_option autoImplicit false

namespace RecordFilter

/-- All children hold, or at least one does. -/
inductive Conjunction where
  | all
  | any
  deriving DecidableEq, Inhabited

namespace Conjunction

/-- The keyword in a formula. -/
def keyword : Conjunction → String
  | .all => "AND"
  | .any => "OR"

/-- The conjunction of that name in the payload. -/
def ofName? : String → Option Conjunction
  | "and" => some .all
  | "or" => some .any
  | _ => none

/-- The other conjunction. -/
def dual : Conjunction → Conjunction
  | .all => .any
  | .any => .all

end Conjunction

end RecordFilter
