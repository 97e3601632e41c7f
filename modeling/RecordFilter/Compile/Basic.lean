import RecordFilter.Compile.Test

/-!
# `RecordFilter.Compile.Basic`: filter trees as formulas

Compilation lowers the whole tree and then makes formulas of its tests. A group without tests has
no formula and is left out of the group around it; a tree without tests compiles to the empty
text. The result depends on nothing but the arguments.
-/

set_option autoImplicit false

namespace RecordFilter

namespace Lowered

/-- The formula of a group with the formulas of its children; none if there are none. -/
def groupFormula? (conjunction : Conjunction) (parts : List Formula) : Option Formula :=
  if parts.isEmpty then none else some (.group conjunction parts)

mutual

/-- The formula of a tree of tests, if there is a test in it. -/
def formula? (ctx : DateContext) : Lowered → Except FilterFault (Option Formula)
  | .test t => do
    let atom ← t.atom ctx
    return some (.atom atom)
  | .group conjunction children => do
    let parts ← formulas ctx children
    return groupFormula? conjunction parts

/-- The formulas of those trees that have one. -/
def formulas (ctx : DateContext) : List Lowered → Except FilterFault (List Formula)
  | [] => .ok []
  | child :: rest => do
    let first ← formula? ctx child
    let others ← formulas ctx rest
    return first.toList ++ others

end

end Lowered

/-- The limits and conventions of compilation. -/
structure CompilerConfig where
  maxDepth : Nat
  weekStartsOn : Weekday
  deriving DecidableEq

/-- The greatest depth of a group where no other is set. -/
def CompilerConfig.depthLimit : Nat :=
  32

/-- The settings of compilation where none are given. Weeks start on Monday. -/
def CompilerConfig.standard : CompilerConfig :=
  ⟨depthLimit, .monday⟩

instance : Inhabited CompilerConfig := ⟨.standard⟩

/-- Compiles filter trees against the columns that are available. -/
structure Compiler where
  available : List Descriptor
  config : CompilerConfig

namespace Compiler

/-- The formula of a tree at an anchor date; none if the tree has no test. -/
def formula? (c : Compiler) (tree : Group) (anchor : Date) :
    Except FilterFault (Option Formula) := do
  let lowered ← tree.lower ⟨c.available, c.config.maxDepth⟩
  lowered.formula? ⟨anchor, c.config.weekStartsOn⟩

/-- The text of the formula of a tree at an anchor date. -/
def compile (c : Compiler) (tree : Group) (anchor : Date) : Except FilterFault String :=
  (c.formula? tree anchor).map fun formula => (formula.map Formula.text).getD ""

end Compiler

end RecordFilter
