/-!
# `RecordFilter.Text.EditDistance`: the number of edits between two texts

The distance of two lists is the least number of insertions, deletions and replacements of one
element that turn the first into the second. It is computed row by row: the row of `xs` holds
the distances from `xs` to every suffix of `ys`, the whole list first and the empty list last.
-/

set_option autoImplicit false

namespace RecordFilter.Text

/-- The row of the empty list: to reach a suffix, insert all its elements. -/
def emptyRow {α : Type} : List α → List Nat
  | [] => [0]
  | _ :: ys => (ys.length + 1) :: emptyRow ys

/-- The row of `x :: xs` from the row of `xs`. At a suffix `y :: ys` one of `x` and `y` is
removed, or both are, for nothing when they are equal and for one replacement otherwise. -/
def nextRow {α : Type} [DecidableEq α] (x : α) : List α → List Nat → List Nat
  | [], row => [row.headD 0 + 1]
  | y :: ys, row =>
    let later := nextRow x ys row.tail
    let replaced := row.tail.headD 0 + (if x = y then 0 else 1)
    min (min (row.headD 0 + 1) (later.headD 0 + 1)) replaced :: later

/-- The distances from `xs` to every suffix of `ys`. -/
def distanceRow {α : Type} [DecidableEq α] (xs ys : List α) : List Nat :=
  xs.foldr (fun x row => nextRow x ys row) (emptyRow ys)

/-- The least number of edits that turn `xs` into `ys`. -/
def editDistance {α : Type} [DecidableEq α] (xs ys : List α) : Nat :=
  (distanceRow xs ys).headD 0

end RecordFilter.Text
