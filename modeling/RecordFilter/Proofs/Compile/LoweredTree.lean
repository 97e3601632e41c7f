import RecordFilter.Proofs.Compile.FirstFault

/-!
# `RecordFilter.Proofs.Compile.LoweredTree`: what lowering keeps of a tree

A lowered tree holds the tests of the criteria and nothing else. `Criterion.Becomes` says which
tests those of one criterion are: one of the criterion itself, or one for each of its values, and
then never on a date or a checkbox. No test is lost, doubled or moved, and the groups that list
operators open count against the limit like all others.

* `becomes_of_mem_criteria`: in a tree that can be lowered, every criterion becomes its tests.
* `depth_add_height_le`: a node in a group of some depth is lowered to groups within the limit.
  The proof follows the tree.
* `lower_keeps_tests`: the tests of a lowered tree from left to right, and how deep its groups
  stand.
-/

set_option autoImplicit false

namespace RecordFilter

open RecordFilter.Proofs.Support

/-- The tests that a criterion becomes, each on the last column that has its identifier. -/
inductive Criterion.Becomes (available : List Descriptor) (c : Criterion) :
    List ColumnTest → Prop
  | test {op : Operator.Test} {d : Descriptor} (hop : c.operator = .test op)
    (hd : Descriptor.IsLast available c.columnId d) :
    Becomes available c [⟨c.columnName, d, op, c.value⟩]
  | many {op : Operator.Many} {d : Descriptor} (hop : c.operator = .many op)
    (hd : Descriptor.IsLast available c.columnId d)
    (hdate : d.type ≠ .date) (hcheckbox : d.type ≠ .checkbox) :
    Becomes available c (c.value.toList.map fun v => ⟨c.columnName, d, op.expansion.2, v⟩)

mutual

/-- How many groups of a lowered tree stand one in the other, counted where they are most. -/
def Lowered.height : Lowered → Nat
  | .test _ => 0
  | .group _ children => Lowered.heightAll children + 1

/-- How many groups stand one in the other in the highest of the trees. -/
def Lowered.heightAll : List Lowered → Nat
  | [] => 0
  | child :: rest => max child.height (Lowered.heightAll rest)

end

variable {ctx : LoweringContext}

/-! ### Tests -/

/-- A criterion that can be lowered becomes the tests that it makes of its column. -/
theorem Criterion.becomes_tests {depth : Nat} {c : Criterion} {l : Lowered}
    (h : c.lower ctx depth = .ok l) : c.Becomes ctx.available (c.tests ctx.available) := by
  obtain ⟨d, hd, hcases⟩ := criterion_lower_iff.mp h
  have hlookup := Descriptor.lookup?_eq_some_iff.mpr hd
  rcases hcases with ⟨op, hop, -⟩ | ⟨op, hop, htype, -, -⟩
  · rw [Criterion.tests, hlookup, hop]
    exact .test hop hd
  · rw [← Bool.not_eq_true, ColumnType.isSingleValued_iff, not_or] at htype
    rw [Criterion.tests, hlookup, hop]
    exact .many hop hd htype.1 htype.2

/-- In a node that can be lowered, every criterion becomes its tests: otherwise its place would be
at fault. -/
theorem becomes_of_mem_criteria {node : Node} {depth : Nat} {l : Lowered}
    (h : node.lower ctx depth = .ok l) {p : Nat × Criterion} (hp : p ∈ node.criteria depth) :
    p.2.Becomes ctx.available (p.2.tests ctx.available) := by
  have hplaces := (exists_ok_iff_of_firstOf fun _ => lower_eq_error_iff node).mp ⟨l, h⟩
  have hplace := hplaces _ (Node.mem_places_of_mem_criteria node hp)
  cases hlower : p.2.lower ctx p.1 with
  | ok l' => exact Criterion.becomes_tests hlower
  | error fault => exact absurd (criterion_lower_eq_error_iff.mp hlower) (hplace fault)

/-! ### Depth -/

/-- Among tests alone there is no group. -/
theorem Lowered.heightAll_map_test (ts : List ColumnTest) :
    Lowered.heightAll (ts.map .test) = 0 := by
  induction ts with
  | nil => rfl
  | cons t rest ih => rw [List.map_cons, Lowered.heightAll, ih]; rfl

/-- The group of a list operator holds no other group. -/
theorem Criterion.height_expand (c : Criterion) (d : Descriptor) (op : Operator.Many) :
    (c.expand d op).height = 1 := by
  have htests := Lowered.heightAll_map_test
    (c.value.toList.map fun v => ⟨c.columnName, d, op.test, v⟩)
  rw [List.map_map] at htests
  exact congrArg (· + 1) htests

/-- A criterion in a group within the limit is lowered to groups within the limit. -/
theorem Criterion.depth_add_height_le {depth : Nat} {c : Criterion} {l : Lowered}
    (h : c.lower ctx depth = .ok l) (hdepth : depth ≤ ctx.maxDepth) :
    depth + l.height ≤ ctx.maxDepth := by
  obtain ⟨d, -, ⟨op, -, rfl⟩ | ⟨op, -, -, hroom, rfl⟩⟩ := criterion_lower_iff.mp h
  · exact hdepth
  · rw [Criterion.height_expand]
    exact hroom

mutual

/-- A node in a group within the limit is lowered to groups within the limit. -/
theorem Node.depth_add_height_le : ∀ (node : Node) {depth : Nat} {l : Lowered},
    node.lower ctx depth = .ok l → depth ≤ ctx.maxDepth → depth + l.height ≤ ctx.maxDepth
  | .criterion c, depth, l, h, hdepth => by
    rw [Node.lower] at h
    exact Criterion.depth_add_height_le h hdepth
  | .group conjunction children, depth, l, h, _ => by
    rw [Node.lower] at h
    obtain ⟨_, henter, h⟩ := bind_eq_ok_iff.mp h
    obtain ⟨ls, hls, h⟩ := bind_eq_ok_iff.mp h
    cases h
    -- The group is one level deeper, and its children stand within the limit from there.
    have hchildren := Node.depth_add_heightAll_le children hls (enter_eq_ok_iff.mp henter)
    rw [Lowered.height]
    omega

/-- The children of a group within the limit are lowered to groups within the limit. -/
theorem Node.depth_add_heightAll_le : ∀ (nodes : List Node) {depth : Nat} {ls : List Lowered},
    Node.lowerAll ctx depth nodes = .ok ls → depth ≤ ctx.maxDepth →
      depth + Lowered.heightAll ls ≤ ctx.maxDepth
  | [], depth, ls, h, hdepth => by
    cases h
    exact hdepth
  | node :: rest, depth, ls, h, hdepth => by
    rw [Node.lowerAll] at h
    obtain ⟨l, hl, h⟩ := bind_eq_ok_iff.mp h
    obtain ⟨others, hothers, h⟩ := bind_eq_ok_iff.mp h
    cases h
    have hfirst := Node.depth_add_height_le node hl hdepth
    have hrest := Node.depth_add_heightAll_le rest hothers hdepth
    rw [Lowered.heightAll]
    omega

end

/-! ### Whole trees -/

/-- The tests of a lowered tree, from left to right, are those that its criteria become, in the
order in which they are written; and its groups stand no deeper than the limit. -/
theorem lower_keeps_tests {available : List Descriptor} {maxDepth : Nat} {g : Group}
    {l : Lowered} (h : g.lower ⟨available, maxDepth⟩ = .ok l) :
    (∃ blocks, List.Forall₂ (Criterion.Becomes available) (g.criteria.map Prod.snd) blocks ∧
      l.tests = blocks.flatten) ∧
      l.height ≤ maxDepth := by
  constructor
  · refine ⟨g.criteria.map fun p => p.2.tests available, ?_, ?_⟩
    · rw [List.forall₂_map_left_iff, List.forall₂_map_right_iff, List.forall₂_same]
      exact fun p hp => becomes_of_mem_criteria h hp
    · rw [tests_of_lower g.toNode h]
      rfl
  · have hheight := Node.depth_add_height_le g.toNode h (Nat.zero_le _)
    rwa [Nat.zero_add] at hheight

/-- The last of two columns with one identifier counts, so that a list operator applies. A list
without values makes no test, and a group all the same, which stands as deep as it may. -/
theorem tests_of_three_criteria :
    let column : Descriptor := .plain "tag" "Tag" .multiSelect
    let available : List Descriptor := [.plain "tag" "Day" .date, column]
    let noneOf : Criterion := ⟨"tag", "Tag", .many .hasNoneOf, .list [.text "a", .null]⟩
    let anyOf : Criterion := ⟨"tag", "Tag", .many .isAnyOf, .list []⟩
    let after : Criterion := ⟨"tag", "", .test (.compare .gt), .text "b"⟩
    let g : Group := ⟨.any, [.group .all [.criterion noneOf, .criterion anyOf], .criterion after]⟩
    ∃ l, g.lower ⟨available, 3⟩ = .ok l ∧ g.criteria.map Prod.snd = [noneOf, anyOf, after] ∧
      (∃ blocks, List.Forall₂ (Criterion.Becomes available) [noneOf, anyOf, after] blocks ∧
        l.tests = blocks.flatten) ∧
      l.tests = [⟨"Tag", column, .doesNotContain, .text "a"⟩,
        ⟨"Tag", column, .doesNotContain, .null⟩, ⟨"", column, .compare .gt, .text "b"⟩] ∧
      l.height = 3 ∧ l.height ≤ 3 := by
  intro column available noneOf anyOf after g
  have hlower : g.lower ⟨available, 3⟩ = .ok (.group .any [.group .all [
      .group .all [.test ⟨"Tag", column, .doesNotContain, .text "a"⟩,
        .test ⟨"Tag", column, .doesNotContain, .null⟩], .group .any []],
      .test ⟨"", column, .compare .gt, .text "b"⟩]) := by rfl
  obtain ⟨hblocks, hheight⟩ := lower_keeps_tests hlower
  exact ⟨_, hlower, rfl, hblocks, rfl, rfl, hheight⟩

end RecordFilter
