import Mathlib.Data.Multiset.AddSub
import Mathlib.Order.Bounds.Basic
import RecordFilter.Text.EditDistance

/-!
# `RecordFilter.Proofs.Text.EditDistance`: the distance is the least number of edits

`Edit` is one insertion, deletion or replacement of an element anywhere in a list, and `Edits n` are
`n` of them one after the other. The distance is computed row by row, and the rows are never looked
at again after the first section, which gives the recursion on the two lists.

* `edits_editDistance`: as many edits as the distance are enough. The proof follows the recursion.
* `editDistance_le_succ`: one edit of the first list changes the distance by at most one.
* `isLeast_editDistance`: the two together. That distances are symmetric and satisfy the triangle
  inequality is then a fact about edits.
* `length_diff_le_editDistance`: what is in one list and not in the other has to be edited.
* `editDistance_congr`: elements that are equal to the same ones count the same.
-/

set_option autoImplicit false

namespace RecordFilter.Text

variable {α β : Type}

/-- One element is inserted, deleted or replaced. -/
inductive Edit : List α → List α → Prop
  | insert (before : List α) (a : α) (after : List α) :
    Edit (before ++ after) (before ++ a :: after)
  | delete (before : List α) (a : α) (after : List α) :
    Edit (before ++ a :: after) (before ++ after)
  | replace (before : List α) (a b : α) (after : List α) :
    Edit (before ++ a :: after) (before ++ b :: after)

/-- As many edits one after the other. -/
inductive Edits : Nat → List α → List α → Prop
  | none (xs : List α) : Edits 0 xs xs
  | cons {n : Nat} {xs ys zs : List α} (h : Edit xs ys) (hrest : Edits n ys zs) :
    Edits (n + 1) xs zs

/-! ### Edits -/

/-- An edit can be undone by an edit: a deletion undoes an insertion. -/
theorem Edit.symm {xs ys : List α} (h : Edit xs ys) : Edit ys xs := by
  cases h with
  | insert before a after => exact .delete before a after
  | delete before a after => exact .insert before a after
  | replace before a b after => exact .replace before b a after

/-- Elements that are mapped are edited at the same place. -/
theorem Edit.map (f : α → β) {xs ys : List α} (h : Edit xs ys) :
    Edit (xs.map f) (ys.map f) := by
  cases h with
  | insert before a after =>
    simp only [List.map_append, List.map_cons]
    exact .insert _ _ _
  | delete before a after =>
    simp only [List.map_append, List.map_cons]
    exact .delete _ _ _
  | replace before a b after =>
    simp only [List.map_append, List.map_cons]
    exact .replace _ _ _ _

/-- An edit of a list is one of every list that ends with it. -/
theorem Edit.behind (x : α) {xs ys : List α} (h : Edit xs ys) : Edit (x :: xs) (x :: ys) := by
  cases h with
  | insert before a after => exact .insert (x :: before) a after
  | delete before a after => exact .delete (x :: before) a after
  | replace before a b after => exact .replace (x :: before) a b after

/-- An edit removes at most one element. -/
theorem Edit.exists_subperm {xs ys : List α} (h : Edit xs ys) : ∃ a, xs.Subperm (a :: ys) := by
  cases h with
  | insert before a after =>
    refine ⟨a, List.Sublist.subperm ?_⟩
    exact ((List.sublist_cons_self a after).append_left before).trans (List.sublist_cons_self _ _)
  | delete before a after => exact ⟨a, List.perm_middle.subperm⟩
  | replace before a b after =>
    refine ⟨a, List.perm_middle.subperm.trans (List.Sublist.subperm ?_)⟩
    exact ((List.sublist_cons_self b after).append_left before).cons_cons a

namespace Edits

/-- One edit alone. -/
theorem single {xs ys : List α} (h : Edit xs ys) : Edits 1 xs ys :=
  .cons h (.none ys)

/-- Edits after other edits are as many as both together. -/
theorem append {m n : Nat} {xs ys zs : List α} (h : Edits m xs ys) (h' : Edits n ys zs) :
    Edits (m + n) xs zs := by
  induction h with
  | none => rwa [Nat.zero_add]
  | cons hedit _ ih =>
    rw [Nat.add_right_comm]
    exact .cons hedit (ih h')

/-- Edits are undone in the other order, by as many. -/
theorem symm {n : Nat} {xs ys : List α} (h : Edits n xs ys) : Edits n ys xs := by
  induction h with
  | none xs => exact .none xs
  | cons hedit _ ih => exact ih.append (.single hedit.symm)

/-- Edits of a list are edits of every list that ends with it. -/
theorem behind (x : α) {n : Nat} {xs ys : List α} (h : Edits n xs ys) :
    Edits n (x :: xs) (x :: ys) := by
  induction h with
  | none => exact .none _
  | cons hedit _ ih => exact .cons (hedit.behind x) ih

/-- Edits remove at most as many elements as they are. -/
theorem exists_subperm {n : Nat} {xs ys : List α} (h : Edits n xs ys) :
    ∃ removed : List α, removed.length = n ∧ xs.Subperm (removed ++ ys) := by
  induction h with
  | none xs => exact ⟨[], rfl, List.Subperm.refl xs⟩
  | cons hedit _ ih =>
    obtain ⟨a, ha⟩ := hedit.exists_subperm
    obtain ⟨removed, hlength, hremoved⟩ := ih
    refine ⟨a :: removed, congrArg (· + 1) hlength, ?_⟩
    exact ha.trans ((List.subperm_cons a).mpr hremoved)

/-- If two numbers of edits are enough, so is the smaller one. -/
theorem min {m n : Nat} {xs ys : List α} (h : Edits m xs ys) (h' : Edits n xs ys) :
    Edits (min m n) xs ys := by
  rw [Nat.min_def]
  split
  · exact h
  · exact h'

end Edits

variable [DecidableEq α]

/-! ### The recursion on the two lists -/

/-- The row without its first entry is the row of the list without its first element. -/
theorem tail_distanceRow_cons (xs : List α) (y : α) (ys : List α) :
    (distanceRow xs (y :: ys)).tail = distanceRow xs ys := by
  induction xs with
  | nil => rfl
  | cons x xs ih => exact congrArg (nextRow x ys) ih

/-- From the empty list every element is inserted. -/
theorem editDistance_nil_left (ys : List α) : editDistance [] ys = ys.length := by
  cases ys <;> rfl

/-- To the empty list every element is deleted. -/
theorem editDistance_nil_right (xs : List α) : editDistance xs [] = xs.length := by
  induction xs with
  | nil => rfl
  | cons x xs ih => exact congrArg (· + 1) ih

/-- The recursion that the rows compute: the first element is deleted, inserted, or replaced unless
it is there already. -/
theorem editDistance_cons (x y : α) (xs ys : List α) : editDistance (x :: xs) (y :: ys) =
    min (min (editDistance xs (y :: ys) + 1) (editDistance (x :: xs) ys + 1))
      (editDistance xs ys + (if x = y then 0 else 1)) := by
  have hrow := tail_distanceRow_cons xs y ys
  -- One step of `nextRow`, where the rest of the row is still a tail.
  show min (min (editDistance xs (y :: ys) + 1)
      ((nextRow x ys (distanceRow xs (y :: ys)).tail).headD 0 + 1))
    ((distanceRow xs (y :: ys)).tail.headD 0 + (if x = y then 0 else 1)) = _
  rw [hrow]
  rfl

/-! ### Enough edits -/

/-- To turn one list into another, as many edits as the distance are enough. -/
theorem edits_editDistance (xs ys : List α) : Edits (editDistance xs ys) xs ys := by
  induction xs generalizing ys with
  | nil =>
    rw [editDistance_nil_left]
    induction ys with
    | nil => exact .none []
    | cons y ys ih => exact .cons (.insert [] y []) (ih.behind y)
  | cons x xs ihxs =>
    induction ys with
    | nil =>
      have hrest := ihxs []
      rw [editDistance_nil_right] at hrest ⊢
      exact .cons (.delete [] x xs) hrest
    | cons y ys ihys =>
      -- The three ways that the recursion compares, each with its first edit.
      have hdelete : Edits (editDistance xs (y :: ys) + 1) (x :: xs) (y :: ys) :=
        .cons (.delete [] x xs) (ihxs (y :: ys))
      have hinsert : Edits (editDistance (x :: xs) ys + 1) (x :: xs) (y :: ys) :=
        .cons (.insert [] y (x :: xs)) (ihys.behind y)
      have hreplace : Edits (editDistance xs ys + (if x = y then 0 else 1)) (x :: xs)
          (y :: ys) := by
        by_cases hxy : x = y
        · rw [if_pos hxy, hxy]
          exact (ihxs ys).behind y
        · rw [if_neg hxy]
          exact .cons (.replace [] x y xs) ((ihxs ys).behind y)
      rw [editDistance_cons]
      exact (hdelete.min hinsert).min hreplace

/-! ### No fewer edits -/

/-- A list has no distance from itself. -/
theorem editDistance_self (xs : List α) : editDistance xs xs = 0 := by
  induction xs with
  | nil => rfl
  | cons x xs ih =>
    rw [editDistance_cons, ih, if_pos rfl]
    exact Nat.min_zero _

/-- One more element on the left is at most one deletion more. -/
theorem editDistance_cons_left_le (x : α) (xs zs : List α) :
    editDistance (x :: xs) zs ≤ editDistance xs zs + 1 := by
  cases zs with
  | nil => rw [editDistance_nil_right, editDistance_nil_right]; rfl
  | cons z zs =>
    rw [editDistance_cons]
    omega

/-- One more element on the right is at most one insertion more. -/
theorem editDistance_cons_right_le (xs : List α) (z : α) (zs : List α) :
    editDistance xs (z :: zs) ≤ editDistance xs zs + 1 := by
  cases xs with
  | nil => rw [editDistance_nil_left, editDistance_nil_left]; rfl
  | cons x xs =>
    rw [editDistance_cons]
    omega

/-- From `xs`, no list is more than one edit farther away than from `ys`. -/
def IsClose (xs ys : List α) : Prop :=
  ∀ zs, editDistance xs zs ≤ editDistance ys zs + 1

/-- An insertion at the front takes a list at most one edit away from any other. -/
theorem isClose_insert (x : α) (xs : List α) : IsClose xs (x :: xs) := by
  intro zs
  induction zs with
  | nil =>
    rw [editDistance_nil_right, editDistance_nil_right, List.length_cons]
    omega
  | cons z zs ih =>
    have hright := editDistance_cons_right_le xs z zs
    rw [editDistance_cons]
    omega

/-- So does a replacement at the front. -/
theorem isClose_replace (x y : α) (xs : List α) : IsClose (x :: xs) (y :: xs) := by
  intro zs
  induction zs with
  | nil =>
    rw [editDistance_nil_right, editDistance_nil_right]
    exact Nat.le_succ _
  | cons z zs ih =>
    rw [editDistance_cons, editDistance_cons]
    split <;> split <;> omega

/-- Being close is kept behind an element, because the recursion takes its minimum over lists that
are close by induction. -/
theorem IsClose.behind {xs ys : List α} (h : IsClose xs ys) (x : α) :
    IsClose (x :: xs) (x :: ys) := by
  intro zs
  induction zs with
  | nil =>
    have hnil := h []
    rw [editDistance_nil_right] at hnil ⊢
    rw [editDistance_nil_right] at hnil ⊢
    exact Nat.succ_le_succ hnil
  | cons z zs ih =>
    have hz := h (z :: zs)
    have hzs := h zs
    rw [editDistance_cons, editDistance_cons]
    omega

/-- Being close is kept behind any elements. -/
theorem IsClose.behindAll {xs ys : List α} (h : IsClose xs ys) (before : List α) :
    IsClose (before ++ xs) (before ++ ys) := by
  induction before with
  | nil => exact h
  | cons x before ih => exact ih.behind x

/-- One edit of the first list changes the distance by at most one. -/
theorem editDistance_le_succ {xs ys : List α} (h : Edit xs ys) : IsClose xs ys := by
  cases h with
  | insert before a after => exact (isClose_insert a after).behindAll before
  | delete before a after =>
    have hhead : IsClose (a :: after) after := editDistance_cons_left_le a after
    exact hhead.behindAll before
  | replace before a b after => exact (isClose_replace a b after).behindAll before

/-- Fewer edits than the distance are not enough. -/
theorem Edits.editDistance_le {n : Nat} {xs ys : List α} (h : Edits n xs ys) :
    editDistance xs ys ≤ n := by
  induction h with
  | none xs => rw [editDistance_self]
  | cons hedit _ ih => exact (editDistance_le_succ hedit _).trans (Nat.succ_le_succ ih)

/-- The distance is the least number of edits that turn one list into the other. -/
theorem isLeast_editDistance (xs ys : List α) :
    IsLeast {n | Edits n xs ys} (editDistance xs ys) :=
  ⟨edits_editDistance xs ys, fun _ h => h.editDistance_le⟩

/-- The distance is the same in both directions. -/
theorem editDistance_comm (xs ys : List α) : editDistance xs ys = editDistance ys xs :=
  Nat.le_antisymm (edits_editDistance ys xs).symm.editDistance_le
    (edits_editDistance xs ys).symm.editDistance_le

/-- A way over a third list is not shorter. -/
theorem editDistance_triangle (xs ys zs : List α) :
    editDistance xs zs ≤ editDistance xs ys + editDistance ys zs :=
  ((edits_editDistance xs ys).append (edits_editDistance ys zs)).editDistance_le

/-! ### Bounds -/

/-- The elements of the first list that the second one has not as often need an edit each. -/
theorem length_diff_le_editDistance (xs ys : List α) :
    (xs.diff ys).length ≤ editDistance xs ys := by
  obtain ⟨removed, hlength, hremoved⟩ := (edits_editDistance xs ys).exists_subperm
  have hle : (xs : Multiset α) - (ys : Multiset α) ≤ (removed : Multiset α) :=
    Multiset.sub_le_iff_le_add.mpr (Multiset.coe_le.mpr hremoved)
  rw [← hlength]
  exact Multiset.card_le_card hle

/-- What one list is longer than the other has to be edited. -/
theorem length_sub_le_editDistance (xs ys : List α) :
    xs.length - ys.length ≤ editDistance xs ys := by
  obtain ⟨removed, hlength, hremoved⟩ := (edits_editDistance xs ys).exists_subperm
  have hle := hremoved.length_le
  rw [List.length_append, hlength] at hle
  omega

/-- Of an element it only counts which elements of the second list it is equal to. -/
theorem editDistance_congr {R : α → α → Prop} {xs xs' : List α} (h : List.Forall₂ R xs xs')
    {ys : List α} (hys : ∀ a b, R a b → ∀ y ∈ ys, a = y ↔ b = y) :
    editDistance xs ys = editDistance xs' ys := by
  induction h generalizing ys with
  | nil => rfl
  | @cons a b xs xs' hab hrest ihxs =>
    induction ys with
    | nil =>
      rw [editDistance_nil_right, editDistance_nil_right, List.length_cons, List.length_cons,
        hrest.length_eq]
    | cons y ys ihys =>
      have hlater : ∀ a b, R a b → ∀ y ∈ ys, a = y ↔ b = y :=
        fun a b hab y hy => hys a b hab y (List.mem_cons_of_mem _ hy)
      rw [editDistance_cons, editDistance_cons, ihxs hys, ihxs hlater, ihys hlater]
      simp only [hys a b hab y List.mem_cons_self]

end RecordFilter.Text
