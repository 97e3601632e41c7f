import Mathlib.Data.List.Forall2
import RecordFilter.Proofs.Formula.Reader

/-!
# `RecordFilter.Proofs.Formula.Truth`: when a formula holds

Whether a column equals a literal, whether a literal is found in a column, and what else a clause
may ask, is for an assignment to say. A clause that denies something is the negation of the clause
that asserts it, so the assignment has no say in it. A text holds when it is read as a phrase that
holds; as it has one reading at most, this is the truth of its reading.

* `Phrase.holds_group_iff`: a group holds when all of its parts do, or any.
* `textHolds_iff_of_derives`: a text holds when its reading does.
-/

set_option autoImplicit false

namespace RecordFilter

/-! ### All or any of the elements -/

namespace Conjunction

/-- All of the elements have the property, or any of them has. -/
def Over {α : Type} (P : α → Prop) (xs : List α) : Conjunction → Prop
  | .all => ∀ x ∈ xs, P x
  | .any => ∃ x ∈ xs, P x

variable {α β : Type} {P : α → Prop} {xs ys : List α}

/-- Of one element alone there is nothing to choose. -/
theorem over_singleton {conjunction : Conjunction} {x : α} :
    conjunction.Over P [x] ↔ P x := by
  cases conjunction <;> simp [Over]

/-- A conjunction over values that are mapped. -/
theorem over_map {conjunction : Conjunction} {f : β → α} {xs : List β} :
    conjunction.Over P (xs.map f) ↔ conjunction.Over (fun x => P (f x)) xs := by
  cases conjunction <;> simp [Over]

/-- Not all have the property when any has its negation, and the other way round. -/
theorem not_over_iff {conjunction : Conjunction} :
    ¬ conjunction.Over P xs ↔ conjunction.dual.Over (fun x => ¬ P x) xs := by
  cases conjunction <;> simp [Over, dual]

/-- Neither the order of the elements matters nor how often each of them comes. -/
theorem over_congr {conjunction : Conjunction} (h : ∀ x, x ∈ ys ↔ x ∈ xs) :
    conjunction.Over P ys ↔ conjunction.Over P xs := by
  cases conjunction <;> simp only [Over, h]

/-- What is asked of the results is asked of the elements that they come from. -/
theorem over_of_forall₂ {conjunction : Conjunction} {R : β → α → Prop} {zs : List β}
    (hunique : ∀ {z x y}, R z x → R z y → x = y) (h : List.Forall₂ R zs xs) :
    conjunction.Over P xs ↔ conjunction.Over (fun z => ∃ x, R z x ∧ P x) zs := by
  have hhead : ∀ {z x}, R z x → ((∃ y, R z y ∧ P y) ↔ P x) := by
    intro z x hz
    constructor
    · rintro ⟨y, hy, hP⟩
      rwa [hunique hz hy]
    · exact fun hP => ⟨x, hz, hP⟩
  induction h with
  | nil => cases conjunction <;> simp [Over]
  | cons hz _ ih =>
    cases conjunction with
    | all =>
      have ih : (∀ x ∈ _, P x) ↔ ∀ z ∈ _, ∃ x, R z x ∧ P x := ih
      simp only [Over, List.forall_mem_cons, hhead hz, ih]
    | any =>
      have ih : (∃ x ∈ _, P x) ↔ ∃ z ∈ _, ∃ x, R z x ∧ P x := ih
      simp only [Over, List.exists_mem_cons_iff, hhead hz, ih]

end Conjunction

/-! ### Clauses, phrases and texts -/

/-- The clause holds under an assignment. -/
def Clause.Holds (assigned : Clause → Prop) : Clause → Prop
  | .notBlank c => ¬ assigned (.blank c)
  | .notSameDay c day => ¬ assigned (.sameDay c day)
  | .compare .ne c l => ¬ assigned (.compare .eq c l)
  | .notFound l c => ¬ assigned (.found l c)
  | t => assigned t

namespace Phrase

mutual

/-- The phrase holds under an assignment. -/
def Holds (assigned : Clause → Prop) : Phrase → Prop
  | .clause t => t.Holds assigned
  | .group .all parts => AllHold assigned parts
  | .group .any parts => AnyHolds assigned parts

/-- All of the phrases hold. -/
def AllHold (assigned : Clause → Prop) : List Phrase → Prop
  | [] => True
  | e :: rest => Holds assigned e ∧ AllHold assigned rest

/-- Any of the phrases holds. -/
def AnyHolds (assigned : Clause → Prop) : List Phrase → Prop
  | [] => False
  | e :: rest => Holds assigned e ∨ AnyHolds assigned rest

end

variable {assigned : Clause → Prop}

/-- All parts hold when each of them does. -/
theorem allHold_iff {parts : List Phrase} :
    AllHold assigned parts ↔ ∀ e ∈ parts, e.Holds assigned := by
  induction parts with
  | nil => simp [AllHold]
  | cons e rest ih => rw [AllHold, ih, List.forall_mem_cons]

/-- Some part holds when there is one that does. -/
theorem anyHolds_iff {parts : List Phrase} :
    AnyHolds assigned parts ↔ ∃ e ∈ parts, e.Holds assigned := by
  induction parts with
  | nil => simp [AnyHolds]
  | cons e rest ih => rw [AnyHolds, ih, List.exists_mem_cons_iff]

/-- A group holds when all of its parts do, or any. -/
theorem holds_group_iff {conjunction : Conjunction} {parts : List Phrase} :
    (Phrase.group conjunction parts).Holds assigned ↔
      conjunction.Over (fun e => e.Holds assigned) parts := by
  cases conjunction with
  | all => exact allHold_iff
  | any => exact anyHolds_iff

end Phrase

/-- The text is read as a phrase that holds under the assignment. -/
def TextHolds (assigned : Clause → Prop) (text : String) : Prop :=
  ∃ e : Phrase, e.Derives text.toList ∧ e.Holds assigned

/-- A text holds when its reading does. -/
theorem textHolds_iff_of_derives {assigned : Clause → Prop} {text : String} {e : Phrase}
    (he : e.Derives text.toList) : TextHolds assigned text ↔ e.Holds assigned := by
  constructor
  · rintro ⟨e', he', hholds⟩
    rwa [Phrase.derives_unique he he']
  · exact fun hholds => ⟨e, he, hholds⟩

end RecordFilter
