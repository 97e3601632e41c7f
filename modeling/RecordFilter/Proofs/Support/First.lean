/-!
# `RecordFilter.Proofs.Support.First`: the first element that counts

`FirstOf R xs e` says that some element of the list is related to something by `R`, and the first
such element is related to `e`. `IsFirstLeast key xs x` says that the key of `x` is the least one in
the list, and that `x` is the first element with it. The lemmas take the list apart. They belong to
no part of the library.
-/

set_option autoImplicit false

namespace RecordFilter.Proofs.Support

variable {α ε : Type}

/-- The first element of the list that is related to anything is related to `e`. -/
def FirstOf (R : α → ε → Prop) (xs : List α) (e : ε) : Prop :=
  ∃ before x after, xs = before ++ x :: after ∧ (∀ y ∈ before, ∀ e', ¬ R y e') ∧ R x e

variable {R : α → ε → Prop} {xs ys : List α} {x : α} {e : ε}

/-- An empty list has no first element. -/
@[simp] theorem not_firstOf_nil : ¬ FirstOf R [] e := by
  rintro ⟨before, x, after, h, -⟩
  exact absurd h (by simp)

/-- The first element is the head, or the head does not count. -/
theorem firstOf_cons : FirstOf R (x :: xs) e ↔ R x e ∨ (∀ e', ¬ R x e') ∧ FirstOf R xs e := by
  constructor
  · rintro ⟨before, y, after, h, hbefore, hy⟩
    cases before with
    | nil =>
      cases h
      exact .inl hy
    | cons z before =>
      cases h
      have hz := hbefore x List.mem_cons_self
      exact .inr ⟨hz, before, y, after, rfl, fun w hw => hbefore w (List.mem_cons_of_mem _ hw), hy⟩
  · rintro (hx | ⟨hx, before, y, after, rfl, hbefore, hy⟩)
    · exact ⟨[], x, xs, rfl, fun y h => absurd h List.not_mem_nil, hx⟩
    · refine ⟨x :: before, y, after, rfl, ?_, hy⟩
      intro z hz
      cases List.mem_cons.mp hz with
      | inl heq => rw [heq]; exact hx
      | inr hmem => exact hbefore z hmem

/-- Of one element it is the first. -/
theorem firstOf_singleton : FirstOf R [x] e ↔ R x e := by
  simp [firstOf_cons]

/-- The first element is in the front part, or nothing in the front part counts. -/
theorem firstOf_append :
    FirstOf R (xs ++ ys) e ↔ FirstOf R xs e ∨ (∀ x ∈ xs, ∀ e', ¬ R x e') ∧ FirstOf R ys e := by
  induction xs with
  | nil => simp
  | cons x xs ih =>
    rw [List.cons_append, firstOf_cons, firstOf_cons, ih, List.forall_mem_cons]
    by_cases hx : R x e
    · simp [hx]
    · simp only [hx, false_or]
      rw [and_or_left, and_assoc]

/-- There is a first element that counts unless none does. -/
theorem not_exists_firstOf_iff : (¬ ∃ e, FirstOf R xs e) ↔ ∀ x ∈ xs, ∀ e, ¬ R x e := by
  induction xs with
  | nil => simp
  | cons x xs ih =>
    rw [List.forall_mem_cons, ← ih]
    simp only [firstOf_cons, exists_or, not_or, not_exists, not_and]
    refine and_congr_right fun hx => ?_
    exact ⟨fun h e => h e hx, fun h e _ => h e⟩

/-- A computation that fails with what the first element is related to gives a result exactly when
nothing counts. -/
theorem exists_ok_iff_of_firstOf {β : Type} {y : Except ε β}
    (h : ∀ e, y = .error e ↔ FirstOf R xs e) : (∃ b, y = .ok b) ↔ ∀ x ∈ xs, ∀ e, ¬ R x e := by
  rw [← not_exists_firstOf_iff]
  cases y with
  | ok b =>
    refine iff_of_true ⟨b, rfl⟩ ?_
    intro ⟨e, hfirst⟩
    cases (h e).mpr hfirst
  | error e =>
    refine iff_of_false (by simp) ?_
    exact fun hnone => hnone ⟨e, (h e).mp rfl⟩

/-! ### Least elements -/

/-- The element is the first one of the list with the least key. -/
def IsFirstLeast (key : α → Nat) (xs : List α) (x : α) : Prop :=
  ∃ before after, xs = before ++ x :: after ∧ (∀ y ∈ before, key x < key y) ∧
    ∀ y ∈ after, key x ≤ key y

namespace IsFirstLeast

variable {key : α → Nat} {y : α}

/-- The first least element is a least one. -/
theorem key_le (h : IsFirstLeast key xs x) (hy : y ∈ xs) : key x ≤ key y := by
  obtain ⟨before, after, rfl, hbefore, hafter⟩ := h
  rcases List.mem_append.mp hy with hy | hy
  · exact Nat.le_of_lt (hbefore y hy)
  · rcases List.mem_cons.mp hy with rfl | hy
    · exact Nat.le_refl _
    · exact hafter y hy

/-- An element with a greater key in front changes nothing. -/
theorem cons (h : IsFirstLeast key xs x) (hy : key x < key y) :
    IsFirstLeast key (y :: xs) x := by
  obtain ⟨before, after, rfl, hbefore, hafter⟩ := h
  exact ⟨y :: before, after, rfl, List.forall_mem_cons.mpr ⟨hy, hbefore⟩, hafter⟩

/-- An element that is no better than the one before it changes nothing. -/
theorem insert {best : α} (h : IsFirstLeast key (best :: xs) x) (hy : key best ≤ key y) :
    IsFirstLeast key (best :: y :: xs) x := by
  obtain ⟨before, after, heq, hbefore, hafter⟩ := h
  cases before with
  | nil =>
    cases heq
    exact ⟨[], y :: xs, rfl, nofun, List.forall_mem_cons.mpr ⟨hy, hafter⟩⟩
  | cons b before =>
    cases heq
    rw [List.forall_mem_cons] at hbefore
    refine ⟨best :: y :: before, after, rfl, ?_, hafter⟩
    rw [List.forall_mem_cons, List.forall_mem_cons]
    exact ⟨hbefore.1, Nat.lt_of_lt_of_le hbefore.1 hy, hbefore.2⟩

end IsFirstLeast

end RecordFilter.Proofs.Support
