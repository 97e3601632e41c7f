import Mathlib.Data.List.Forall2
import RecordFilter.Json.Record

/-!
# `RecordFilter.Proofs.Json.Restating`: what is written of what was read

`Json.Restates read write R x` says that what is written of `x` is read back as `x`, and is
related by `R` to every JSON value that `x` is read from. It is shown of a record when it is shown
of what its fields hold: `required_restates`, `optional_restates` and `items_restates` take it to
fields, by the way they are read.

`Json.readMember?` reads the member of an object that has a key. Taken one member at a time, the
key may come once; taken at the end, the member is read like the field of a record.
-/

set_option autoImplicit false

namespace RecordFilter.Json

variable {α : Type} {read : Json → Option α} {write : α → Json} {R : Json → Json → Prop}

/-! ### Members of objects -/

/-- What is read of a member, if it is there. -/
def member? (read : Json → Option α) : Option Json → Option (Option α)
  | none => some none
  | some j => (read j).map some

/-- What is read of the member with that key, if it is there. The key may come once. -/
def readMember? (read : Json → Option α) (members : List (String × Json)) (key : String) :
    Option (Option α) :=
  (soleMember? members key).bind (member? read)

/-- There is no member of an empty object. -/
theorem readMember?_nil (read : Json → Option α) (key : String) :
    readMember? read [] key = some none :=
  rfl

/-- A member with another key is passed over. -/
theorem readMember?_cons_of_ne {key name : String} (j : Json) (members : List (String × Json))
    (h : key ≠ name) :
    readMember? read ((key, j) :: members) name = readMember? read members name := by
  simp [readMember?, soleMember?, h]

/-- A member is read where no other one of its key follows. -/
theorem readMember?_cons_eq_some_iff {key : String} {j : Json} {members : List (String × Json)}
    {o : Option α} : readMember? read ((key, j) :: members) key = some o ↔
      readMember? read members key = some none ∧ (read j).map some = some o := by
  unfold readMember? soleMember?
  rw [List.filter_cons_of_pos (by simp)]
  cases members.filter fun m => m.1 == key with
  | nil => simp [member?]
  | cons m rest => cases rest <;> simp [member?]

/-- Members with other keys do not matter. -/
theorem soleMember?_append {members others : List (String × Json)} {key : String}
    (h : ∀ m ∈ others, m.1 ≠ key) :
    soleMember? (members ++ others) key = soleMember? members key := by
  have hothers : others.filter (fun m => m.1 == key) = [] := by simpa using h
  simp [soleMember?, hothers]

/-- A member that must be there, read as a field. -/
theorem readMember?_eq_some_some_iff {members : List (String × Json)} {key : String} {x : α} :
    readMember? read members key = some (some x) ↔
      ∃ o, soleMember? members key = some o ∧ required read o = some x := by
  rw [readMember?, Option.bind_eq_some_iff]
  refine exists_congr fun o => and_congr_right fun _ => ?_
  cases o <;> simp [member?, required]

/-- A member that has a value where it is missing, read as a field. -/
theorem exists_readMember?_getD_iff {members : List (String × Json)} {key : String} {value x : α} :
    (∃ a, readMember? read members key = some a ∧ a.getD value = x) ↔
      ∃ o, soleMember? members key = some o ∧ defaulted value read o = some x := by
  have hfield (o : Option Json) :
      defaulted value read o = (member? read o).map fun a => a.getD value := by
    cases o <;> simp [defaulted, member?, Function.comp_def]
  simp only [readMember?, Option.bind_eq_some_iff, hfield, Option.map_eq_some_iff]
  constructor
  · rintro ⟨a, ⟨o, ho, ha⟩, hx⟩
    exact ⟨o, ho, a, ha, hx⟩
  · rintro ⟨o, ho, a, ha, hx⟩
    exact ⟨a, ⟨o, ho, ha⟩, hx⟩

/-- A member that may be missing or null, read as a field. -/
theorem exists_readMember?_optional_iff {members : List (String × Json)} {key : String}
    {x : Option α} :
    (∃ a, readMember? (fun j => optional read (some j)) members key = some a ∧ a.getD none = x) ↔
      ∃ o, soleMember? members key = some o ∧ optional read o = some x := by
  have hfield (o : Option Json) :
      defaulted none (fun j => optional read (some j)) o = optional read o := by
    cases o <;> rfl
  simp only [exists_readMember?_getD_iff, hfield]

/-! ### Restating -/

/-- What is written of `x` is read back, and is related to every value that `x` is read from. -/
def Restates (read : Json → Option α) (write : α → Json) (R : Json → Json → Prop) (x : α) :
    Prop :=
  ∀ j, read j = some x → read (write x) = some x ∧ R j (write x)

/-- What is written for a field that may be missing or null: a member with a related value, and
none where it is. -/
inductive Entry (R : Json → Json → Prop) (key : String) :
    Option Json → List (String × Json) → Prop
  | missing : Entry R key none []
  | null : Entry R key (some .null) []
  | value {j out : Json} (hnull : j ≠ .null) (h : R j out) : Entry R key (some j) [(key, out)]

/-- What is written for a list that may be missing: related items. -/
inductive Items (R : Json → Json → Prop) : Option Json → List Json → Prop
  | missing : Items R none []
  | array {items outs : List Json} (h : List.Forall₂ R items outs) :
    Items R (some (.array items)) outs

/-- A text is written as the string that it is read from. -/
theorem restates_text (s : String) : Restates text? .str Eq s := by
  intro j h
  cases j with
  | str t =>
    cases h
    exact ⟨rfl, rfl⟩
  | _ => cases h

/-- A field that must be there restates its value. -/
theorem required_restates {x : α} (hx : Restates read write R x) {o : Option Json}
    (h : required read o = some x) :
    required read (some (write x)) = some x ∧ ∃ j, o = some j ∧ R j (write x) := by
  cases o with
  | none => cases h
  | some j =>
    obtain ⟨hback, hrelated⟩ := hx j h
    exact ⟨hback, j, rfl, hrelated⟩

/-- A value that is not null is read as it is. -/
theorem optional_of_ne_null {j : Json} (h : j ≠ .null) :
    optional read (some j) = (read j).map some := by
  cases j <;> first | rfl | exact absurd rfl h

/-- A field that may be missing or null restates its value. -/
theorem optional_restates {a : Option α} (hx : ∀ x ∈ a, Restates read write R x)
    (hnull : ∀ x, write x ≠ .null) {o : Option Json} (h : optional read o = some a)
    (key : String) :
    optional read (a.map write) = some a ∧ Entry R key o (present key write a) := by
  cases o with
  | none =>
    cases h
    exact ⟨rfl, .missing⟩
  | some j =>
    by_cases hj : j = .null
    · subst hj
      cases h
      exact ⟨rfl, .null⟩
    · rw [optional_of_ne_null hj, Option.map_eq_some_iff] at h
      obtain ⟨x, hread, rfl⟩ := h
      obtain ⟨hback, hrelated⟩ := hx x rfl j hread
      refine ⟨?_, .value hj hrelated⟩
      rw [Option.map_some, optional_of_ne_null (hnull x), hback, Option.map_some]

/-- A text that must be there is written as it was. -/
theorem eq_some_of_required_text? {o : Option Json} {s : String} (h : required text? o = some s) :
    o = some (.str s) := by
  obtain ⟨-, j, rfl, rfl⟩ := required_restates (restates_text s) h
  rfl

/-- A text that may be missing or null is written as it was, if it is there. -/
theorem optional_text_restates {a : Option String} {o : Option Json}
    (h : optional text? o = some a) (key : String) :
    optional text? (a.map .str) = some a ∧ Entry Eq key o (present key .str a) :=
  optional_restates (fun s _ => restates_text s) nofun h key

/-- A list restates its items one by one. -/
theorem mapM_restates {xs : List α} (hx : ∀ x ∈ xs, Restates read write R x) {items : List Json}
    (h : items.mapM read = some xs) :
    (xs.map write).mapM read = some xs ∧ List.Forall₂ R items (xs.map write) := by
  induction items generalizing xs with
  | nil =>
    cases h
    exact ⟨rfl, .nil⟩
  | cons j items ih =>
    simp only [List.mapM_cons, Option.bind_eq_bind, Option.bind_eq_some_iff, Option.pure_def,
      Option.some.injEq] at h
    obtain ⟨x, hread, rest, hrest, rfl⟩ := h
    rw [List.forall_mem_cons] at hx
    obtain ⟨hback, hrelated⟩ := hx.1 j hread
    obtain ⟨hbacks, hrelateds⟩ := ih hx.2 hrest
    refine ⟨?_, .cons hrelated hrelateds⟩
    simp [hback, hbacks]

/-- A list that may be missing restates its items. -/
theorem items_restates {xs : List α} (hx : ∀ x ∈ xs, Restates read write R x) {o : Option Json}
    (h : defaulted [] (list? read) o = some xs) :
    list? read (.array (xs.map write)) = some xs ∧ Items R o (xs.map write) := by
  cases o with
  | none =>
    cases h
    exact ⟨rfl, .missing⟩
  | some j =>
    cases j with
    | array items =>
      obtain ⟨hback, hrelated⟩ := mapM_restates hx h
      exact ⟨hback, .array hrelated⟩
    | _ => cases h

end RecordFilter.Json
