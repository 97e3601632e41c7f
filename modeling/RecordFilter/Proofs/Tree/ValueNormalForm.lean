import Mathlib.Data.List.Perm.Basic
import RecordFilter.Proofs.Json.Restating
import RecordFilter.Proofs.Tree.ValueReading

/-!
# `RecordFilter.Proofs.Tree.ValueNormalForm`: what is written of a value

Every settled JSON value is read as the value of a criterion. Written again it has lost only what no
field of a date object holds: of an object that is the value itself, or an item of an array in it,
the members with other keys and those that are null. What a date object holds is written as it was,
whatever it is.

* `Json.Reduces`: the JSON values before and after.
* `Value.reduces_toJson`: a value is read from a settled one and written reduced. The proof follows
  the JSON value.
* `value_read_back`: the same for a whole value, which reads back from what is written.
-/

set_option autoImplicit false

namespace RecordFilter

open Json (Entry)

/-- The member is that of a date field, and is not null. -/
def DateValue.keepsMember (m : String × Json) : Bool :=
  fieldNames.contains m.1 && !m.2.isNull

/-- The second value is the first one with only the members of date fields in its objects, in any
order. Only the objects that arrays lead to are looked at. -/
inductive Json.Reduces : Json → Json → Prop
  | null : Reduces .null .null
  | bool (b : Bool) : Reduces (.bool b) (.bool b)
  | number (n : Number) : Reduces (.number n) (.number n)
  | str (s : String) : Reduces (.str s) (.str s)
  | array {items outs : List Json} (h : List.Forall₂ Json.Reduces items outs) :
    Reduces (.array items) (.array outs)
  | object {members outs : List (String × Json)}
    (h : outs.Perm (members.filter DateValue.keepsMember)) :
    Reduces (.object members) (.object outs)

/-! ### Date objects -/

/-- A settled field is written as it was. -/
theorem Scalar.toJson_of_ofJson? {j : Json} {s : Scalar} (hj : j.IsSettled)
    (h : Scalar.ofJson? j = some s) : s.toJson = j := by
  have hsettle : j.settle? = some j := hj
  cases j with
  | number | str =>
    cases h
    rfl
  | null | bool | array | object | unreadable =>
    simp only [Scalar.ofJson?, hsettle, Option.map_some, Option.some.injEq] at h
    rw [← h]
    rfl

/-- What is written of an optional field is its member, unless it is null. -/
theorem Scalar.entry_of_optional {o : Option Json} {field : Option Scalar}
    (ho : ∀ j, o = some j → j.IsSettled) (h : Json.optional Scalar.ofJson? o = some field)
    (key : String) : Entry Eq key o (Json.present key Scalar.toJson field) := by
  cases o with
  | none =>
    cases h
    exact .missing
  | some j =>
    by_cases hj : j = .null
    · subst hj
      cases h
      exact .null
    · rw [Json.optional_of_ne_null hj, Option.map_eq_some_iff] at h
      obtain ⟨s, hs, rfl⟩ := h
      exact .value hj (Scalar.toJson_of_ofJson? (ho j rfl) hs).symm

/-- What is written of a field are the members with its key that are not null. -/
theorem Json.Entry.eq_filter {members out : List (String × Json)} {key : String} {o : Option Json}
    (hmember : Json.soleMember? members key = some o) (h : Entry Eq key o out) :
    out = members.filter fun m => m.1 == key && !m.2.isNull := by
  have hfilter : (members.filter fun m => m.1 == key && !m.2.isNull) =
      (members.filter fun m => m.1 == key).filter fun m => !m.2.isNull := by
    rw [List.filter_filter]
    simp only [Bool.and_comm]
  rw [hfilter]
  unfold Json.soleMember? at hmember
  -- The key comes once at most, so there is one member to keep, or none.
  split at hmember
  · rename_i hnone
    cases hmember
    cases h
    rw [hnone, List.filter_nil]
  · rename_i m hsole
    cases hmember
    have hkey : m ∈ members.filter fun m => m.1 == key := by
      rw [hsole]
      exact List.mem_singleton_self m
    have hkey : m.1 = key := by simpa using (List.mem_filter.mp hkey).2
    obtain ⟨name, j⟩ := m
    cases hkey
    rw [hsole]
    cases h with
    | null => rfl
    | value hnull heq =>
      subst heq
      cases j <;> first | rfl | exact absurd rfl hnull
  · cases hmember

/-- The elements with one of two properties that exclude each other, in any order. -/
theorem filter_append_filter_perm {α : Type} {p q : α → Bool}
    (h : ∀ x, p x = true → q x = false) (xs : List α) :
    (xs.filter p ++ xs.filter q).Perm (xs.filter fun x => p x || q x) := by
  induction xs with
  | nil => exact .nil
  | cons x xs ih =>
    cases hp : p x with
    | true =>
      rw [List.filter_cons_of_pos hp, List.filter_cons_of_neg (by simp [h x hp]),
        List.filter_cons_of_pos (by simp [hp])]
      exact ih.cons x
    | false =>
      rw [List.filter_cons_of_neg (by simp [hp])]
      cases hq : q x with
      | true =>
        rw [List.filter_cons_of_pos hq, List.filter_cons_of_pos (by simp [hq])]
        exact List.perm_middle.trans (ih.cons x)
      | false =>
        rw [List.filter_cons_of_neg (by simp [hq]), List.filter_cons_of_neg (by simp [hp, hq])]
        exact ih

/-- The members of several keys, key by key, are those that have one of the keys. -/
theorem flatMap_filter_perm {keys : List String} (hkeys : keys.Nodup)
    (members : List (String × Json)) :
    (keys.flatMap fun key => members.filter fun m => m.1 == key && !m.2.isNull).Perm
      (members.filter fun m => keys.contains m.1 && !m.2.isNull) := by
  induction keys with
  | nil => simp
  | cons key rest ih =>
    obtain ⟨hkey, hrest⟩ := List.nodup_cons.mp hkeys
    have hdiffer : ∀ m : String × Json, (m.1 == key && !m.2.isNull) = true →
        (rest.contains m.1 && !m.2.isNull) = false := by
      intro m hm
      rw [Bool.and_eq_true, beq_iff_eq] at hm
      simp [hm.1, hkey]
    have hcontains : ∀ m : String × Json, ((key :: rest).contains m.1 && !m.2.isNull) =
        (m.1 == key && !m.2.isNull || rest.contains m.1 && !m.2.isNull) := by
      intro m
      rw [List.contains_cons, Bool.and_or_distrib_right]
    simp only [List.flatMap_cons, hcontains]
    exact ((ih hrest).append_left _).trans (filter_append_filter_perm hdiffer members)

/-- A settled object is written with the members of its date fields. -/
theorem DateValue.reduces_toJson {members : List (String × Json)} {d : DateValue}
    (h : Json.IsSettled (.object members)) (hd : ofJson? (.object members) = some d) :
    (Json.object members).Reduces d.toJson := by
  obtain ⟨mode, hmode, hmode'⟩ := h.soleMember? "mode"
  obtain ⟨days, hdays, hdays'⟩ := h.soleMember? "numberOfDays"
  obtain ⟨input, hinput, hinput'⟩ := h.soleMember? "input"
  have hrecord : Json.record? fieldNames (.object members) = some [mode, days, input] := by
    simp [Json.record?, fieldNames, List.mapM_cons, hmode, hdays, hinput]
  rw [ofJson?, hrecord] at hd
  simp only [Option.bind_eq_bind, Option.bind_eq_some_iff, Option.pure_def,
    Option.some.injEq] at hd
  obtain ⟨m, hm, n, hn, i, hi, rfl⟩ := hd
  have hwritten := flatMap_filter_perm (show fieldNames.Nodup by decide) members
  simp only [fieldNames, List.flatMap_cons, List.flatMap_nil, List.append_nil] at hwritten
  rw [← (Scalar.entry_of_optional hmode' hm "mode").eq_filter hmode,
    ← (Scalar.entry_of_optional hdays' hn "numberOfDays").eq_filter hdays,
    ← (Scalar.entry_of_optional hinput' hi "input").eq_filter hinput, ← List.append_assoc]
    at hwritten
  exact .object hwritten

/-! ### Values -/

namespace Value

mutual

/-- A value is written as the settled JSON value that it was read from, reduced. -/
theorem reduces_toJson : ∀ {j : Json} {v : Value}, j.IsSettled → shape? j = some v →
    j.Reduces v.toJson
  | .null, v, _, h => by
    cases h
    exact .null
  | .bool b, v, _, h => by
    cases h
    exact .bool b
  | .number n, v, _, h => by
    cases h
    exact .number n
  | .str s, v, _, h => by
    cases h
    exact .str s
  | .unreadable, v, _, h => by
    cases h
  | .object members, v, hj, h => by
    rw [Value.shape?, Option.map_eq_some_iff] at h
    obtain ⟨d, hd, rfl⟩ := h
    exact DateValue.reduces_toJson hj hd
  | .array items, v, hj, h => by
    -- Settled items are values, so the array is not tried as a date object.
    obtain ⟨values, hvalues⟩ := exists_shapes? hj.of_mem_array
    rw [Value.shape?, hvalues] at h
    cases h
    exact .array (reduces_toJsons hj.of_mem_array hvalues)

/-- Values are written as the settled items that they were read from, reduced. -/
theorem reduces_toJsons : ∀ {items : List Json} {values : List Value},
    (∀ j ∈ items, j.IsSettled) → shapes? items = some values →
      List.Forall₂ Json.Reduces items (toJsons values)
  | [], values, _, h => by
    cases h
    exact .nil
  | j :: rest, values, hitems, h => by
    rw [List.forall_mem_cons] at hitems
    simp only [shapes?, Option.bind_eq_bind, Option.bind_eq_some_iff, Option.pure_def,
      Option.some.injEq] at h
    obtain ⟨v, hv, others, hothers, rfl⟩ := h
    exact .cons (reduces_toJson hitems.1 hv) (reduces_toJsons hitems.2 hothers)

end

end Value

/-- Every settled JSON value is read as a value, and written reduced. What is written is settled
and read as the same value again, so that writing it once more changes nothing, and neither its kind
does nor whether it is empty. -/
theorem value_read_back (j : Json) (h : j.IsSettled) :
    ∃ v, Value.ofJson? j = some v ∧ j.Reduces v.toJson ∧ v.toJson.IsSettled ∧
      Value.ofJson? v.toJson = some v ∧
      ∀ w, Value.ofJson? v.toJson = some w →
        w.toJson = v.toJson ∧ w.kind = v.kind ∧ w.isEmpty = v.isEmpty := by
  obtain ⟨v, hv⟩ := Value.exists_ofJson? h
  have hback := Value.ofJson?_toJson hv
  have hshape : Value.shape? j = some v := by
    unfold Value.ofJson? at hv
    split at hv
    · exact hv
    · cases hv
  refine ⟨v, hv, Value.reduces_toJson h hshape, (Value.readsBack_of_shape? hshape).settle?, hback,
    ?_⟩
  intro w hw
  cases hback.symm.trans hw
  exact ⟨rfl, rfl, rfl⟩

/-- A date object in a list loses a key without a field and a field that is null, but keeps a null
in one of its fields. -/
theorem list_with_date_read_back :
    let mode : Json := .array [.null, .object [("other", .null)]]
    let j : Json := .array [.str "a", .array [.object
      [("other", .bool true), ("input", .null), ("mode", mode)]], .object []]
    let out : Json := .array [.str "a", .array [.object [("mode", mode)]], .object []]
    j.IsSettled ∧ j.Reduces out ∧ out.IsSettled ∧ ∃ v, Value.ofJson? j = some v ∧
      v.toJson = out ∧ Value.ofJson? out = some v := by
  intro mode j out
  have hj : j.IsSettled := by rfl
  obtain ⟨v, hv, hreduces, hout, hback, -⟩ := value_read_back j hj
  have hwritten : v.toJson = out := by
    cases hv
    rfl
  rw [hwritten] at hreduces hout hback
  exact ⟨hj, hreduces, hout, v, hv, hwritten, hback⟩

end RecordFilter
