import RecordFilter.Proofs.Json.Settled
import RecordFilter.Tree.Value

/-!
# `RecordFilter.Proofs.Tree.ValueReading`: values that are read back as written

A value that was read from JSON can be written and read again, and is then the same value. What
makes this true is that the fields of a date object keep the kind that their JSON value decides: a
field of the kind `other` holds a settled value that is neither null nor a number nor a text.

* `Scalar.readsBack_of_ofJson?`, `DateValue.readsBack_of_ofJson?`: this holds of fields and date
  objects.
* `Value.ofJson?_toJson`: a value that was read is read back from its JSON.
* `Value.exists_ofJson?`: every settled JSON value has a value.
-/

set_option autoImplicit false

namespace RecordFilter

/-! ### Fields of date objects -/

/-- The field is read back from its JSON, which is settled and not null. -/
structure Scalar.ReadsBack (s : Scalar) : Prop where
  ne_null : s.toJson ≠ .null
  ofJson? : Scalar.ofJson? s.toJson = some s
  settle? : s.toJson.settle? = some s.toJson

/-- A settled value that is neither a number nor a text is read back as a field. -/
theorem Scalar.readsBack_other {j : Json} (hsettled : j.settle? = some j) (hnull : j ≠ .null)
    (hnumber : ∀ n, j ≠ .number n) (hstr : ∀ s, j ≠ .str s) : (Scalar.other j).ReadsBack := by
  refine ⟨hnull, ?_, hsettled⟩
  show Scalar.ofJson? j = some (.other j)
  cases j with
  | number n => exact absurd rfl (hnumber n)
  | str s => exact absurd rfl (hstr s)
  | null | bool | array | object | unreadable =>
    simp only [Scalar.ofJson?, hsettled, Option.map_some]

/-- A field that was read is read back. -/
theorem Scalar.readsBack_of_ofJson? {j : Json} {s : Scalar} (hnull : j ≠ .null)
    (h : Scalar.ofJson? j = some s) : s.ReadsBack := by
  cases j with
  | null => exact absurd rfl hnull
  | number n =>
    cases h
    exact ⟨by simp [Scalar.toJson], rfl, rfl⟩
  | str t =>
    cases h
    exact ⟨by simp [Scalar.toJson], rfl, rfl⟩
  | bool b =>
    cases h
    exact Scalar.readsBack_other rfl (by simp) (by simp) (by simp)
  | unreadable => cases h
  | array items =>
    -- Settling keeps an array an array, so the field stays of the same kind.
    obtain ⟨k, hk, rfl⟩ := Option.map_eq_some_iff.mp h
    have hsettled := Json.settle?_of_settled hk
    rw [Json.settle?, Option.map_eq_some_iff] at hk
    obtain ⟨ks, -, rfl⟩ := hk
    exact Scalar.readsBack_other hsettled (by simp) (by simp) (by simp)
  | object members =>
    obtain ⟨k, hk, rfl⟩ := Option.map_eq_some_iff.mp h
    have hsettled := Json.settle?_of_settled hk
    rw [Json.settle?, Option.map_eq_some_iff] at hk
    obtain ⟨ks, -, rfl⟩ := hk
    exact Scalar.readsBack_other hsettled (by simp) (by simp) (by simp)

/-- An optional field that was read is read back if it is there. -/
theorem Scalar.readsBack_of_optional {o : Option Json} {field : Option Scalar}
    (h : Json.optional Scalar.ofJson? o = some field) : ∀ s ∈ field, s.ReadsBack := by
  intro s hs
  cases Option.mem_def.mp hs
  unfold Json.optional at h
  split at h
  · cases h
  · cases h
  · rename_i j hnull
    obtain ⟨s', hs', heq⟩ := Option.map_eq_some_iff.mp h
    cases heq
    exact Scalar.readsBack_of_ofJson? hnull hs'

/-- A field that is read back is read back as an optional field. -/
theorem Scalar.optional_toJson {field : Option Scalar} (h : ∀ s ∈ field, s.ReadsBack) :
    Json.optional Scalar.ofJson? (field.map Scalar.toJson) = some field := by
  cases field with
  | none => rfl
  | some s =>
    have hs := h s rfl
    have hnull := hs.ne_null
    have hread := hs.ofJson?
    show Json.optional Scalar.ofJson? (some s.toJson) = some (some s)
    unfold Json.optional
    split
    · rename_i heq; cases heq
    · rename_i heq; exact absurd (Option.some.inj heq) hnull
    · rename_i heq
      cases heq
      rw [hread, Option.map_some]

/-! ### Date objects -/

/-- Every field that is there is read back. -/
structure DateValue.ReadsBack (d : DateValue) : Prop where
  mode : ∀ s ∈ d.mode, s.ReadsBack
  numberOfDays : ∀ s ∈ d.numberOfDays, s.ReadsBack
  input : ∀ s ∈ d.input, s.ReadsBack

/-- A date object that was read is read back. -/
theorem DateValue.readsBack_of_ofJson? {j : Json} {d : DateValue} (h : ofJson? j = some d) :
    d.ReadsBack := by
  unfold ofJson? at h
  split at h
  · simp only [Option.bind_eq_bind, Option.bind_eq_some_iff, Option.pure_def,
      Option.some.injEq] at h
    obtain ⟨mode, hmode, days, hdays, input, hinput, rfl⟩ := h
    exact ⟨Scalar.readsBack_of_optional hmode, Scalar.readsBack_of_optional hdays,
      Scalar.readsBack_of_optional hinput⟩
  · cases h

/-- The fields of a written date object stand under their names. -/
theorem DateValue.record?_toJson (d : DateValue) :
    d.toJson.record? fieldNames
      = some [d.mode.map Scalar.toJson, d.numberOfDays.map Scalar.toJson,
          d.input.map Scalar.toJson] := by
  obtain ⟨mode, days, input⟩ := d
  cases mode <;> cases days <;> cases input <;> rfl

/-- A date object whose fields are read back is read back. -/
theorem DateValue.ReadsBack.ofJson?_toJson {d : DateValue} (h : d.ReadsBack) :
    ofJson? d.toJson = some d := by
  have hmode := Scalar.optional_toJson h.mode
  have hdays := Scalar.optional_toJson h.numberOfDays
  have hinput := Scalar.optional_toJson h.input
  rw [DateValue.ofJson?, d.record?_toJson]
  simp [hmode, hdays, hinput]

/-- A written field is settled. -/
theorem Scalar.settleMembers?_present {field : Option Scalar} (h : ∀ s ∈ field, s.ReadsBack)
    (key : String) (rest : List (String × Json)) (hrest : Json.settleMembers? rest = some rest) :
    Json.settleMembers? (Json.present key Scalar.toJson field ++ rest)
      = some (Json.present key Scalar.toJson field ++ rest) := by
  cases field with
  | none => exact hrest
  | some s =>
    have hs := (h s rfl).settle?
    simp [Json.present, Json.settleMembers?, hs, hrest]

/-- A written date object is settled. -/
theorem DateValue.ReadsBack.settle?_toJson {d : DateValue} (h : d.ReadsBack) :
    d.toJson.settle? = some d.toJson := by
  have hinput := Scalar.settleMembers?_present h.input "input" [] rfl
  rw [List.append_nil] at hinput
  have hdays := Scalar.settleMembers?_present h.numberOfDays "numberOfDays" _ hinput
  have hmode := Scalar.settleMembers?_present h.mode "mode" _ hdays
  -- The three names differ, so no member is dropped.
  have hlast : Json.lastMembers (Json.present "mode" Scalar.toJson d.mode ++
      (Json.present "numberOfDays" Scalar.toJson d.numberOfDays ++
        Json.present "input" Scalar.toJson d.input)) =
      Json.present "mode" Scalar.toJson d.mode ++
        (Json.present "numberOfDays" Scalar.toJson d.numberOfDays ++
          Json.present "input" Scalar.toJson d.input) := by
    cases d.mode <;> cases d.numberOfDays <;> cases d.input <;> rfl
  rw [DateValue.toJson, List.append_assoc, Json.settle?, hmode, Option.map_some, hlast]

/-! ### Values -/

namespace Value

/-- The value is read back from its JSON, which is settled. -/
structure ReadsBack (v : Value) : Prop where
  shape? : shape? v.toJson = some v
  settle? : v.toJson.settle? = some v.toJson

/-- A date object is read back when its fields are. -/
theorem readsBack_date {d : DateValue} (h : d.ReadsBack) : (Value.date d).ReadsBack := by
  refine ⟨?_, h.settle?_toJson⟩
  have hread : (DateValue.ofJson? d.toJson).map Value.date = some (.date d) := by
    rw [h.ofJson?_toJson, Option.map_some]
  exact hread

/-- A list is read back when its items are. -/
theorem readsBack_list {values : List Value} (h : ∀ v ∈ values, v.ReadsBack) :
    (Value.list values).ReadsBack := by
  have hitems : shapes? (toJsons values) = some values ∧
      Json.settleItems? (toJsons values) = some (toJsons values) := by
    induction values with
    | nil => exact ⟨rfl, rfl⟩
    | cons v rest ih =>
      have hv := h v List.mem_cons_self
      obtain ⟨hshapes, hsettle⟩ := ih fun w hw => h w (List.mem_cons_of_mem v hw)
      constructor
      · simp [toJsons, shapes?, hv.shape?, hshapes]
      · simp [toJsons, Json.settleItems?, hv.settle?, hsettle]
  refine ⟨?_, ?_⟩
  · rw [toJson, Value.shape?, hitems.1]
  · rw [toJson, Json.settle?, hitems.2, Option.map_some]

mutual

/-- A value that was read is read back. -/
theorem readsBack_of_shape? : ∀ {j : Json} {v : Value}, Value.shape? j = some v → v.ReadsBack
  | .null, v, h | .bool b, v, h | .number n, v, h | .str s, v, h => by
    cases h
    exact ⟨rfl, rfl⟩
  | .unreadable, v, h => by
    cases h
  | .object members, v, h => by
    rw [Value.shape?, Option.map_eq_some_iff] at h
    obtain ⟨d, hd, rfl⟩ := h
    exact readsBack_date (DateValue.readsBack_of_ofJson? hd)
  | .array items, v, h => by
    rw [Value.shape?] at h
    cases hitems : shapes? items with
    | some values =>
      rw [hitems] at h
      cases h
      exact readsBack_list (readsBack_of_shapes? hitems)
    | none =>
      -- An array that is no list of values was read as a date object.
      rw [hitems, Option.map_eq_some_iff] at h
      obtain ⟨d, hd, rfl⟩ := h
      exact readsBack_date (DateValue.readsBack_of_ofJson? hd)

/-- Values that were read are read back. -/
theorem readsBack_of_shapes? : ∀ {items : List Json} {values : List Value},
    shapes? items = some values → ∀ v ∈ values, v.ReadsBack
  | [], values, h, v, hv => by
    cases h
    cases hv
  | j :: rest, values, h, v, hv => by
    simp only [shapes?, Option.bind_eq_bind, Option.bind_eq_some_iff, Option.pure_def,
      Option.some.injEq] at h
    obtain ⟨first, hfirst, others, hothers, rfl⟩ := h
    cases List.mem_cons.mp hv with
    | inl heq => rw [heq]; exact readsBack_of_shape? hfirst
    | inr hmem => exact readsBack_of_shapes? hothers v hmem

end

/-- A value that was read is read back from its JSON. -/
theorem ofJson?_toJson {j : Json} {v : Value} (h : ofJson? j = some v) :
    ofJson? v.toJson = some v := by
  unfold ofJson? at h ⊢
  split at h
  · have hv := readsBack_of_shape? h
    have hreadable : v.toJson.isReadable = true := by
      rw [Json.isReadable, hv.settle?]
      rfl
    rw [if_pos hreadable, hv.shape?]
  · cases h

end Value

/-! ### Settled JSON values -/

/-- A settled object has at most one member of each key, and its value is settled. -/
theorem Json.IsSettled.soleMember? {members : List (String × Json)}
    (h : Json.IsSettled (.object members)) (key : String) :
    ∃ o, Json.soleMember? members key = some o ∧ ∀ j, o = some j → j.IsSettled := by
  unfold Json.soleMember?
  cases hfilter : members.filter fun m => m.1 == key with
  | nil => exact ⟨none, rfl, by simp⟩
  | cons m rest =>
    have hmem : ∀ e ∈ m :: rest, e ∈ members ∧ e.1 = key := by
      intro e he
      rw [← hfilter] at he
      simpa using he
    cases rest with
    | nil =>
      refine ⟨some m.2, rfl, ?_⟩
      intro j hj
      cases hj
      exact h.of_mem_object m (hmem m (by simp)).1
    | cons n rest =>
      -- Two members of the same key would make the keys repeat.
      have hnodup : ((m :: n :: rest).map Prod.fst).Nodup := by
        rw [← hfilter]
        exact (List.filter_sublist.map Prod.fst).nodup h.nodup_keys
      simp [(hmem m (by simp)).2, (hmem n (by simp)).2] at hnodup

/-- A settled field that may be missing is read. -/
theorem Scalar.exists_optional {o : Option Json} (h : ∀ j, o = some j → j.IsSettled) :
    ∃ field, Json.optional Scalar.ofJson? o = some field := by
  cases o with
  | none => exact ⟨none, rfl⟩
  | some j =>
    have hj : j.settle? = some j := h j rfl
    cases j with
    | null => exact ⟨none, rfl⟩
    | number n => exact ⟨some (.number n), rfl⟩
    | str s => exact ⟨some (.text s), rfl⟩
    | bool b => exact ⟨some (.other (.bool b)), by simp [Json.optional, Scalar.ofJson?, hj]⟩
    | array items =>
      exact ⟨some (.other (.array items)), by simp [Json.optional, Scalar.ofJson?, hj]⟩
    | object members =>
      exact ⟨some (.other (.object members)), by simp [Json.optional, Scalar.ofJson?, hj]⟩
    | unreadable => cases hj

/-- Every settled object is a date object, whatever its keys are. -/
theorem DateValue.exists_ofJson?_object {members : List (String × Json)}
    (h : Json.IsSettled (.object members)) : ∃ d, DateValue.ofJson? (.object members) = some d := by
  obtain ⟨mode, hmode, hmode'⟩ := h.soleMember? "mode"
  obtain ⟨days, hdays, hdays'⟩ := h.soleMember? "numberOfDays"
  obtain ⟨input, hinput, hinput'⟩ := h.soleMember? "input"
  have hrecord : Json.record? fieldNames (.object members) = some [mode, days, input] := by
    simp [Json.record?, fieldNames, List.mapM_cons, hmode, hdays, hinput]
  obtain ⟨m, hm⟩ := Scalar.exists_optional hmode'
  obtain ⟨n, hn⟩ := Scalar.exists_optional hdays'
  obtain ⟨i, hi⟩ := Scalar.exists_optional hinput'
  refine ⟨⟨m, n, i⟩, ?_⟩
  simp [DateValue.ofJson?, hrecord, hm, hn, hi]

namespace Value

mutual

/-- Every settled JSON value has the shape of a value. -/
theorem exists_shape? : ∀ {j : Json}, j.IsSettled → ∃ v, shape? j = some v
  | .null, _ | .bool _, _ | .number _, _ | .str _, _ => ⟨_, rfl⟩
  | .unreadable, h => nomatch h
  | .object members, h => by
    obtain ⟨d, hd⟩ := DateValue.exists_ofJson?_object h
    exact ⟨.date d, by rw [Value.shape?, hd, Option.map_some]⟩
  | .array items, h => by
    obtain ⟨values, hvalues⟩ := exists_shapes? h.of_mem_array
    exact ⟨.list values, by rw [Value.shape?, hvalues]⟩

/-- Settled items have the shapes of values. -/
theorem exists_shapes? : ∀ {items : List Json}, (∀ j ∈ items, j.IsSettled) →
    ∃ values, shapes? items = some values
  | [], _ => ⟨[], rfl⟩
  | j :: rest, h => by
    rw [List.forall_mem_cons] at h
    obtain ⟨v, hv⟩ := exists_shape? h.1
    obtain ⟨values, hvalues⟩ := exists_shapes? h.2
    exact ⟨v :: values, by simp [shapes?, hv, hvalues]⟩

end

/-- Every settled JSON value has a value. -/
theorem exists_ofJson? {j : Json} (h : j.IsSettled) : ∃ v, ofJson? j = some v := by
  obtain ⟨v, hv⟩ := exists_shape? h
  have hreadable : j.isReadable = true := by
    rw [Json.isReadable, show j.settle? = some j from h]
    rfl
  exact ⟨v, by rw [ofJson?, if_pos hreadable, hv]⟩

end Value

end RecordFilter
