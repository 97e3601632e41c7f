import RecordFilter.Proofs.Json.Restating
import RecordFilter.Schema.Codec

/-!
# `RecordFilter.Proofs.Schema.Reading`: schemas, read field by field

Each part of a schema is read from the values of its fields: one theorem `ofJson?_eq_some_iff` for
each says which values these are, and how each of them is read. For schemas, tables, fields and
choices this is how they are defined.

Options and formula results are read one member at a time instead, from the last to the first. By
`FieldOptions.members?_eq_some_iff` and `FormulaResult.members?_eq_some_iff`, induction on the
members, each known key is read once, whatever stands between, and the members of options with
other keys are settled in their order. A formula result is then a record like the others.
-/

set_option autoImplicit false

namespace RecordFilter

open Json (readMember?)

/-- A value that may be null, and what is made of it. -/
theorem Json.optional_bind {α β : Type} (read : Json → Option α) (j : Json)
    (f : Option α → Option β) : (Json.optional read (some j)).bind f =
      if j.isNull then f none else (read j).bind fun a => f (some a) := by
  cases j with
  | null => rfl
  | _ => exact Option.bind_map

/-- Reading a key that may come once: nothing was read of it before. What is read of it is the part
of `m` that `value?` gives and `put` replaces. -/
theorem putOnce_eq_some_iff {α β : Type} (value? : β → Option α) (put : β → Option α → β)
    (hvalue : ∀ m o, value? (put m o) = o) (hput : ∀ m o o', put (put m o) o' = put m o')
    (hself : ∀ m, put m (value? m) = m) {rest : Option β} {read : Option α} {m : β} :
    (rest.bind fun before => if (value? before).isSome then none
      else read.bind fun a => some (put before (some a))) = some m ↔
        rest = some (put m none) ∧ read.map some = some (value? m) := by
  have hstep (before : β) : (if (value? before).isSome then none
      else read.bind fun a => some (put before (some a))) = some m ↔
        value? before = none ∧ ∃ a, read = some a ∧ put before (some a) = m := by
    cases value? before <;> simp [Option.bind_eq_some_iff]
  simp only [Option.bind_eq_some_iff, hstep, Option.map_eq_some_iff]
  constructor
  · rintro ⟨before, hrest, hnone, a, hread, rfl⟩
    rw [hput, hvalue, hrest, ← hnone, hself]
    exact ⟨rfl, a, hread, rfl⟩
  · rintro ⟨hrest, a, hread, ha⟩
    refine ⟨_, hrest, hvalue _ _, a, hread, ?_⟩
    rw [hput, ha, hself]

/-! ### The members of options -/

namespace FieldOptions

/-- The members of an options object with keys that are not known. -/
def others (members : List (String × Json)) : List (String × Json) :=
  members.filter fun m => m.1 != "choices" && m.1 != "result"

/-- Reading choices: they were not there before. -/
theorem members?_choices_iff {j : Json} {rest : List (String × Json)} {m : OptionsMembers} :
    members? (("choices", j) :: rest) = some m ↔
      members? rest = some { m with choices := none } ∧
        (j.list? Choice.ofJson?).map some = some m.choices := by
  simp only [members?, if_pos, Option.bind_eq_bind, Option.pure_def]
  exact putOnce_eq_some_iff OptionsMembers.choices (fun m o => { m with choices := o })
    (fun _ _ => rfl) (fun _ _ _ => rfl) (fun _ => rfl)

/-- Reading a result: it was not there before. -/
theorem members?_result_iff {j : Json} {rest : List (String × Json)} {m : OptionsMembers} :
    members? (("result", j) :: rest) = some m ↔
      members? rest = some { m with result := none } ∧
        (Json.optional FormulaResult.ofJson? (some j)).map some = some m.result := by
  have hvalue (m : OptionsMembers) := Json.optional_bind FormulaResult.ofJson? j
    fun r => some { m with result := some r }
  have hkey : ¬"result" = "choices" := by decide
  simp only [members?, if_neg hkey, if_pos, Option.bind_eq_bind, Option.pure_def, ← hvalue]
  exact putOnce_eq_some_iff OptionsMembers.result (fun m o => { m with result := o })
    (fun _ _ => rfl) (fun _ _ _ => rfl) (fun _ => rfl)

/-- Reading a member with a key that is not known: it is settled. -/
theorem members?_other_iff {key : String} (hchoices : key ≠ "choices") (hresult : key ≠ "result")
    {j : Json} {rest : List (String × Json)} {m : OptionsMembers} :
    members? ((key, j) :: rest) = some m ↔ ∃ value, j.settle? = some value ∧ ∃ extra,
      members? rest = some { m with extra := extra } ∧ (key, value) :: extra = m.extra := by
  obtain ⟨choices, result, extra⟩ := m
  simp only [members?, if_neg hchoices, if_neg hresult, Option.bind_eq_bind,
    Option.bind_eq_some_iff, Option.pure_def, Option.some.injEq]
  constructor
  · rintro ⟨⟨choices, result, others⟩, hrest, value, hvalue, h⟩
    cases h
    exact ⟨value, hvalue, others, hrest, rfl⟩
  · rintro ⟨value, hvalue, others, hrest, rfl⟩
    exact ⟨_, hrest, value, hvalue, rfl⟩

/-- Reading the members of an options object reads each known key, and settles the others. -/
theorem members?_eq_some_iff {members : List (String × Json)} {m : OptionsMembers} :
    members? members = some m ↔
      readMember? (Json.list? Choice.ofJson?) members "choices" = some m.choices ∧
      readMember? (fun j => Json.optional FormulaResult.ofJson? (some j)) members "result"
        = some m.result ∧
      Json.settleMembers? (others members) = some m.extra := by
  -- The first member is read last, so what was read of the rest must leave room for it.
  induction members generalizing m with
  | nil =>
    obtain ⟨choices, result, extra⟩ := m
    rw [Json.readMember?_nil, Json.readMember?_nil]
    simp [members?, others, Json.settleMembers?]
  | cons member rest ih =>
    obtain ⟨key, j⟩ := member
    by_cases hchoices : key = "choices"
    · subst hchoices
      have hothers : others (("choices", j) :: rest) = others rest := by simp [others]
      rw [members?_choices_iff, ih, hothers, Json.readMember?_cons_eq_some_iff,
        Json.readMember?_cons_of_ne j rest (by decide)]
      tauto
    · by_cases hresult : key = "result"
      · subst hresult
        have hothers : others (("result", j) :: rest) = others rest := by simp [others]
        rw [members?_result_iff, ih, hothers, Json.readMember?_cons_eq_some_iff,
          Json.readMember?_cons_of_ne j rest hchoices]
        tauto
      · have hothers : others ((key, j) :: rest) = (key, j) :: others rest := by
          simp [others, hchoices, hresult]
        simp only [members?_other_iff hchoices hresult, ih, hothers,
          Json.readMember?_cons_of_ne j rest hchoices, Json.readMember?_cons_of_ne j rest hresult,
          Json.settleMembers?, Option.bind_eq_bind, Option.bind_eq_some_iff, Option.pure_def,
          Option.some.injEq]
        tauto

end FieldOptions

/-! ### The members of formula results -/

namespace FormulaResult

/-- Reading a type: it was not there before. -/
theorem members?_type_iff {j : Json} {rest : List (String × Json)} {m : ResultMembers} :
    members? (("type", j) :: rest) = some m ↔
      members? rest = some { m with type := none } ∧
        (FieldType.ofJson? j).map some = some m.type := by
  simp only [members?, if_pos, Option.bind_eq_bind, Option.pure_def]
  exact putOnce_eq_some_iff ResultMembers.type (fun m o => { m with type := o })
    (fun _ _ => rfl) (fun _ _ _ => rfl) (fun _ => rfl)

/-- Reading options: they were not there before. -/
theorem members?_options_iff {j : Json} {rest : List (String × Json)} {m : ResultMembers} :
    members? (("options", j) :: rest) = some m ↔
      members? rest = some { m with options := none } ∧
        (Json.optional FieldOptions.ofJson? (some j)).map some = some m.options := by
  have hvalue (m : ResultMembers) := Json.optional_bind FieldOptions.ofJson? j
    fun o => some { m with options := some o }
  have hkey : ¬"options" = "type" := by decide
  simp only [members?, if_neg hkey, if_pos, Option.bind_eq_bind, Option.pure_def, ← hvalue]
  exact putOnce_eq_some_iff ResultMembers.options (fun m o => { m with options := o })
    (fun _ _ => rfl) (fun _ _ _ => rfl) (fun _ => rfl)

/-- A member with a key that is not known is skipped. -/
theorem members?_other {key : String} (htype : key ≠ "type") (hoptions : key ≠ "options")
    (j : Json) (rest : List (String × Json)) :
    members? ((key, j) :: rest) = members? rest := by
  simp [members?, htype, hoptions]

/-- Reading the members of a formula result reads each known key. -/
theorem members?_eq_some_iff {members : List (String × Json)} {m : ResultMembers} :
    members? members = some m ↔
      readMember? FieldType.ofJson? members "type" = some m.type ∧
      readMember? (fun j => Json.optional FieldOptions.ofJson? (some j)) members "options"
        = some m.options := by
  induction members generalizing m with
  | nil =>
    obtain ⟨type, options⟩ := m
    rw [Json.readMember?_nil, Json.readMember?_nil]
    simp [members?]
  | cons member rest ih =>
    obtain ⟨key, j⟩ := member
    by_cases htype : key = "type"
    · subst htype
      rw [members?_type_iff, ih, Json.readMember?_cons_eq_some_iff,
        Json.readMember?_cons_of_ne j rest (by decide)]
      tauto
    · by_cases hoptions : key = "options"
      · subst hoptions
        rw [members?_options_iff, ih, Json.readMember?_cons_eq_some_iff,
          Json.readMember?_cons_of_ne j rest htype]
        tauto
      · rw [members?_other htype hoptions, ih, Json.readMember?_cons_of_ne j rest htype,
          Json.readMember?_cons_of_ne j rest hoptions]

end FormulaResult

/-! ### Fields of records -/

/-- A type is read from its name, whatever the name is. -/
theorem FieldType.ofJson?_eq_some_iff {j : Json} {t : FieldType} :
    FieldType.ofJson? j = some t ↔ ∃ s, j = .str s ∧ FieldType.ofName s = t := by
  cases j <;> simp [FieldType.ofJson?, Json.text?]

/-- What is read of a formula result that is an object. -/
theorem FormulaResult.ofJson?_object_iff {members : List (String × Json)} {r : FormulaResult} :
    FormulaResult.ofJson? (.object members) = some r ↔
      (∃ type, Json.soleMember? members "type" = some type ∧
        Json.required FieldType.ofJson? type = some r.type) ∧
      (∃ options, Json.soleMember? members "options" = some options ∧
        Json.optional FieldOptions.ofJson? options = some r.options) := by
  simp only [FormulaResult.ofJson?, Option.bind_eq_some_iff, FormulaResult.members?_eq_some_iff,
    ← Json.readMember?_eq_some_some_iff, ← Json.exists_readMember?_optional_iff]
  constructor
  · rintro ⟨m, ⟨htype, hoptions⟩, h⟩
    obtain ⟨type, hm, rfl⟩ := Option.map_eq_some_iff.mp h
    rw [hm] at htype
    exact ⟨htype, m.options, hoptions, rfl⟩
  · obtain ⟨type, options⟩ := r
    rintro ⟨htype, options, hoptions, rfl⟩
    exact ⟨⟨some type, options⟩, ⟨htype, hoptions⟩, rfl⟩

/-- What is read of a formula result that is an array of both fields. -/
theorem FormulaResult.ofJson?_pair (type options : Json) :
    FormulaResult.ofJson? (.array [type, options]) = (FieldType.ofJson? type).bind fun t =>
      (Json.optional FieldOptions.ofJson? (some options)).bind fun o => some ⟨t, o⟩ := by
  simp only [FormulaResult.ofJson?, Json.optional_bind, Option.bind_eq_bind, Option.pure_def]

/-- What is read of a formula result: that of a record with two fields. -/
theorem FormulaResult.ofJson?_eq_some_iff {j : Json} {r : FormulaResult} :
    FormulaResult.ofJson? j = some r ↔ ∃ type options,
      j.record? ["type", "options"] = some [type, options] ∧
      Json.required FieldType.ofJson? type = some r.type ∧
      Json.optional FieldOptions.ofJson? options = some r.options := by
  match j with
  | .object members =>
    rw [ofJson?_object_iff]
    simp only [Json.record?, List.mapM_cons, List.mapM_nil, Option.bind_eq_bind,
      Option.bind_eq_some_iff, Option.pure_def, Option.some.injEq]
    constructor
    · rintro ⟨⟨type, ht, htype⟩, options, ho, hoptions⟩
      refine ⟨type, options, ?_, htype, hoptions⟩
      exact ⟨type, ht, [options], ⟨options, ho, [], rfl, rfl⟩, rfl⟩
    · rintro ⟨type, options, ⟨_, ht, _, ⟨_, ho, _, rfl, rfl⟩, h⟩, htype, hoptions⟩
      cases h
      exact ⟨⟨type, ht, htype⟩, options, ho, hoptions⟩
  -- In an array the type comes first. Options may be missing at its end, and nothing may follow.
  | .array [type, options] =>
    obtain ⟨t, o⟩ := r
    rw [ofJson?_pair]
    simp [Json.record?, Json.required, Option.bind_eq_some_iff]
  | .array [] => simp [FormulaResult.ofJson?, Json.record?, Json.required]
  | .array [type] =>
    obtain ⟨t, o⟩ := r
    simp [FormulaResult.ofJson?, Json.record?, Json.required, Json.optional]
  | .array (_ :: _ :: _ :: _) => simp [FormulaResult.ofJson?, Json.record?]
  | .null | .bool _ | .number _ | .str _ | .unreadable =>
    simp [FormulaResult.ofJson?, Json.record?]

/-- What is read of options. -/
theorem FieldOptions.ofJson?_eq_some_iff {j : Json} {o : FieldOptions} :
    FieldOptions.ofJson? j = some o ↔ ∃ members, j = .object members ∧
      (∃ choices, Json.soleMember? members "choices" = some choices ∧
        Json.defaulted [] (Json.list? Choice.ofJson?) choices = some o.choices) ∧
      (∃ result, Json.soleMember? members "result" = some result ∧
        Json.optional FormulaResult.ofJson? result = some o.result) ∧
      (Json.object (FieldOptions.others members)).settle? = some (.object o.extra) := by
  obtain ⟨choices, result, extra⟩ := o
  cases j with
  | object members =>
    simp only [FieldOptions.ofJson?, Option.map_eq_some_iff, FieldOptions.members?_eq_some_iff,
      Json.object.injEq, exists_eq_left', ← Json.exists_readMember?_getD_iff,
      ← Json.exists_readMember?_optional_iff, Json.settle?]
    constructor
    · rintro ⟨m, ⟨hchoices, hresult, hextra⟩, h⟩
      cases h
      exact ⟨⟨_, hchoices, rfl⟩, ⟨_, hresult, rfl⟩, _, hextra, rfl⟩
    · rintro ⟨⟨choices, hchoices, rfl⟩, ⟨result, hresult, rfl⟩, extra, hextra, rfl⟩
      exact ⟨⟨choices, result, extra⟩, ⟨hchoices, hresult, hextra⟩, rfl⟩
  | _ => simp [FieldOptions.ofJson?]

/-- What is read of a choice. -/
theorem Choice.ofJson?_eq_some_iff {j : Json} {c : Choice} :
    Choice.ofJson? j = some c ↔ ∃ id name color,
      j.record? ["id", "name", "color"] = some [id, name, color] ∧
      Json.optional Json.text? id = some c.id ∧ Json.required Json.text? name = some c.name ∧
      Json.optional Json.text? color = some c.color := by
  obtain ⟨id, name, color⟩ := c
  unfold Choice.ofJson?
  split
  · rename_i hrecord
    simp [hrecord, Option.bind_eq_some_iff]
  · rename_i hother
    refine iff_of_false (by simp) ?_
    rintro ⟨id, name, color, h, -⟩
    exact hother id name color h

/-- What is read of a field. -/
theorem Field.ofJson?_eq_some_iff {j : Json} {f : Field} :
    Field.ofJson? j = some f ↔ ∃ id name type description options,
      j.record? ["id", "name", "type", "description", "options"]
        = some [id, name, type, description, options] ∧
      Json.required Json.text? id = some f.id ∧ Json.required Json.text? name = some f.name ∧
      Json.required FieldType.ofJson? type = some f.type ∧
      Json.optional Json.text? description = some f.description ∧
      Json.optional FieldOptions.ofJson? options = some f.options := by
  obtain ⟨id, name, type, description, options⟩ := f
  unfold Field.ofJson?
  split
  · rename_i hrecord
    simp [hrecord, Option.bind_eq_some_iff]
  · rename_i hother
    refine iff_of_false (by simp) ?_
    rintro ⟨id, name, type, description, options, h, -⟩
    exact hother id name type description options h

/-- What is read of a table. -/
theorem Table.ofJson?_eq_some_iff {j : Json} {t : Table} :
    Table.ofJson? j = some t ↔ ∃ id name primaryFieldId description fields,
      j.record? ["id", "name", "primaryFieldId", "description", "fields"]
        = some [id, name, primaryFieldId, description, fields] ∧
      Json.required Json.text? id = some t.id ∧ Json.required Json.text? name = some t.name ∧
      Json.optional Json.text? primaryFieldId = some t.primaryFieldId ∧
      Json.optional Json.text? description = some t.description ∧
      Json.defaulted [] (Json.list? Field.ofJson?) fields = some t.fields := by
  obtain ⟨id, name, primaryFieldId, description, fields⟩ := t
  unfold Table.ofJson?
  split
  · rename_i hrecord
    simp [hrecord, Option.bind_eq_some_iff]
  · rename_i hother
    refine iff_of_false (by simp) ?_
    rintro ⟨id, name, primaryFieldId, description, fields, h, -⟩
    exact hother id name primaryFieldId description fields h

/-- What is read of a schema. -/
theorem Schema.ofJson?_eq_some_iff {j : Json} {s : Schema} :
    Schema.ofJson? j = some s ↔ ∃ tables, j.record? ["tables"] = some [tables] ∧
      Json.defaulted [] (Json.list? Table.ofJson?) tables = some s.tables := by
  obtain ⟨tables⟩ := s
  unfold Schema.ofJson?
  split
  · rename_i hrecord
    simp [hrecord]
  · rename_i hother
    refine iff_of_false (by simp) ?_
    rintro ⟨tables, h, -⟩
    exact hother tables h

end RecordFilter
