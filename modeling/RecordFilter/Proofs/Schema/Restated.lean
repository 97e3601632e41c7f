import RecordFilter.Proofs.Json.Settled
import RecordFilter.Proofs.Schema.Reading

/-!
# `RecordFilter.Proofs.Schema.Restated`: what is written of a schema

A schema that was read is written so that it is read back: `schema_read_back`. The theorem also
compares what was read with what is written. `Schema.Restated` says that both have the same parts,
down to the formula results in the options of formula results: names and types are written as they
were, and of options every key that is not known keeps its value. Nothing is written for a field
that was missing or null, nor for choices that were missing or none.

Each part restates the values that it is read from when its own parts do (`Json.Restates`). Options
and formula results hold each other, so theirs is one induction on what was read of both.
-/

set_option autoImplicit false

namespace RecordFilter

open Json (Restates Entry Items)

/-! ### Restated values -/

/-- What is written of a choice. -/
inductive Choice.Restated : Json → Json → Prop
  | record {j : Json} {id color : Option Json} {name : Json}
      {idEntry colorEntry : List (String × Json)}
      (hrecord : j.record? ["id", "name", "color"] = some [id, some name, color])
      (hid : Entry Eq "id" id idEntry) (hcolor : Entry Eq "color" color colorEntry) :
    Restated j (.object (idEntry ++ [("name", name)] ++ colorEntry))

/-- What is kept of an options object: the members with keys that are not known. Where no key comes
twice and every part is readable, their values are kept as they are. -/
structure FieldOptions.Keeps (members extra : List (String × Json)) : Prop where
  settled : (Json.object (FieldOptions.others members)).settle? = some (.object extra)
  verbatim : (Json.object members).IsSettled → extra = FieldOptions.others members

/-- The member of a list that is left out where it is empty. -/
def Json.listed (key : String) (items : List Json) : List (String × Json) :=
  if items.isEmpty then [] else [(key, .array items)]

mutual

/-- What is written of options. -/
inductive FieldOptions.Restated : Json → Json → Prop
  | object {members : List (String × Json)} {choices result : Option Json} {outs : List Json}
      {resultEntry extra : List (String × Json)}
      (hchoices : Json.soleMember? members "choices" = some choices)
      (houts : Items Choice.Restated choices outs)
      (hresult : Json.soleMember? members "result" = some result)
      (hentry : Entry FormulaResult.Restated "result" result resultEntry)
      (hextra : FieldOptions.Keeps members extra) :
    FieldOptions.Restated (.object members)
      (.object (Json.listed "choices" outs ++ resultEntry ++ extra))

/-- What is written of a formula result. -/
inductive FormulaResult.Restated : Json → Json → Prop
  | record {j type : Json} {options : Option Json} {optionsEntry : List (String × Json)}
      (hrecord : j.record? ["type", "options"] = some [some type, options])
      (hoptions : Entry FieldOptions.Restated "options" options optionsEntry) :
    FormulaResult.Restated j (.object ([("type", type)] ++ optionsEntry))

end

/-- What is written of a field. -/
inductive Field.Restated : Json → Json → Prop
  | record {j id name type : Json} {description options : Option Json}
      {descriptionEntry optionsEntry : List (String × Json)}
      (hrecord : j.record? ["id", "name", "type", "description", "options"]
        = some [some id, some name, some type, description, options])
      (hdescription : Entry Eq "description" description descriptionEntry)
      (hoptions : Entry FieldOptions.Restated "options" options optionsEntry) :
    Restated j (.object ([("id", id), ("name", name), ("type", type)] ++ descriptionEntry ++
      optionsEntry))

/-- What is written of a table. -/
inductive Table.Restated : Json → Json → Prop
  | record {j id name : Json} {primaryFieldId description fields : Option Json}
      {primaryEntry descriptionEntry : List (String × Json)} {outs : List Json}
      (hrecord : j.record? ["id", "name", "primaryFieldId", "description", "fields"]
        = some [some id, some name, primaryFieldId, description, fields])
      (hprimary : Entry Eq "primaryFieldId" primaryFieldId primaryEntry)
      (hdescription : Entry Eq "description" description descriptionEntry)
      (hfields : Items Field.Restated fields outs) :
    Restated j (.object ([("id", id), ("name", name)] ++ primaryEntry ++ descriptionEntry ++
      [("fields", .array outs)]))

/-- What is written of a schema. -/
inductive Schema.Restated : Json → Json → Prop
  | record {j : Json} {tables : Option Json} {outs : List Json}
      (hrecord : j.record? ["tables"] = some [tables])
      (htables : Items Table.Restated tables outs) :
    Restated j (.object [("tables", .array outs)])

/-! ### Choices -/

/-- The name of a type is written as it was read, also if it is not a known one. -/
theorem FieldType.restates (t : FieldType) :
    Restates FieldType.ofJson? FieldType.toJson Eq t := by
  intro j h
  obtain ⟨s, rfl, rfl⟩ := FieldType.ofJson?_eq_some_iff.mp h
  rw [FieldType.toJson, FieldType.name_ofName]
  exact ⟨h, rfl⟩

/-- A written choice is a record of its three fields. -/
theorem Choice.record?_toJson (c : Choice) : c.toJson.record? ["id", "name", "color"]
    = some [c.id.map .str, some (.str c.name), c.color.map .str] := by
  obtain ⟨id, name, color⟩ := c
  cases id <;> cases color <;> rfl

/-- Choices restate what they are read from. -/
theorem Choice.restates (c : Choice) : Restates Choice.ofJson? Choice.toJson Choice.Restated c := by
  intro j h
  obtain ⟨id, name, color, hrecord, hid, hname, hcolor⟩ := Choice.ofJson?_eq_some_iff.mp h
  obtain ⟨hidBack, hidEntry⟩ := Json.optional_text_restates hid "id"
  obtain ⟨hcolorBack, hcolorEntry⟩ := Json.optional_text_restates hcolor "color"
  obtain rfl := Json.eq_some_of_required_text? hname
  constructor
  · rw [Choice.ofJson?_eq_some_iff, c.record?_toJson]
    exact ⟨_, _, _, rfl, hidBack, rfl, hcolorBack⟩
  · exact .record hrecord hidEntry hcolorEntry

/-! ### Options and formula results -/

namespace FieldOptions

/-- The keys that are kept are not known. -/
theorem key_of_mem_extra {members extra : List (String × Json)}
    (h : (Json.object (others members)).settle? = some (.object extra)) :
    ∀ m ∈ extra, m.1 ≠ "choices" ∧ m.1 ≠ "result" := by
  intro m hm
  have hkey : extra.any (fun n => n.1 == m.1) = true := List.any_eq_true.mpr ⟨m, hm, by simp⟩
  -- Settling adds no key, so some other member had it before.
  rw [Json.any_of_settle?_object h] at hkey
  obtain ⟨n, hn, hnm⟩ := List.any_eq_true.mp hkey
  have hother : n.1 ≠ "choices" ∧ n.1 ≠ "result" := by
    simpa [others] using (List.mem_filter.mp hn).2
  rwa [beq_iff_eq.mp hnm] at hother

/-- The settled members are kept. -/
theorem keeps_of_settle? {members extra : List (String × Json)}
    (h : (Json.object (others members)).settle? = some (.object extra)) : Keeps members extra := by
  refine ⟨h, fun hsettled => ?_⟩
  have hothers : (Json.object (others members)).IsSettled := hsettled.filter _
  rw [Json.IsSettled, h] at hothers
  simpa using hothers

/-- The members of written options, but for those that are kept. -/
def known (o : FieldOptions) : List (String × Json) :=
  Json.listed "choices" (o.choices.map Choice.toJson) ++
    Json.present "result" FormulaResult.toJson o.result

/-- Written options begin with the members that are known. -/
theorem toJson_eq (o : FieldOptions) : o.toJson = .object (o.known ++ o.extra) := by
  obtain ⟨choices, result, extra⟩ := o
  cases choices <;> cases result <;>
    simp [toJson, known, Choice.members, Json.listed, Json.present]

/-- The choices of written options are read as they are, and left out where there are none. -/
theorem exists_known_choices {o : FieldOptions}
    (h : Json.list? Choice.ofJson? (.array (o.choices.map Choice.toJson)) = some o.choices) :
    ∃ choices, Json.soleMember? o.known "choices" = some choices ∧
      Json.defaulted [] (Json.list? Choice.ofJson?) choices = some o.choices := by
  obtain ⟨choices, result, extra⟩ := o
  cases choices with
  | nil => exact ⟨none, by cases result <;> rfl, rfl⟩
  | cons c cs =>
    refine ⟨some (.array ((c :: cs).map Choice.toJson)), ?_, h⟩
    cases result <;> rfl

/-- The result of written options is the member of its key. -/
theorem soleMember?_known_result (o : FieldOptions) : Json.soleMember? o.known "result"
    = some (o.result.map FormulaResult.toJson) := by
  obtain ⟨choices, result, extra⟩ := o
  cases choices <;> cases result <;> rfl

/-- No known member counts as another one. -/
theorem others_known (o : FieldOptions) : others o.known = [] := by
  obtain ⟨choices, result, extra⟩ := o
  cases choices <;> cases result <;> rfl

/-- Written options are read back when the choices and the result are. -/
theorem ofJson?_toJson_of {o : FieldOptions} {members : List (String × Json)}
    (hchoices : Json.list? Choice.ofJson? (.array (o.choices.map Choice.toJson)) = some o.choices)
    (hresult : Json.optional FormulaResult.ofJson? (o.result.map FormulaResult.toJson)
      = some o.result)
    (hextra : (Json.object (others members)).settle? = some (.object o.extra)) :
    ofJson? o.toJson = some o := by
  have hkey := key_of_mem_extra hextra
  -- The keys that are kept differ from the known ones, so neither part hides the other.
  have hothers : others (o.known ++ o.extra) = o.extra := by
    have hall : others o.extra = o.extra := by simpa [others] using hkey
    rw [others, List.filter_append, ← others, ← others, others_known, hall, List.nil_append]
  rw [toJson_eq, ofJson?_eq_some_iff]
  refine ⟨_, rfl, ?_, ⟨_, ?_, hresult⟩, ?_⟩
  · rw [Json.soleMember?_append fun m hm => (hkey m hm).1]
    exact exists_known_choices hchoices
  · rw [Json.soleMember?_append fun m hm => (hkey m hm).2, soleMember?_known_result]
  · -- What is kept was settled when it was read.
    rw [hothers]
    exact Json.settle?_of_settled hextra

/-- Options are written as an object, so they are not mistaken for missing ones. -/
theorem toJson_ne_null (o : FieldOptions) : o.toJson ≠ .null := by
  rw [toJson_eq]
  nofun

end FieldOptions

/-- A written result has its type first, and its options where it has some. -/
theorem FormulaResult.toJson_eq (r : FormulaResult) : r.toJson = .object
    ([("type", r.type.toJson)] ++ Json.present "options" FieldOptions.toJson r.options) := by
  obtain ⟨type, options⟩ := r
  cases options <;> simp [toJson, Json.present]

/-- A result is written as an object, so it is not mistaken for a missing one. -/
theorem FormulaResult.toJson_ne_null (r : FormulaResult) : r.toJson ≠ .null := by
  rw [toJson_eq]
  nofun

/-- Options restate what they are read from when their result does. -/
theorem FieldOptions.restates_of {o : FieldOptions} (hr : ∀ r ∈ o.result,
    Restates FormulaResult.ofJson? FormulaResult.toJson FormulaResult.Restated r) :
    Restates FieldOptions.ofJson? FieldOptions.toJson FieldOptions.Restated o := by
  intro j h
  obtain ⟨members, rfl, ⟨choices, hchoices, hread⟩, ⟨result, hresult, hreadResult⟩, hextra⟩ :=
    FieldOptions.ofJson?_eq_some_iff.mp h
  obtain ⟨hback, houts⟩ := Json.items_restates (fun c _ => Choice.restates c) hread
  obtain ⟨hbackResult, hentry⟩ :=
    Json.optional_restates hr FormulaResult.toJson_ne_null hreadResult "result"
  have hkeeps := FieldOptions.keeps_of_settle? hextra
  constructor
  · exact FieldOptions.ofJson?_toJson_of hback hbackResult hextra
  · rw [FieldOptions.toJson_eq]
    exact .object hchoices houts hresult hentry hkeeps

/-- Formula results restate what they are read from when their options do. -/
theorem FormulaResult.restates_of {r : FormulaResult} (ho : ∀ o ∈ r.options,
    Restates FieldOptions.ofJson? FieldOptions.toJson FieldOptions.Restated o) :
    Restates FormulaResult.ofJson? FormulaResult.toJson FormulaResult.Restated r := by
  intro j h
  obtain ⟨type, options, hrecord, htype, hoptions⟩ := FormulaResult.ofJson?_eq_some_iff.mp h
  obtain ⟨htypeBack, _, rfl, rfl⟩ := Json.required_restates r.type.restates htype
  obtain ⟨hback, hentry⟩ := Json.optional_restates ho FieldOptions.toJson_ne_null hoptions "options"
  rw [FormulaResult.toJson_eq]
  constructor
  · rw [FormulaResult.ofJson?_eq_some_iff]
    refine ⟨_, _, ?_, htypeBack, hback⟩
    cases r.options <;> rfl
  · exact .record hrecord hentry

-- The recursion is on what was read: options hold a smaller result, and a result smaller options.
mutual

/-- Options restate what they are read from. -/
theorem FieldOptions.restates : ∀ o : FieldOptions,
    Restates FieldOptions.ofJson? FieldOptions.toJson FieldOptions.Restated o
  | ⟨_, none, _⟩ => FieldOptions.restates_of nofun
  | ⟨_, some r, _⟩ => FieldOptions.restates_of fun _ hr => by
    cases hr
    exact FormulaResult.restates r

/-- Formula results restate what they are read from. -/
theorem FormulaResult.restates : ∀ r : FormulaResult,
    Restates FormulaResult.ofJson? FormulaResult.toJson FormulaResult.Restated r
  | ⟨_, none⟩ => FormulaResult.restates_of nofun
  | ⟨_, some o⟩ => FormulaResult.restates_of fun _ ho => by
    cases ho
    exact FieldOptions.restates o

end

/-! ### Fields, tables and schemas -/

/-- A written field is a record of its five fields. -/
theorem Field.record?_toJson (f : Field) :
    f.toJson.record? ["id", "name", "type", "description", "options"]
      = some [some (.str f.id), some (.str f.name), some f.type.toJson,
          f.description.map .str, f.options.map FieldOptions.toJson] := by
  obtain ⟨id, name, type, description, options⟩ := f
  cases description <;> cases options <;> rfl

/-- Fields restate what they are read from. -/
theorem Field.restates (f : Field) : Restates Field.ofJson? Field.toJson Field.Restated f := by
  -- Each field of the record has its own law, by what it holds and whether it may be missing.
  intro j h
  obtain ⟨id, name, type, description, options, hrecord, hid, hname, htype, hdescription,
    hoptions⟩ := Field.ofJson?_eq_some_iff.mp h
  obtain rfl := Json.eq_some_of_required_text? hid
  obtain rfl := Json.eq_some_of_required_text? hname
  obtain ⟨htypeBack, _, rfl, rfl⟩ := Json.required_restates f.type.restates htype
  obtain ⟨hdescriptionBack, hdescriptionEntry⟩ :=
    Json.optional_text_restates hdescription "description"
  obtain ⟨hoptionsBack, hoptionsEntry⟩ := Json.optional_restates
    (fun o _ => FieldOptions.restates o) FieldOptions.toJson_ne_null hoptions "options"
  constructor
  · rw [Field.ofJson?_eq_some_iff, f.record?_toJson]
    exact ⟨_, _, _, _, _, rfl, rfl, rfl, htypeBack, hdescriptionBack, hoptionsBack⟩
  · exact .record hrecord hdescriptionEntry hoptionsEntry

/-- A written table is a record of its five fields. -/
theorem Table.record?_toJson (t : Table) :
    t.toJson.record? ["id", "name", "primaryFieldId", "description", "fields"]
      = some [some (.str t.id), some (.str t.name), t.primaryFieldId.map .str,
          t.description.map .str, some (.array (t.fields.map Field.toJson))] := by
  obtain ⟨id, name, primaryFieldId, description, fields⟩ := t
  cases primaryFieldId <;> cases description <;> rfl

/-- Tables restate what they are read from, as their fields do. -/
theorem Table.restates (t : Table) : Restates Table.ofJson? Table.toJson Table.Restated t := by
  intro j h
  obtain ⟨id, name, primaryFieldId, description, fields, hrecord, hid, hname, hprimary,
    hdescription, hfields⟩ := Table.ofJson?_eq_some_iff.mp h
  obtain rfl := Json.eq_some_of_required_text? hid
  obtain rfl := Json.eq_some_of_required_text? hname
  obtain ⟨hprimaryBack, hprimaryEntry⟩ := Json.optional_text_restates hprimary "primaryFieldId"
  obtain ⟨hdescriptionBack, hdescriptionEntry⟩ :=
    Json.optional_text_restates hdescription "description"
  obtain ⟨hfieldsBack, hfieldsItems⟩ := Json.items_restates (fun f _ => Field.restates f) hfields
  constructor
  · rw [Table.ofJson?_eq_some_iff, t.record?_toJson]
    exact ⟨_, _, _, _, _, rfl, rfl, rfl, hprimaryBack, hdescriptionBack, hfieldsBack⟩
  · exact .record hrecord hprimaryEntry hdescriptionEntry hfieldsItems

/-- A schema that was read is written so that it is read back, and what is written restates what
was read. -/
theorem schema_read_back {j : Json} {s : Schema} (h : Schema.ofJson? j = some s) :
    Schema.ofJson? s.toJson = some s ∧ Schema.Restated j s.toJson := by
  obtain ⟨tables, hrecord, htables⟩ := Schema.ofJson?_eq_some_iff.mp h
  obtain ⟨htablesBack, htablesItems⟩ := Json.items_restates (fun t _ => Table.restates t) htables
  constructor
  · rw [Schema.ofJson?_eq_some_iff]
    exact ⟨_, rfl, htablesBack⟩
  · exact .record hrecord htablesItems

/-- A type that is not known comes through inside of a formula result, and so do the other options
there; an empty list of choices and a description that is null are left out. A field that was an
array is written as an object. -/
theorem nested_result_read_back :
    let inner : Json := .object [("choices", .array []), ("symbol", .str "€")]
    let result : Json := .object [("options", inner), ("type", .str "futureType")]
    let options : Json := .object [("isValid", .bool true), ("result", result)]
    let total : Json := .object [("id", .str "f1"), ("name", .str "Total"),
      ("type", .str "formula"), ("description", .null), ("options", options)]
    let page : Json := .array [.str "f2", .str "Page", .str "url"]
    let j : Json := .object [("tables", .array [.object [("id", .str "t"), ("name", .str "Tasks"),
      ("fields", .array [total, page])]])]
    let read : FieldOptions := ⟨[], some ⟨.other "futureType",
      some ⟨[], none, [("symbol", .str "€")]⟩⟩, [("isValid", .bool true)]⟩
    let s : Schema := ⟨[⟨"t", "Tasks", none, none,
      [⟨"f1", "Total", .formula, none, some read⟩, .ofType "f2" "Page" .url]⟩]⟩
    Schema.ofJson? j = some s ∧ Schema.ofJson? s.toJson = some s ∧ Schema.Restated j s.toJson := by
  intro inner result options total page j read s
  have h : Schema.ofJson? j = some s := by rfl
  exact ⟨h, schema_read_back h⟩

end RecordFilter
