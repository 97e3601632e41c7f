import Mathlib.Data.List.Nodup
import Mathlib.Data.List.Pairwise
import RecordFilter.Proofs.Tree.ValueReading
import RecordFilter.Tree.Payload

/-!
# `RecordFilter.Proofs.Tree.PayloadShape`: which JSON values are payloads

A JSON value is a payload if it is a record of texts and of further payloads, at every level:
`Json.IsNode`. `Json.Spells` says in addition which payload it is. Both are about settled values,
in which the keys of an object differ, and neither says how a record is read.

* `field?_eq_some_iff`: reading one field sets this field and no other.
* `members?_eq_some_iff`, `items?_eq_some_iff`: reading a record in either form reads its fields.
* `spells_iff`: a settled value is read as the payload that it spells. The proof follows the
  payload.
* `isNode_iff`: a settled value spells a payload exactly when it has the shape of one, so the
  values of criteria are never in the way.
-/

set_option autoImplicit false

namespace RecordFilter

/-! ### Records -/

/-- The keys of a field. The field of the children has two. -/
def PayloadKey.names : PayloadKey → List String
  | .conjunction => ["conjunction"]
  | .filters => ["filters", "children"]
  | .columnId => ["columnId"]
  | .columnName => ["columnName"]
  | .operator => ["operator"]
  | .value => ["value"]

namespace Json

/-- The value of a field in an object, and null where the field is missing. -/
def memberOf : List (String × Json) → PayloadKey → Json
  | [], _ => .null
  | (key, j) :: rest, k => if key ∈ k.names then j else memberOf rest k

/-- The value of a field in an array in which the fields have the given order, and null where the
array is too short for the field. -/
def itemOf (order : List PayloadKey) (items : List Json) (k : PayloadKey) : Json :=
  (items[order.idxOf k]?).getD .null

/-- The values of the fields of a record: of an object, in which the children stand under one of
their keys at most, or of an array without further items. -/
inductive HasFields : Json → (PayloadKey → Json) → Prop
  | object {members : List (String × Json)}
    (h : ¬ ("filters" ∈ members.map Prod.fst ∧ "children" ∈ members.map Prod.fst)) :
    HasFields (.object members) (memberOf members)
  | array {items : List Json} (h : items.length ≤ PayloadKey.inOrder.length) :
    HasFields (.array items) (itemOf PayloadKey.inOrder items)

/-- A text that may be null. -/
inductive HasText : Json → Option String → Prop
  | null : HasText .null none
  | str (s : String) : HasText (.str s) (some s)

/-- An array that may be null. -/
inductive HasItems : Json → List Json → Prop
  | null : HasItems .null []
  | array (items : List Json) : HasItems (.array items) items

/-- The value has the shape of a payload: all fields but the value are texts, and the children are
payloads as well, also where nothing will read them. -/
inductive IsNode : Json → Prop
  | intro {j : Json} {fields : PayloadKey → Json} {children : List Json}
    (hfields : j.HasFields fields)
    (htexts : ∀ k, k ≠ .filters → k ≠ .value → ∃ s, (fields k).HasText s)
    (hchildren : (fields .filters).HasItems children)
    (hnodes : ∀ child ∈ children, IsNode child) : IsNode j

mutual

/-- The payload that a JSON value spells. -/
inductive Spells : Json → Payload → Prop
  | intro {j : Json} {fields : PayloadKey → Json} {children : List Json} {p : Payload}
    (hfields : j.HasFields fields)
    (hconjunction : (fields .conjunction).HasText p.conjunction)
    (hchildren : (fields .filters).HasItems children)
    (hfilters : SpellsAll children p.filters)
    (hcolumnId : (fields .columnId).HasText p.columnId)
    (hcolumnName : (fields .columnName).HasText p.columnName)
    (hoperator : (fields .operator).HasText p.operator)
    (hvalue : Value.ofJson? (fields .value) = some p.value) : Spells j p

/-- The payloads that JSON values spell, in order. -/
inductive SpellsAll : List Json → List Payload → Prop
  | nil : SpellsAll [] []
  | cons {j : Json} {rest : List Json} {p : Payload} {ps : List Payload} (hfirst : Spells j p)
    (hrest : SpellsAll rest ps) : SpellsAll (j :: rest) (p :: ps)

end

/-- The fields of a settled record are settled. -/
theorem HasFields.isSettled {j : Json} {fields : PayloadKey → Json} (h : j.HasFields fields)
    (hj : j.IsSettled) (k : PayloadKey) : (fields k).IsSettled := by
  cases h with
  | @object members _ =>
    have hmembers := hj.of_mem_object
    clear hj
    induction members with
    | nil => exact isSettled_null
    | cons m rest ih =>
      rw [List.forall_mem_cons] at hmembers
      rw [memberOf]
      split
      · exact hmembers.1
      · exact ih (by simp_all) hmembers.2
  | @array items _ =>
    unfold itemOf
    cases hitem : items[PayloadKey.inOrder.idxOf k]? with
    | none => exact isSettled_null
    | some item => exact hj.of_mem_array item (List.mem_of_getElem? hitem)

/-- The children in a settled field are settled. -/
theorem HasItems.isSettled {j : Json} {items : List Json} (h : j.HasItems items)
    (hj : j.IsSettled) : ∀ item ∈ items, item.IsSettled := by
  cases h with
  | null => simp
  | array => exact hj.of_mem_array

end Json

/-- A field with a text or null is read as what it has. -/
theorem optional_text?_eq_some_iff {j : Json} {s : Option String} :
    Json.optional Json.text? (some j) = some s ↔ j.HasText s := by
  constructor
  · intro h
    cases j with
    | null => cases h; exact .null
    | str text => cases h; exact .str text
    | bool | number | array | object | unreadable => cases h
  · intro h
    cases h <;> rfl

namespace Payload

variable {p q : Payload} {k k' : PayloadKey} {j : Json}

/-! ### Single fields -/

/-- The field of a payload is what the JSON value says. -/
def FieldIs (p : Payload) (j : Json) : PayloadKey → Prop
  | .conjunction => j.HasText p.conjunction
  | .filters => ∃ children, j.HasItems children ∧ list? children = some p.filters
  | .columnId => j.HasText p.columnId
  | .columnName => j.HasText p.columnName
  | .operator => j.HasText p.operator
  | .value => Value.ofJson? j = some p.value

/-- The payload without one of its fields. -/
def clear (p : Payload) : PayloadKey → Payload
  | .conjunction => { p with conjunction := none }
  | .filters => { p with filters := [] }
  | .columnId => { p with columnId := none }
  | .columnName => { p with columnName := none }
  | .operator => { p with operator := none }
  | .value => { p with value := .null }

/-- A field that is null is not there. -/
theorem fieldIs_null_iff : p.FieldIs .null k ↔ p.clear k = p := by
  obtain ⟨conjunction, filters, columnId, columnName, operator, value⟩ := p
  cases k with
  | filters =>
    constructor
    · intro ⟨children, hchildren, hlist⟩
      cases hchildren
      cases hlist
      rfl
    · intro h
      simp only [clear, mk.injEq, true_and, and_true] at h
      rw [← h]
      exact ⟨[], .null, rfl⟩
  | value =>
    have hnull : Value.ofJson? .null = some .null := rfl
    simp [FieldIs, clear, hnull]
  | conjunction | columnId | columnName | operator =>
    simp [FieldIs, clear, ← optional_text?_eq_some_iff, Json.optional]

/-- Without a field the others are as they were. -/
theorem fieldIs_clear_iff (h : k' ≠ k) : (p.clear k).FieldIs j k' ↔ p.FieldIs j k' := by
  cases k <;> cases k' <;> first | exact absurd rfl h | exact Iff.rfl

/-- A payload has no field that it is without. -/
theorem clear_clear : (p.clear k).clear k = p.clear k := by
  cases k <;> rfl

/-- Reading a field that was not there sets this field and no other. -/
theorem field?_eq_some_iff (hp : p.FieldIs .null k) :
    p.field? k j = some q ↔ q.clear k = p ∧ q.FieldIs j k := by
  rw [fieldIs_null_iff] at hp
  obtain ⟨conjunction, filters, columnId, columnName, operator, value⟩ := q
  cases k with
  | filters =>
    -- Only the children stand in an array. Null is as good as no array, and nothing else is one.
    constructor
    · intro h
      cases j with
      | null =>
        cases h
        exact ⟨hp, fieldIs_null_iff.mpr hp⟩
      | array items =>
        obtain ⟨ps, hps, hq⟩ := Option.map_eq_some_iff.mp h
        cases hq
        exact ⟨hp, items, .array items, hps⟩
      | bool | number | str | object | unreadable => cases h
    · intro ⟨hq, children, hchildren, hlist⟩
      subst hq
      cases hchildren with
      | null =>
        cases hlist
        rfl
      | array => simp [field?, hlist, clear]
  | conjunction | columnId | columnName | operator =>
    simp only [field?, Option.map_eq_some_iff, FieldIs, ← optional_text?_eq_some_iff]
    constructor
    · intro ⟨s, hs, hq⟩
      cases hq
      exact ⟨hp, hs⟩
    · intro ⟨hq, hs⟩
      subst hq
      exact ⟨_, hs, rfl⟩
  | value =>
    simp only [field?, Option.map_eq_some_iff, FieldIs]
    constructor
    · intro ⟨v, hv, hq⟩
      cases hq
      exact ⟨hp, hv⟩
    · intro ⟨hq, hv⟩
      subst hq
      exact ⟨_, hv, rfl⟩

/-! ### Objects -/

/-- Every field of the payload is what its JSON value says. -/
def Reads (p : Payload) (fields : PayloadKey → Json) : Prop :=
  ∀ k, p.FieldIs (fields k) k

/-- The payload of a record without fields has none. -/
theorem reads_null_iff : (p.Reads fun _ => .null) ↔ p = blank := by
  constructor
  · intro h
    -- Without all of its fields the payload is blank, and it is without each of them already.
    have hclear := fun k => fieldIs_null_iff.mp (h k)
    have hall : (((((p.clear .conjunction).clear .filters).clear .columnId).clear .columnName).clear
        .operator).clear .value = p := by simp only [hclear]
    rw [← hall]
    rfl
  · intro h k
    rw [h, fieldIs_null_iff]
    cases k <;> rfl

/-- A payload reads the fields of a record exactly when it reads the others without one of them,
and that one is what its JSON value says. -/
theorem reads_iff_clear {fields others : PayloadKey → Json} (hk : others k = .null)
    (hothers : ∀ k', k' ≠ k → fields k' = others k') :
    q.Reads fields ↔ (q.clear k).Reads others ∧ q.FieldIs (fields k) k := by
  constructor
  · intro h
    refine ⟨?_, h k⟩
    intro k'
    -- Among the others the field itself is null, as it is in a payload that is without it.
    by_cases heq : k' = k
    · rw [heq, hk, fieldIs_null_iff, clear_clear]
    · rw [fieldIs_clear_iff heq, ← hothers k' heq]
      exact h k'
  · intro ⟨h, hfield⟩ k'
    by_cases heq : k' = k
    · rw [heq]
      exact hfield
    · rw [hothers k' heq, ← fieldIs_clear_iff heq]
      exact h k'

/-- A key is that of a field exactly when it is one of the names of the field. -/
theorem ofName?_eq_some_iff {key : String} : PayloadKey.ofName? key = some k ↔ key ∈ k.names := by
  constructor
  · intro h
    unfold PayloadKey.ofName? at h
    split at h <;> cases h <;> simp [PayloadKey.names]
  · intro h
    cases k <;> simp only [PayloadKey.names, List.mem_cons, List.not_mem_nil, or_false] at h
    case filters => rcases h with rfl | rfl <;> rfl
    all_goals
      rw [h]
      rfl

/-- The fields that the members of an object are read into, in order. -/
def fieldsOf (members : List (String × Json)) : List PayloadKey :=
  members.filterMap fun m => PayloadKey.ofName? m.1

/-- A field that no member is read into is null. -/
theorem memberOf_eq_null {members : List (String × Json)} (h : k ∉ fieldsOf members) :
    Json.memberOf members k = .null := by
  induction members with
  | nil => rfl
  | cons m rest ih =>
    obtain ⟨key, j⟩ := m
    have hkey : key ∉ k.names := by
      intro hmem
      rw [← ofName?_eq_some_iff] at hmem
      exact h (List.mem_filterMap.mpr ⟨(key, j), List.mem_cons_self, hmem⟩)
    rw [Json.memberOf, if_neg hkey]
    refine ih fun hmem => h ?_
    unfold fieldsOf at hmem ⊢
    simp only [List.filterMap_cons]
    split
    · exact hmem
    · exact List.mem_cons_of_mem _ hmem

/-- An object is read when no field comes twice, and then each member is read into its field. -/
theorem members?_eq_some_iff {members : List (String × Json)} {d : PayloadDraft} :
    members? members = some d ↔ d.seen = fieldsOf members ∧ (fieldsOf members).Nodup ∧
      d.payload.Reads (Json.memberOf members) := by
  induction members generalizing d with
  | nil =>
    obtain ⟨seen, p⟩ := d
    have hreads : p.Reads (Json.memberOf []) ↔ p = blank := reads_null_iff
    simp [members?, fieldsOf, hreads, eq_comm]
  | cons m rest ih =>
    obtain ⟨key, j⟩ := m
    rw [members?]
    cases hkey : PayloadKey.ofName? key with
    | none =>
      -- A member with an unknown key is passed over, on both sides.
      have hfields : fieldsOf ((key, j) :: rest) = fieldsOf rest := by simp [fieldsOf, hkey]
      have hmember : Json.memberOf ((key, j) :: rest) = Json.memberOf rest := by
        funext k
        rw [Json.memberOf, if_neg]
        rw [← ofName?_eq_some_iff, hkey]
        simp
      rw [hfields, hmember, ← ih]
      simp
    | some k =>
      have hfields : fieldsOf ((key, j) :: rest) = k :: fieldsOf rest := by simp [fieldsOf, hkey]
      have hmember : Json.memberOf ((key, j) :: rest) k = j := by
        rw [Json.memberOf, if_pos (ofName?_eq_some_iff.mp hkey)]
      have hothers : ∀ k', k' ≠ k →
          Json.memberOf ((key, j) :: rest) k' = Json.memberOf rest k' := by
        intro k' hne
        rw [Json.memberOf, if_neg]
        rw [← ofName?_eq_some_iff, hkey]
        simpa using hne.symm
      rw [hfields, List.nodup_cons, Option.bind_eq_bind, Option.bind_eq_some_iff]
      constructor
      · intro ⟨draft, hdraft, hd⟩
        obtain ⟨hseen, hnodup, hreads⟩ := ih.mp hdraft
        change (if k ∈ draft.seen then none
          else draft.payload.field? k j >>= fun q => some ⟨k :: draft.seen, q⟩) = some d at hd
        split at hd
        · cases hd
        · rename_i hk
          rw [hseen] at hk
          obtain ⟨q, hq, hd⟩ := Option.bind_eq_some_iff.mp hd
          cases hd
          have hnull := memberOf_eq_null hk
          obtain ⟨hclear, hfield⟩ := (field?_eq_some_iff (hnull ▸ hreads k)).mp hq
          rw [reads_iff_clear hnull hothers, hmember, hclear, hseen]
          exact ⟨rfl, ⟨hk, hnodup⟩, hreads, hfield⟩
      · -- The rest is read as the payload without this field.
        intro ⟨hseen, ⟨hk, hnodup⟩, hreads⟩
        have hnull := memberOf_eq_null hk
        rw [reads_iff_clear hnull hothers, hmember] at hreads
        refine ⟨⟨fieldsOf rest, d.payload.clear k⟩, ih.mpr ⟨rfl, hnodup, hreads.1⟩, ?_⟩
        have hq : (d.payload.clear k).field? k j = some d.payload :=
          (field?_eq_some_iff (hnull ▸ hreads.1 k)).mpr ⟨rfl, hreads.2⟩
        show (if k ∈ fieldsOf rest then none
          else (d.payload.clear k).field? k j >>= fun q => some ⟨k :: fieldsOf rest, q⟩) = some d
        rw [if_neg hk, hq, ← hseen]
        rfl

/-- The keys of an object with different keys are those of different fields, unless both keys of
the children are among them. -/
theorem nodup_fieldsOf_iff {members : List (String × Json)}
    (h : (members.map Prod.fst).Nodup) : (fieldsOf members).Nodup ↔
      ¬ ("filters" ∈ members.map Prod.fst ∧ "children" ∈ members.map Prod.fst) := by
  have hmem : ∀ m ∈ members, m.1 ∈ members.map Prod.fst := fun m hm => List.mem_map_of_mem hm
  rw [List.Nodup, fieldsOf, List.pairwise_filterMap]
  constructor
  · intro hpairs ⟨hfilters, hchildren⟩
    obtain ⟨m, hm, hfirst⟩ := List.mem_map.mp hfilters
    obtain ⟨n, hn, hsecond⟩ := List.mem_map.mp hchildren
    have hne : m ≠ n := by
      intro heq
      rw [heq, hsecond] at hfirst
      exact absurd hfirst (by decide)
    -- Both members are read into the field of the children, whichever comes first.
    have hsymm : Std.Symm fun m n : String × Json => ∀ k, PayloadKey.ofName? m.1 = some k →
        ∀ k', PayloadKey.ofName? n.1 = some k' → k ≠ k' :=
      ⟨fun m n hmn k hk k' hk' => (hmn k' hk' k hk).symm⟩
    exact hpairs.forall hm hn hne .filters (by rw [hfirst]; rfl) .filters (by rw [hsecond]; rfl) rfl
  · intro hone
    have hkeys : members.Pairwise fun m n => m.1 ≠ n.1 := List.pairwise_map.mp h
    refine hkeys.imp_of_mem ?_
    intro m n hm hn hne k hk k' hk' heq
    rw [ofName?_eq_some_iff] at hk hk'
    rw [← heq] at hk'
    have hm := hmem m hm
    have hn := hmem n hn
    -- Only the field of the children has two keys.
    cases k <;> simp only [PayloadKey.names, List.mem_cons, List.not_mem_nil, or_false] at hk hk'
    case filters =>
      rcases hk with hk | hk <;> rcases hk' with hk' | hk' <;> rw [hk] at hm hne <;>
        rw [hk'] at hn hne
      · exact hne rfl
      · exact hone ⟨hm, hn⟩
      · exact hone ⟨hn, hm⟩
      · exact hne rfl
    all_goals exact hne (hk.trans hk'.symm)

/-! ### Arrays -/

/-- An array is read when it is not longer than the record, and then each item is read into its
field. -/
theorem items?_eq_some_iff {order : List PayloadKey} {items : List Json} (h : order.Nodup) :
    (∃ d, items? order items = some d ∧ d.payload = p) ↔
      items.length ≤ order.length ∧ p.Reads (Json.itemOf order items) := by
  induction items generalizing order p with
  | nil =>
    have hreads : p.Reads (Json.itemOf order []) ↔ p = blank := reads_null_iff
    have hitems : items? order [] = some ⟨[], blank⟩ := by
      cases order <;> rfl
    simp [hitems, hreads, eq_comm]
  | cons j rest ih =>
    cases order with
    | nil => simp [items?]
    | cons k order =>
      rw [List.nodup_cons] at h
      have hitem : Json.itemOf (k :: order) (j :: rest) k = j := by
        simp [Json.itemOf]
      have hothers : ∀ k', k' ≠ k →
          Json.itemOf (k :: order) (j :: rest) k' = Json.itemOf order rest k' := by
        intro k' hne
        simp [Json.itemOf, List.idxOf_cons_ne _ hne.symm]
      -- The field of the first item comes no second time, so the rest leaves it open.
      have hnull : rest.length ≤ order.length → Json.itemOf order rest k = .null := by
        intro hlength
        simp [Json.itemOf, List.idxOf_eq_length h.1, hlength]
      rw [items?]
      constructor
      · intro ⟨d, hd, hp⟩
        obtain ⟨draft, hdraft, hd⟩ := Option.bind_eq_some_iff.mp hd
        obtain ⟨q, hq, hd⟩ := Option.bind_eq_some_iff.mp hd
        cases hd
        obtain ⟨hlength, hreads⟩ := (ih h.2).mp ⟨draft, hdraft, rfl⟩
        obtain ⟨hclear, hfield⟩ := (field?_eq_some_iff (hnull hlength ▸ hreads k)).mp hq
        rw [reads_iff_clear (hnull hlength) hothers, hitem, ← hp, hclear]
        exact ⟨Nat.succ_le_succ hlength, hreads, hfield⟩
      · intro ⟨hlength, hreads⟩
        have hlength := Nat.le_of_succ_le_succ hlength
        rw [reads_iff_clear (hnull hlength) hothers, hitem] at hreads
        obtain ⟨draft, hdraft, hp⟩ := (ih h.2).mpr ⟨hlength, hreads.1⟩
        have hq : draft.payload.field? k j = some p :=
          (field?_eq_some_iff (hp ▸ hnull hlength ▸ hreads.1 k)).mpr ⟨hp.symm, hreads.2⟩
        refine ⟨⟨k :: draft.seen, p⟩, ?_, rfl⟩
        simp [hdraft, hq]

/-! ### Payloads -/

/-- A settled value is read as a payload exactly when it is a record with the fields of this
payload. -/
theorem ofJson?_eq_some_iff (hj : j.IsSettled) :
    ofJson? j = some p ↔ ∃ fields, j.HasFields fields ∧ p.Reads fields := by
  cases j with
  | object members =>
    rw [ofJson?, Option.map_eq_some_iff]
    constructor
    · intro ⟨d, hd, hp⟩
      obtain ⟨-, hnodup, hreads⟩ := members?_eq_some_iff.mp hd
      rw [nodup_fieldsOf_iff hj.nodup_keys] at hnodup
      exact ⟨_, .object hnodup, hp ▸ hreads⟩
    · intro ⟨fields, hfields, hreads⟩
      cases hfields with
      | object hone =>
        rw [← nodup_fieldsOf_iff hj.nodup_keys] at hone
        exact ⟨⟨fieldsOf members, p⟩, members?_eq_some_iff.mpr ⟨rfl, hone, hreads⟩, rfl⟩
  | array items =>
    rw [ofJson?, Option.map_eq_some_iff, items?_eq_some_iff (by decide)]
    constructor
    · intro ⟨hlength, hreads⟩
      exact ⟨_, .array hlength, hreads⟩
    · intro ⟨fields, hfields, hreads⟩
      cases hfields with
      | array hlength => exact ⟨hlength, hreads⟩
  | null | bool | number | str | unreadable =>
    refine iff_of_false (by simp [ofJson?]) ?_
    intro ⟨fields, hfields, _⟩
    cases hfields

end Payload

mutual

/-- A settled value is read as the payload that it spells. -/
theorem spells_iff : ∀ {p : Payload} {j : Json}, j.IsSettled →
    (j.Spells p ↔ Payload.ofJson? j = some p)
  | ⟨conjunction, filters, columnId, columnName, operator, value⟩, j, hj => by
    -- Children are smaller payloads, while as a field of `j` they are no visible part of it.
    rw [Payload.ofJson?_eq_some_iff hj]
    constructor
    · intro h
      cases h with
      | @intro _ fields children _ hfields hconjunction hchildren hfilters hid hname hoperator
          hvalue =>
        have hsettled := hchildren.isSettled (hfields.isSettled hj .filters)
        refine ⟨fields, hfields, ?_⟩
        intro k
        cases k with
        | conjunction => exact hconjunction
        | filters => exact ⟨children, hchildren, (spellsAll_iff hsettled).mp hfilters⟩
        | columnId => exact hid
        | columnName => exact hname
        | operator => exact hoperator
        | value => exact hvalue
    · intro ⟨fields, hfields, hreads⟩
      obtain ⟨children, hchildren, hlist⟩ := hreads .filters
      have hsettled := hchildren.isSettled (hfields.isSettled hj .filters)
      exact .intro hfields (hreads .conjunction) hchildren ((spellsAll_iff hsettled).mpr hlist)
        (hreads .columnId) (hreads .columnName) (hreads .operator) (hreads .value)

/-- Settled values are read as the payloads that they spell. -/
theorem spellsAll_iff : ∀ {ps : List Payload} {items : List Json}, (∀ j ∈ items, j.IsSettled) →
    (Json.SpellsAll items ps ↔ Payload.list? items = some ps)
  | [], [], _ => iff_of_true .nil rfl
  | [], j :: rest, _ => by
    refine iff_of_false (fun h => nomatch h) ?_
    simp [Payload.list?, Option.bind_eq_some_iff]
  | p :: ps, [], _ => iff_of_false (fun h => nomatch h) (fun h => nomatch h)
  | p :: ps, j :: rest, h => by
    rw [List.forall_mem_cons] at h
    have hfirst := @spells_iff p j h.1
    have hrest := @spellsAll_iff ps rest h.2
    have hcons : Json.SpellsAll (j :: rest) (p :: ps) ↔
        j.Spells p ∧ Json.SpellsAll rest ps := by
      constructor
      · intro h
        cases h with
        | cons hfirst hrest => exact ⟨hfirst, hrest⟩
      · intro ⟨hfirst, hrest⟩
        exact .cons hfirst hrest
    rw [hcons, hfirst, hrest]
    simp [Payload.list?, Option.bind_eq_some_iff]

end

/-! ### Shapes -/

namespace Json

mutual

/-- A value that spells a payload has the shape of one. -/
theorem Spells.isNode : ∀ {j : Json} {p : Payload}, j.Spells p → j.IsNode
  | _, _, .intro hfields hconjunction hchildren hfilters hid hname hoperator _ => by
    refine .intro hfields ?_ hchildren hfilters.isNode
    intro k hk hk'
    cases k with
    | conjunction => exact ⟨_, hconjunction⟩
    | filters => exact absurd rfl hk
    | columnId => exact ⟨_, hid⟩
    | columnName => exact ⟨_, hname⟩
    | operator => exact ⟨_, hoperator⟩
    | value => exact absurd rfl hk'

/-- Values that spell payloads have the shape of payloads. -/
theorem SpellsAll.isNode : ∀ {items : List Json} {ps : List Payload}, SpellsAll items ps →
    ∀ j ∈ items, j.IsNode
  | _, _, .nil => by simp
  | _, _, .cons hfirst hrest => by
    rw [List.forall_mem_cons]
    exact ⟨hfirst.isNode, hrest.isNode⟩

end

/-- Items that spell payloads one by one spell a list of payloads. -/
theorem exists_spellsAll {items : List Json} (h : ∀ j ∈ items, ∃ p, j.Spells p) :
    ∃ ps, SpellsAll items ps := by
  induction items with
  | nil => exact ⟨[], .nil⟩
  | cons j rest ih =>
    rw [List.forall_mem_cons] at h
    obtain ⟨⟨p, hp⟩, hrest⟩ := h
    obtain ⟨ps, hps⟩ := ih hrest
    exact ⟨p :: ps, .cons hp hps⟩

/-- A settled value with the shape of a payload spells one: its values can always be read. -/
theorem IsNode.exists_spells {j : Json} (h : j.IsNode) (hj : j.IsSettled) : ∃ p, j.Spells p := by
  induction h with
  | @intro j fields children hfields htexts hchildren _ ih =>
    have hsettled := hfields.isSettled hj
    obtain ⟨ps, hps⟩ := exists_spellsAll fun child hchild =>
      ih child hchild (hchildren.isSettled (hsettled .filters) child hchild)
    obtain ⟨conjunction, hconjunction⟩ := htexts .conjunction (by decide) (by decide)
    obtain ⟨columnId, hid⟩ := htexts .columnId (by decide) (by decide)
    obtain ⟨columnName, hname⟩ := htexts .columnName (by decide) (by decide)
    obtain ⟨operator, hoperator⟩ := htexts .operator (by decide) (by decide)
    obtain ⟨value, hvalue⟩ := Value.exists_ofJson? (hsettled .value)
    exact ⟨⟨conjunction, ps, columnId, columnName, operator, value⟩,
      .intro hfields hconjunction hchildren hps hid hname hoperator hvalue⟩

/-- A settled value spells a payload exactly when it has the shape of one. -/
theorem isNode_iff {j : Json} (hj : j.IsSettled) : j.IsNode ↔ ∃ p, j.Spells p := by
  constructor
  · intro h
    exact h.exists_spells hj
  · intro ⟨p, hp⟩
    exact hp.isNode

end Json

end RecordFilter
