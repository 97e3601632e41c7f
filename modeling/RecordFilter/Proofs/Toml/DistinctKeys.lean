import RecordFilter.Proofs.Toml.Reading
import RecordFilter.Toml.Document

/-!
# `RecordFilter.Proofs.Toml.DistinctKeys`: no table has a key twice

A document that is read has no table with the same key twice, however its tables came to be: by
headers, by keys with dots, in arrays or on one line.

* `alter_keyed` is the step: a key that is there keeps its place, and one that is not comes once at
  the end. `alterAt_distinct`, `insert_distinct` and `addSection_distinct` go down into the tables
  by it.
* `value_yields` carries the property through the values, by induction on how deep they nest.
* `keyed_of_ofText?` is the result for a whole document.
-/

set_option autoImplicit false

namespace RecordFilter.Toml

/-! ### Distinct keys -/

/-- No key comes twice, and what each key stands for has the property. -/
inductive Keyed {α : Type} (P : α → Prop) : List (String × α) → Prop
  | nil : Keyed P []
  | cons {key : String} {a : α} {rest : List (String × α)} (hkey : key ∉ rest.map Prod.fst)
    (ha : P a) (hrest : Keyed P rest) : Keyed P ((key, a) :: rest)

/-- No table in the value has a key twice. -/
inductive Distinct : Toml → Prop
  | string (s : String) : Distinct (.string s)
  | integer (n : Int) : Distinct (.integer n)
  | float (s : String) : Distinct (.float s)
  | boolean (b : Bool) : Distinct (.boolean b)
  | datetime (s : String) : Distinct (.datetime s)
  | array {items : List Toml} (h : ∀ t ∈ items, Distinct t) : Distinct (.array items)
  | table {entries : List (String × Toml)} (h : Keyed Distinct entries) : Distinct (.table entries)

/-- No table in what a key stands for has a key twice. -/
inductive Entry.Distinct : Entry → Prop
  | value {v : Toml} (h : v.Distinct) : Distinct (.value v)
  | table {origin : TableOrigin} {entries : Entries} (h : Keyed Distinct entries) :
    Distinct (.table origin entries)
  | tables {blocks : List Entries} (h : ∀ block ∈ blocks, Keyed Distinct block) :
    Distinct (.tables blocks)

/-- Of a table with distinct keys comes another such table. -/
def KeepsDistinct (f : Entries → Option Entries) : Prop :=
  ∀ ⦃es es' : Entries⦄, f es = some es' → Keyed Entry.Distinct es → Keyed Entry.Distinct es'

section

variable {α : Type} {P : α → Prop}

/-- What each key stands for has the property. -/
theorem Keyed.each {entries : List (String × α)} (h : Keyed P entries) :
    ∀ e ∈ entries, P e.2 := by
  induction h with
  | nil => simp
  | cons hkey ha hrest ih => exact List.forall_mem_cons.mpr ⟨ha, ih⟩

/-- With distinct keys, the value of a key is the one that stands with it. -/
theorem Keyed.get?_eq_some_iff {entries : List (String × Toml)} {P : Toml → Prop}
    (h : Keyed P entries) {key : String} {t : Toml} :
    get? entries key = some t ↔ (key, t) ∈ entries := by
  unfold get?
  induction h with
  | nil => simp
  | @cons name a rest hname ha hrest ih =>
    by_cases heq : name = key
    · subst heq
      have hother : (name, t) ∉ rest := fun ht => hname (List.mem_map_of_mem ht)
      simp [hother, eq_comm]
    · have hne : key ≠ name := Ne.symm heq
      simpa [heq, hne] using ih

end

/-! ### Changes of tables -/

/-- A change of one key leaves the other keys as they are. -/
theorem keys_of_alter {key : String} {f : Option Entry → Option Entry} {es es' : Entries}
    (h : alter key f es = some es') {k : String} (hk : k ≠ key) :
    k ∈ es'.map Prod.fst → k ∈ es.map Prod.fst := by
  induction es generalizing es' with
  | nil =>
    obtain ⟨e, -, rfl⟩ := Option.map_eq_some_iff.mp h
    simp [hk]
  | cons e rest ih =>
    obtain ⟨name, e⟩ := e
    rw [alter] at h
    split at h
    · obtain ⟨x, -, rfl⟩ := Option.map_eq_some_iff.mp h
      exact id
    · obtain ⟨rest', hrest, rfl⟩ := Option.map_eq_some_iff.mp h
      rw [List.map_cons, List.map_cons, List.mem_cons, List.mem_cons]
      exact Or.imp_right (ih hrest)

/-- A change of one key keeps the keys distinct: a key that is there keeps its place, and one that
is not comes once at the end. -/
theorem alter_keyed {key : String} {f : Option Entry → Option Entry}
    (hf : ∀ o e, f o = some e → (∀ x ∈ o, Entry.Distinct x) → e.Distinct) :
    KeepsDistinct (alter key f) := by
  intro es
  induction es with
  | nil =>
    intro es' h _
    obtain ⟨e, he, rfl⟩ := Option.map_eq_some_iff.mp h
    exact .cons (by simp) (hf none e he nofun) .nil
  | cons e rest ih =>
    intro es' h hes
    cases hes with
    | @cons name e _ hname he hrest =>
      rw [alter] at h
      split at h
      case isTrue =>
        obtain ⟨x, hx, rfl⟩ := Option.map_eq_some_iff.mp h
        exact .cons hname (hf (some e) x hx (by simpa using he)) hrest
      case isFalse hne =>
        obtain ⟨rest', hrest', rfl⟩ := Option.map_eq_some_iff.mp h
        -- Only `key` can be new among the others, and the first key is not `key`.
        exact .cons (mt (keys_of_alter hrest' hne) hname) he (ih hrest' hrest)

/-- A change of the last table of an array leaves distinct keys in all of them. -/
theorem alterLast_keyed {f : Entries → Option Entries} (hf : KeepsDistinct f)
    {blocks blocks' : List Entries} (h : alterLast f blocks = some blocks')
    (hblocks : ∀ block ∈ blocks, Keyed Entry.Distinct block) :
    ∀ block ∈ blocks', Keyed Entry.Distinct block := by
  fun_induction alterLast f blocks generalizing blocks' with
  | case1 => cases h
  | case2 block =>
    obtain ⟨changed, hchanged, rfl⟩ := Option.map_eq_some_iff.mp h
    simpa using hf hchanged (by simpa using hblocks)
  | case3 block rest hrest ih =>
    obtain ⟨changed, hchanged, rfl⟩ := Option.map_eq_some_iff.mp h
    rw [List.forall_mem_cons] at hblocks ⊢
    exact ⟨hblocks.1, ih hchanged hblocks.2⟩

section

variable {f : Entries → Option Entries} {e : Entry}

/-- A table that is made anew has distinct keys. -/
theorem KeepsDistinct.made (hf : KeepsDistinct f) {origin : TableOrigin}
    (h : (f []).map (.table origin) = some e) : e.Distinct := by
  obtain ⟨es, hes, rfl⟩ := Option.map_eq_some_iff.mp h
  exact .table (hf hes .nil)

/-- A table that is changed has distinct keys. -/
theorem KeepsDistinct.changed (hf : KeepsDistinct f) {origin origin' : TableOrigin}
    {inner : Entries} (h : (f inner).map (.table origin') = some e)
    (hinner : (Entry.table origin inner).Distinct) : e.Distinct := by
  obtain ⟨es, hes, rfl⟩ := Option.map_eq_some_iff.mp h
  cases hinner with
  | table hinner => exact .table (hf hes hinner)

/-- An array whose last table is changed has distinct keys in all its tables. -/
theorem KeepsDistinct.changedLast (hf : KeepsDistinct f) {blocks : List Entries}
    (h : (alterLast f blocks).map .tables = some e) (hblocks : (Entry.tables blocks).Distinct) :
    e.Distinct := by
  obtain ⟨blocks', hblocks', rfl⟩ := Option.map_eq_some_iff.mp h
  cases hblocks with
  | tables hblocks => exact .tables (alterLast_keyed hf hblocks' hblocks)

end

/-- A change of the table that a header leads to keeps the keys distinct when the change does. -/
theorem alterAt_distinct {f : Entries → Option Entries} (hf : KeepsDistinct f) :
    ∀ path : List String, KeepsDistinct (alterAt f path)
  | [] => hf
  | part :: path => by
    have hpath := alterAt_distinct hf path
    refine alter_keyed fun o e he ho => ?_
    split at he
    · exact hpath.made he
    · exact hpath.changed he (ho _ rfl)
    · exact hpath.changedLast he (ho _ rfl)
    · cases he

/-- A value under a new key keeps the keys distinct, also where the key has dots. -/
theorem insert_distinct (last : String) {v : Toml} (hv : v.Distinct) :
    ∀ path : List String, KeepsDistinct (insert last v path)
  | [] => by
    refine alter_keyed fun o e he _ => ?_
    split at he
    · cases he
      exact .value hv
    · cases he
  | part :: path => by
    have hpath := insert_distinct last hv path
    refine alter_keyed fun o e he ho => ?_
    split at he
    · exact hpath.made he
    · split at he
      · cases he
      · exact hpath.changed he (ho _ rfl)
    · split at he
      · cases he
      · exact hpath.changedLast he (ho _ rfl)
    · cases he

/-- An entry with a value under distinct keys keeps the keys of the table distinct. -/
theorem insertKey_distinct {e : List String × Toml} (he : e.2.Distinct) :
    KeepsDistinct (insertKey · e) := by
  intro es es' h
  unfold insertKey at h
  split at h
  · exact insert_distinct _ he _ h
  · cases h

/-- A run of steps keeps the keys distinct when each step does. -/
theorem foldlM_distinct {σ : Type} {step : Entries → σ → Option Entries} {xs : List σ}
    (hstep : ∀ x ∈ xs, KeepsDistinct (step · x)) :
    KeepsDistinct fun es => xs.foldlM step es := by
  induction xs with
  | nil =>
    intro es es' h hes
    cases h
    exact hes
  | cons x xs ih =>
    rw [List.forall_mem_cons] at hstep
    intro es es' h hes
    obtain ⟨middle, hfirst, hothers⟩ := Option.bind_eq_some_iff.mp h
    exact ih hstep.2 hothers (hstep.1 hfirst hes)

/-- A section keeps the keys distinct. -/
theorem addSection_distinct {s : Section} (hs : ∀ e ∈ s.entries, e.2.Distinct) :
    KeepsDistinct (addSection · s) := by
  -- Whatever table the header leads to, it is filled entry by entry.
  have hfill : KeepsDistinct fun es => s.entries.foldlM insertKey es :=
    foldlM_distinct fun e he => insertKey_distinct (hs e he)
  intro root root' h
  unfold addSection at h
  split at h
  · exact hfill h
  · split at h
    · cases h
    · refine alterAt_distinct (alter_keyed fun o e he ho => ?_) _ h
      split at he
      · exact hfill.made he
      · exact hfill.changed he (ho _ rfl)
      · cases he
  · split at h
    · cases h
    · refine alterAt_distinct (alter_keyed fun o e he ho => ?_) _ h
      -- The section is one more table of the array.
      split at he
      · obtain ⟨block, hblock, rfl⟩ := Option.map_eq_some_iff.mp he
        exact .tables (by simpa using hfill hblock .nil)
      · obtain ⟨block, hblock, rfl⟩ := Option.map_eq_some_iff.mp he
        cases ho _ rfl with
        | tables hinner =>
          refine .tables (List.forall_mem_append.mpr ⟨hinner, ?_⟩)
          simpa using hfill hblock .nil
      · cases he

/-! ### From entries to values -/

/-- Entries that become values keep their keys. -/
theorem map_fst_entriesToToml (es : Entries) :
    (entriesToToml es).map Prod.fst = es.map Prod.fst := by
  induction es with
  | nil => rfl
  | cons e rest ih =>
    rw [entriesToToml, List.map_cons, List.map_cons, ih]

mutual

/-- An entry without repeated keys becomes a value without them. -/
theorem Entry.Distinct.toToml : ∀ {e : Entry}, e.Distinct → e.toToml.Distinct
  | .value _, .value h => h
  | .table _ _, .table h => .table (keyed_entriesToToml h)
  | .tables _, .tables h => .array (distinct_blocksToToml h)

/-- So do entries under distinct keys. -/
theorem keyed_entriesToToml :
    ∀ {es : Entries}, Keyed Entry.Distinct es → Keyed Toml.Distinct (entriesToToml es)
  | [], _ => .nil
  | (_, _) :: _, .cons hkey he hrest => by
    refine .cons ?_ (Entry.Distinct.toToml he) (keyed_entriesToToml hrest)
    rwa [map_fst_entriesToToml]

/-- So do the tables of an array. -/
theorem distinct_blocksToToml : ∀ {blocks : List Entries},
    (∀ block ∈ blocks, Keyed Entry.Distinct block) → ∀ t ∈ blocksToToml blocks, t.Distinct
  | [], _ => nofun
  | _ :: rest, h => by
    rw [List.forall_mem_cons] at h
    exact List.forall_mem_cons.mpr
      ⟨.table (keyed_entriesToToml h.1), distinct_blocksToToml h.2⟩

end

/-! ### Values that are read -/

open Reader (Yields)

namespace Grammar

/-- An integer has no tables. -/
theorem wordInteger_yields (n : Int) : Yields Distinct (wordInteger n) :=
  .ite (.pure (.integer n)) .failure

/-- An integer has no tables, in whichever base it is written. -/
theorem integer_yields : Yields Distinct integer := by
  have hbased (mark : Char) (base : Nat) (p : Char → Bool) :
      Yields Distinct (basedInteger mark base p) :=
    .after fun _ => .after fun _ => wordInteger_yields _
  refine .orElse (hbased ..) (.orElse (hbased ..) (.orElse (hbased ..) ?_))
  exact .after fun _ => wordInteger_yields _

/-- A float has no tables. -/
theorem float_yields : Yields Distinct float := by
  refine .orElse (.after fun _ => .after fun _ => ?_) (.after fun _ => .after fun _ => ?_)
  · dsimp only
    split
    · exact .ite (.pure (.float _)) .failure
    · exact .failure
  · exact .pure (.float _)

/-- A date or a time has no tables. -/
theorem datetime_yields : Yields Distinct datetime :=
  .orElse (.after fun _ => .after fun _ => .pure (.datetime _))
    (.after fun _ => .pure (.datetime _))

/-- A truth value has no tables. -/
theorem boolean_yields : Yields Distinct boolean :=
  .orElse (.seqRight (.pure (.boolean true))) (.seqRight (.pure (.boolean false)))

/-- A value that is neither an array nor a table has distinct keys, for it has none. -/
theorem scalar_yields : Yields Distinct scalar :=
  .orElse ((Yields.trivial string).map fun s _ => .string s)
    (.orElse datetime_yields (.orElse float_yields (.orElse integer_yields boolean_yields)))

variable {item : Reader Toml}

/-- An array has distinct keys if its items have. -/
theorem array_yields (hitem : Yields Distinct item) : Yields Distinct (array item) := by
  unfold array
  refine .after fun _ =>
    (Reader.opt_separated_yields hitem.seqRight.seqLeft).bind fun items hitems => ?_
  have hend : Yields Distinct (do blankLines; Reader.char ']'; return .array (items.getD [])) :=
    .after fun _ => .after fun _ => .pure (.array hitems)
  exact .ite (.after fun _ => hend) hend

/-- A key with a value has distinct keys in the value. -/
theorem keyValue_yields (hitem : Yields Distinct item) :
    Yields (fun e => e.2.Distinct) (keyValue item) :=
  .after fun _ => .after fun _ => .after fun _ => hitem.bind fun _ hv => .pure hv

/-- An inline table has distinct keys: its entries are inserted one by one, and a second entry under
one key is refused. -/
theorem inlineTable_yields (hitem : Yields Distinct item) : Yields Distinct (inlineTable item) := by
  unfold inlineTable
  refine .after fun _ =>
    (Reader.opt_separated_yields (keyValue_yields hitem).seqLeft).bind fun entries hentries =>
      .after fun _ => .after fun _ => ?_
  split
  case h_1 es hes =>
    have hkeyed : Keyed Entry.Distinct es :=
      foldlM_distinct (fun e he => insertKey_distinct (hentries e he)) hes .nil
    exact .pure (.table (keyed_entriesToToml hkeyed))
  case h_2 => exact .failure

/-- A value that is read has distinct keys in all its tables, however deep they are. -/
theorem value_yields : ∀ depth : Nat, Yields Distinct (value depth)
  | 0 => scalar_yields
  | depth + 1 => .orElse scalar_yields
      (.orElse (array_yields (value_yields depth)) (inlineTable_yields (value_yields depth)))

/-! ### Documents -/

/-- The value of an entry has distinct keys. -/
def Expression.Distinct : Expression → Prop
  | .entry e => e.2.Distinct
  | .blank | .header _ => True

/-- A line of a document has distinct keys in its value, if it is an entry. -/
theorem expression_yields : Yields Expression.Distinct expression := by
  refine .after fun _ => .after fun next => ?_
  split
  · exact .after fun _ => .after fun _ => .pure True.intro
  · exact .after fun _ => .after fun _ => .pure True.intro
  · exact .after fun _ => .pure True.intro
  · exact .after fun _ => .pure True.intro
  · exact (keyValue_yields (value_yields _)).bind fun _ he => .after fun _ => .pure he

/-- So have all lines. -/
theorem expressions_yields : Yields (fun es => ∀ e ∈ es, e.Distinct) expressions :=
  .after fun _ => (Reader.many_yields expression_yields).bind fun _ hes =>
    .after fun _ => .after fun _ => .pure hes

/-- The entries of the sections are those of the open section and of the expressions. -/
theorem sectionsFrom_distinct {s : Section} {es : List Expression}
    (hs : ∀ e ∈ s.entries, e.2.Distinct) (hes : ∀ e ∈ es, e.Distinct) :
    ∀ r ∈ sectionsFrom s es, ∀ e ∈ r.entries, e.2.Distinct := by
  fun_induction sectionsFrom s es with
  | case1 s => simpa using hs
  | case2 s rest ih => exact ih hs (List.forall_mem_cons.mp hes).2
  | case3 s e rest ih =>
    rw [List.forall_mem_cons] at hes
    exact ih (List.forall_mem_append.mpr ⟨hs, List.forall_mem_singleton.mpr hes.1⟩) hes.2
  | case4 s h rest ih =>
    rw [List.forall_mem_cons] at hes
    exact List.forall_mem_cons.mpr ⟨hs, ih (by simp) hes.2⟩

end Grammar

/-- No table of a document that is read has a key twice. -/
theorem keyed_of_ofText? {s : String} {d : List (String × Toml)} (h : ofText? s = some d) :
    Keyed Distinct d := by
  unfold ofText? at h
  obtain ⟨⟨es, rest⟩, hread, h⟩ := Option.bind_eq_some_iff.mp h
  obtain ⟨root, hroot, hd⟩ := Option.bind_eq_some_iff.mp h
  cases hd
  -- The document begins with a section without header and without entries.
  have hsections := Grammar.sectionsFrom_distinct (s := ⟨none, []⟩) (by simp)
    (Grammar.expressions_yields hread)
  have hkeyed : Keyed Entry.Distinct root :=
    foldlM_distinct (fun s hs => addSection_distinct (hsections s hs)) hroot .nil
  exact keyed_entriesToToml hkeyed

end RecordFilter.Toml
