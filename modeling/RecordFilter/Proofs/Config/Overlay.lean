import Mathlib.Logic.Relation
import RecordFilter.Config.Codec
import RecordFilter.Proofs.Toml.DistinctKeys

/-!
# `RecordFilter.Proofs.Config.Overlay`: what a document says over the default settings

Each setting is what the document gives for its key in its section, and its default where the
document gives nothing: `settings_overlay_defaults`. What is given, `Config.Gives`, is looked for
anywhere in the document and in the section, so nothing else in them matters.

* `ofEntries?_eq_some_iff` says which documents are settings, and of what: the lookup of the
  reader agrees with `Config.Gives` because no table has a key twice (`Toml.keyed_of_ofText?`).
* `Config.Revision` is one change of a document that is none of a setting: of the version, of an
  unknown key, of an empty section or of the order of keys. `revision_gives_iff` is the step, and
  `gives_iff_of_revisions` follows any number of them in both directions.
-/

set_option autoImplicit false

namespace RecordFilter

open Toml (get? Keyed Distinct)

/-! ### Values of settings -/

/-- The value is the name of the weekday or the first three letters of it, in any case. -/
def Weekday.SpelledBy (t : Toml) (w : Weekday) : Prop :=
  ∃ s, t = .string s ∧ (sameLetters s w.name ∨ sameLetters s w.abbreviation)

namespace Weekday

/-- Every weekday is looked at. -/
theorem mem_all (w : Weekday) : w ∈ all := by
  cases w <;> decide

/-- A text with the letters of a name or an abbreviation begins with those of the abbreviation. -/
theorem letters_of_sameLetters {s : String} {w : Weekday}
    (h : sameLetters s w.name ∨ sameLetters s w.abbreviation) :
    (s.toList.map Char.toLower).take 3 = w.abbreviation.toList.map Char.toLower := by
  simp only [sameLetters, beq_iff_eq] at h
  obtain h | h := h <;> rw [h] <;> cases w <;> decide

/-- No two weekdays have abbreviations with the same letters. -/
theorem eq_of_letters {v w : Weekday}
    (h : v.abbreviation.toList.map Char.toLower = w.abbreviation.toList.map Char.toLower) :
    v = w := by
  have hall : ∀ v ∈ all, ∀ w ∈ all,
      v.abbreviation.toList.map Char.toLower = w.abbreviation.toList.map Char.toLower → v = w := by
    decide +kernel
  exact hall v v.mem_all w w.mem_all h

/-- A text names at most one weekday. -/
theorem ofText?_eq_some_iff {s : String} {w : Weekday} :
    ofText? s = some w ↔ sameLetters s w.name ∨ sameLetters s w.abbreviation := by
  have hsound {v : Weekday} (h : ofText? s = some v) :
      sameLetters s v.name ∨ sameLetters s v.abbreviation := by
    simpa using List.find?_some h
  refine ⟨hsound, fun h => ?_⟩
  obtain ⟨v, hv⟩ : ∃ v, ofText? s = some v :=
    Option.isSome_iff_exists.mp (List.find?_isSome.mpr ⟨w, w.mem_all, by simpa using h⟩)
  have hletters := letters_of_sameLetters (hsound hv)
  rw [letters_of_sameLetters h] at hletters
  rw [hv, eq_of_letters hletters]

/-- A value is read as the weekday that it spells. -/
theorem spelledBy_iff {t : Toml} {w : Weekday} :
    t.text?.bind ofText? = some w ↔ SpelledBy t w := by
  cases t <;> simp [Toml.text?, SpelledBy, ofText?_eq_some_iff]

end Weekday

/-- A natural number is read from the integer that it is. -/
theorem Toml.nat?_eq_some_iff {t : Toml} {n : Nat} : t.nat? = some n ↔ t = .integer n := by
  cases t with
  | integer i =>
    simp only [nat?, Option.ite_none_right_eq_some, Option.some.injEq, integer.injEq]
    omega
  | _ => simp [nat?]

/-- A text is read from a string, as it is. -/
theorem Toml.text?_eq_some_iff {t : Toml} {s : String} : t.text? = some s ↔ t = .string s := by
  cases t <;> simp [text?]

namespace Config

/-! ### What a document gives -/

/-- The document has the value for the key in the section of that name. -/
def Gives (d : List (String × Toml)) (name key : String) (t : Toml) : Prop :=
  ∃ entries, (name, .table entries) ∈ d ∧ (key, t) ∈ entries

/-- The names of the sections with settings. -/
def sectionNames : List String :=
  ["compiler", "classifier"]

/-- The keys of the settings in a section. -/
def settingKeys (name : String) : List String :=
  if name = "compiler" then CompilerConfig.settingNames
  else if name = "classifier" then ClassifierConfig.settingNames
  else []

/-- The sections with settings are tables, where they are there. -/
def HasTables (d : List (String × Toml)) : Prop :=
  ∀ name ∈ sectionNames, ∀ t, (name, t) ∈ d → ∃ entries, t = .table entries

/-- The version is a natural number below `2 ^ 32`, where the document states one. -/
def StatesVersion (d : List (String × Toml)) : Prop :=
  ∀ t, ("version", t) ∈ d → ∃ n : Nat, t = .integer n ∧ n < 4294967296

/-- A setting is the value that the document gives for its key, and its default where the document
gives none. -/
inductive Overlaid {α : Type} (spelledBy : Toml → α → Prop) (standard : α)
    (d : List (String × Toml)) (name key : String) : α → Prop
  | given {t : Toml} {a : α} (hgives : Gives d name key t) (ha : spelledBy t a) :
    Overlaid spelledBy standard d name key a
  | standard (h : ∀ t, ¬ Gives d name key t) : Overlaid spelledBy standard d name key standard

/-- The settings are the defaults with what the document gives laid over them. -/
structure Overlays (d : List (String × Toml)) (c : Config) : Prop where
  version : c.version = 1
  maxDepth : Overlaid (fun t (n : Nat) => t = .integer n) 32 d "compiler" "max_depth"
    c.compiler.maxDepth
  weekStartsOn : Overlaid Weekday.SpelledBy .monday d "compiler" "week_starts_on"
    c.compiler.weekStartsOn
  nameSuffix : Overlaid (fun t s => t = .string s) "Name" d "classifier" "name_suffix"
    c.classifier.nameSuffix
  valueSuffix : Overlaid (fun t s => t = .string s) "Value" d "classifier" "value_suffix"
    c.classifier.valueSuffix

/-! ### What is read of a document -/

/-- The entries of a section, which are none where it is missing. -/
def entriesOf (d : List (String × Toml)) (name : String) : List (String × Toml) :=
  match get? d name with
  | some (.table entries) => entries
  | _ => []

variable {d : List (String × Toml)} {name key : String}

/-- Where no table has a key twice, what a document gives is what its lookup finds. -/
theorem gives_iff_get? (hd : Keyed Distinct d) {t : Toml} :
    Gives d name key t ↔ get? (entriesOf d name) key = some t := by
  -- The section is one of the values of the document, so its own keys are distinct too.
  have hsection {entries : List (String × Toml)} (h : get? d name = some (.table entries)) :
      Keyed Distinct entries := by
    cases hd.each _ (hd.get?_eq_some_iff.mp h) with
    | table hentries => exact hentries
  unfold Gives entriesOf
  simp only [← hd.get?_eq_some_iff]
  split
  case h_1 entries h =>
    rw [h, (hsection h).get?_eq_some_iff]
    simp
  case h_2 hother =>
    have hnone : ¬ ∃ entries, get? d name = some (.table entries) ∧ (key, t) ∈ entries :=
      fun ⟨entries, hentries, _⟩ => hother entries hentries
    exact iff_of_false hnone nofun

/-- A setting is read as the document gives it. -/
theorem defaulted_eq_some_iff (hd : Keyed Distinct d) {α : Type} {read : Toml → Option α}
    {spelledBy : Toml → α → Prop} (hread : ∀ {t a}, read t = some a ↔ spelledBy t a)
    {standard a : α} :
    Toml.defaulted standard read (get? (entriesOf d name) key) = some a ↔
      Overlaid spelledBy standard d name key a := by
  constructor
  · intro h
    cases hget : get? (entriesOf d name) key with
    | none =>
      rw [hget] at h
      cases h
      exact .standard fun t ht => by simpa [hget] using (gives_iff_get? hd).mp ht
    | some t =>
      rw [hget] at h
      exact .given ((gives_iff_get? hd).mpr hget) (hread.mp h)
  · intro h
    cases h with
    | given hgives ha =>
      rw [(gives_iff_get? hd).mp hgives]
      exact hread.mpr ha
    | standard h =>
      cases hget : get? (entriesOf d name) key with
      | none => rfl
      | some t => exact absurd ((gives_iff_get? hd).mpr hget) (h t)

/-- The section for compilation, key by key. A record without fields reads as the defaults. -/
theorem compilerOfToml?_table_iff {entries : List (String × Toml)} {c : CompilerConfig} :
    CompilerConfig.ofToml? (.table entries) = some c ↔
      Toml.defaulted 32 Toml.nat? (get? entries "max_depth") = some c.maxDepth ∧
        Toml.defaulted .monday (fun t => t.text?.bind Weekday.ofText?)
          (get? entries "week_starts_on") = some c.weekStartsOn := by
  obtain ⟨maxDepth, weekStartsOn⟩ := c
  simp [CompilerConfig.ofToml?, Toml.section?, CompilerConfig.settingNames,
    CompilerConfig.missingMaxDepth, CompilerConfig.depthLimit, CompilerConfig.missingWeekStart,
    Option.bind_eq_some_iff]

/-- The section for classification, key by key. -/
theorem classifierOfToml?_table_iff {entries : List (String × Toml)} {c : ClassifierConfig} :
    ClassifierConfig.ofToml? (.table entries) = some c ↔
      Toml.defaulted "Name" Toml.text? (get? entries "name_suffix") = some c.nameSuffix ∧
        Toml.defaulted "Value" Toml.text? (get? entries "value_suffix") = some c.valueSuffix := by
  obtain ⟨nameSuffix, valueSuffix⟩ := c
  simp [ClassifierConfig.ofToml?, Toml.section?, ClassifierConfig.settingNames,
    ClassifierConfig.missingNameSuffix, ClassifierConfig.missingValueSuffix,
    Option.bind_eq_some_iff]

/-- A section that is missing is read like one without entries. -/
theorem defaulted_section {α : Type} {read : Toml → Option α} {standard : α}
    (hempty : read (.table []) = some standard) (hd : Keyed Distinct d) (htables : HasTables d)
    (hname : name ∈ sectionNames) :
    Toml.defaulted standard read (get? d name) = read (.table (entriesOf d name)) := by
  unfold entriesOf
  cases hget : get? d name with
  | none => exact hempty.symm
  | some t =>
    obtain ⟨entries, rfl⟩ := htables name hname t (hd.get?_eq_some_iff.mp hget)
    rfl

/-- A version is an integer that fits into 32 bits without a sign. -/
theorem versionOf?_eq_some_iff {t : Toml} {n : Nat} :
    versionOf? t = some n ↔ t = .integer n ∧ n < 4294967296 := by
  rw [← Toml.nat?_eq_some_iff]
  unfold versionOf? versionLimit
  cases t.nat? with
  | none => simp
  | some m =>
    suffices (m < 4294967296 ∧ m = n) ↔ (m = n ∧ n < 4294967296) by simpa
    omega

/-- The version of a document can be read. -/
theorem exists_version_iff (hd : Keyed Distinct d) :
    (∃ n, Toml.defaulted currentVersion versionOf? (get? d "version") = some n) ↔
      StatesVersion d := by
  unfold StatesVersion
  simp only [← hd.get?_eq_some_iff, ← versionOf?_eq_some_iff]
  cases get? d "version" <;> simp [Toml.defaulted]

/-- The three parts of a document are read apart, and the version comes to be the current one. -/
theorem ofEntries?_iff_parts {c : Config} :
    ofEntries? d = some c ↔
      (∃ n, Toml.defaulted currentVersion versionOf? (get? d "version") = some n) ∧
        c.version = 1 ∧
        Toml.defaulted .standard CompilerConfig.ofToml? (get? d "compiler") = some c.compiler ∧
        Toml.defaulted .standard ClassifierConfig.ofToml? (get? d "classifier")
          = some c.classifier := by
  simp only [ofEntries?, Option.bind_eq_bind, Option.bind_eq_some_iff, Option.pure_def,
    Option.some.injEq]
  constructor
  · rintro ⟨n, hn, compiler, hcompiler, classifier, hclassifier, rfl⟩
    exact ⟨⟨n, hn⟩, rfl, hcompiler, hclassifier⟩
  · rintro ⟨⟨n, hn⟩, hversion, hcompiler, hclassifier⟩
    refine ⟨n, hn, c.compiler, hcompiler, c.classifier, hclassifier, ?_⟩
    rw [migrate, currentVersion, ← hversion]

/-- A document is settings where its version can be read, and the settings are the defaults with
what it gives laid over them. -/
theorem ofEntries?_eq_some_iff (hd : Keyed Distinct d) (htables : HasTables d) {c : Config} :
    ofEntries? d = some c ↔ StatesVersion d ∧ Overlays d c := by
  -- A missing section becomes an empty one, so all settings are read in the same way.
  rw [ofEntries?_iff_parts, exists_version_iff hd,
    defaulted_section CompilerConfig.ofToml?_empty hd htables (by decide),
    defaulted_section ClassifierConfig.ofToml?_empty hd htables (by decide),
    compilerOfToml?_table_iff, classifierOfToml?_table_iff,
    defaulted_eq_some_iff hd Toml.nat?_eq_some_iff, defaulted_eq_some_iff hd Weekday.spelledBy_iff,
    defaulted_eq_some_iff hd Toml.text?_eq_some_iff,
    defaulted_eq_some_iff hd Toml.text?_eq_some_iff]
  refine and_congr_right fun _ => ⟨?_, ?_⟩
  · rintro ⟨hversion, ⟨hmaxDepth, hweekStartsOn⟩, hname, hvalue⟩
    exact ⟨hversion, hmaxDepth, hweekStartsOn, hname, hvalue⟩
  · rintro ⟨hversion, hmaxDepth, hweekStartsOn, hname, hvalue⟩
    exact ⟨hversion, ⟨hmaxDepth, hweekStartsOn⟩, hname, hvalue⟩

/-! ### Changes that are none of a setting -/

/-- One change of a document that is none of a setting. A key is added at the front: the order of
the keys is none of a setting either. -/
inductive Revision : List (String × Toml) → List (String × Toml) → Prop
  | version (d : List (String × Toml)) (t : Toml) : Revision d (("version", t) :: d)
  | unknownKey (d : List (String × Toml)) {key : String} (t : Toml) (h : key ∉ sectionNames) :
    Revision d ((key, t) :: d)
  | emptySection (d : List (String × Toml)) (name : String) : Revision d ((name, .table []) :: d)
  | unknownSetting (d entries : List (String × Toml)) {name key : String} (t : Toml)
    (h : key ∉ settingKeys name) :
    Revision ((name, .table entries) :: d) ((name, .table ((key, t) :: entries)) :: d)
  | order {d d' : List (String × Toml)} (h : d.Perm d') : Revision d d'
  | settingsOrder (d : List (String × Toml)) {entries entries' : List (String × Toml)}
    (name : String) (h : entries.Perm entries') :
    Revision ((name, .table entries) :: d) ((name, .table entries') :: d)

/-- An entry at the front gives what is in it, if it is the section that is asked for. -/
theorem gives_cons_iff {other : String} {v t : Toml} :
    Gives ((other, v) :: d) name key t ↔
      (name = other ∧ ∃ entries, v = .table entries ∧ (key, t) ∈ entries) ∨
        Gives d name key t := by
  simp only [Gives, List.mem_cons, Prod.mk.injEq, or_and_right, exists_or, and_assoc,
    exists_and_left, eq_comm]

/-- A section at the front gives its own entries. -/
theorem gives_table_cons_iff {other : String} {entries : List (String × Toml)} {t : Toml} :
    Gives ((other, .table entries) :: d) name key t ↔
      (name = other ∧ (key, t) ∈ entries) ∨ Gives d name key t := by
  simp [gives_cons_iff]

/-- A change that is none of a setting leaves what is given for the settings. -/
theorem revision_gives_iff {d' : List (String × Toml)} (h : Revision d d')
    (hname : name ∈ sectionNames) (hkey : key ∈ settingKeys name) {t : Toml} :
    Gives d name key t ↔ Gives d' name key t := by
  cases h with
  | version _ v =>
    have hne : name ≠ "version" := by rintro rfl; exact absurd hname (by decide)
    simp [gives_cons_iff, hne]
  | unknownKey _ v hunknown =>
    have hne := ne_of_mem_of_not_mem hname hunknown
    simp [gives_cons_iff, hne]
  | emptySection _ other => simp [gives_table_cons_iff]
  | @unknownSetting d entries other unknown v hunknown =>
    rw [gives_table_cons_iff, gives_table_cons_iff]
    refine or_congr_left (and_congr_right fun hother => ?_)
    subst hother
    have hne := ne_of_mem_of_not_mem hkey hunknown
    simp [hne]
  | order hperm => simp only [Gives, hperm.mem_iff]
  | settingsOrder _ other hperm => simp only [gives_table_cons_iff, hperm.mem_iff]

/-- Changes that are none of a setting leave what is given for the settings, however many there
are and in whichever direction. -/
theorem gives_iff_of_revisions {d' : List (String × Toml)} (h : Relation.EqvGen Revision d d')
    (hname : name ∈ sectionNames) (hkey : key ∈ settingKeys name) {t : Toml} :
    Gives d name key t ↔ Gives d' name key t := by
  induction h with
  | rel d d' h => exact revision_gives_iff h hname hkey
  | refl d => exact Iff.rfl
  | symm d d' h ih => exact ih.symm
  | trans d d' d'' hfirst hsecond ihfirst ihsecond => exact ihfirst.trans ihsecond

/-! ### Sections where nothing is a setting -/

/-- The document is the other entries with a section where nothing is a setting: the section is
missing, or has no entries, or has unknown keys only. -/
inductive Silent (name : String) (others d : List (String × Toml)) : Prop
  | missing (h : d.Perm others)
  | present {entries : List (String × Toml)} (hunknown : ∀ e ∈ entries, e.1 ∉ settingKeys name)
    (h : d.Perm ((name, .table entries) :: others))

namespace Silent

variable {others : List (String × Toml)}

/-- A section where nothing is a setting comes from changes that are none of one. -/
theorem revisions (h : Silent name others d) : Relation.EqvGen Revision others d := by
  cases h with
  | missing h => exact .rel _ _ (.order h.symm)
  | @present entries hunknown h =>
    refine .trans _ _ _ ?_ (.rel _ _ (.order h.symm))
    clear h
    -- Each of its entries is an unknown key that comes into the section.
    induction entries with
    | nil => exact .rel _ _ (.emptySection others name)
    | cons e rest ih =>
      rw [List.forall_mem_cons] at hunknown
      exact .trans _ _ _ (ih hunknown.2) (.rel _ _ (.unknownSetting others rest e.2 hunknown.1))

/-- A section where nothing is a setting is a table, so it does not matter here. -/
theorem hasTables_iff (h : Silent name others d) : HasTables d ↔ HasTables others := by
  unfold HasTables
  cases h with
  | missing h => simp only [h.mem_iff]
  | present hunknown h =>
    simp only [h.mem_iff, List.mem_cons, Prod.mk.injEq]
    refine forall₂_congr fun other _ => forall_congr' fun t => ?_
    constructor
    · exact fun htables ht => htables (.inr ht)
    · rintro htables (⟨-, rfl⟩ | ht)
      · exact ⟨_, rfl⟩
      · exact htables ht

/-- A section is not a version. -/
theorem statesVersion_iff (h : Silent name others d) (hname : name ∈ sectionNames) :
    StatesVersion d ↔ StatesVersion others := by
  have hne : "version" ≠ name := (ne_of_mem_of_not_mem hname (by decide)).symm
  unfold StatesVersion
  cases h with
  | missing h => simp only [h.mem_iff]
  | present hunknown h => simp [h.mem_iff, hne]

end Silent

/-! ### Documents with the same settings -/

/-- Settings are those of every document that gives the same for each of them. -/
theorem Overlays.of_gives_iff {d' : List (String × Toml)} {c : Config} (h : Overlays d c)
    (hgives : ∀ name ∈ sectionNames, ∀ key ∈ settingKeys name, ∀ t,
      Gives d name key t ↔ Gives d' name key t) : Overlays d' c := by
  have hsetting {name key : String} (hname : name ∈ sectionNames) (hkey : key ∈ settingKeys name)
      {α : Type} {spelledBy : Toml → α → Prop} {standard a : α}
      (h : Overlaid spelledBy standard d name key a) :
      Overlaid spelledBy standard d' name key a := by
    cases h with
    | given ht ha => exact .given ((hgives name hname key hkey _).mp ht) ha
    | standard h => exact .standard fun t => mt (hgives name hname key hkey t).mpr (h t)
  exact ⟨h.version, hsetting (by decide) (by decide) h.maxDepth,
    hsetting (by decide) (by decide) h.weekStartsOn, hsetting (by decide) (by decide) h.nameSuffix,
    hsetting (by decide) (by decide) h.valueSuffix⟩

/-- What is read of a document depends on what it gives for the settings, and on whether its
version can be read. -/
theorem ofEntries?_congr {d' : List (String × Toml)} (hd : Keyed Distinct d)
    (hd' : Keyed Distinct d') (htables : HasTables d) (htables' : HasTables d')
    (hversion : StatesVersion d ↔ StatesVersion d')
    (hgives : ∀ name ∈ sectionNames, ∀ key ∈ settingKeys name, ∀ t,
      Gives d name key t ↔ Gives d' name key t) :
    ofEntries? d = ofEntries? d' := by
  -- Both are read as the same settings, and so neither is refused alone.
  ext c
  rw [ofEntries?_eq_some_iff hd htables, ofEntries?_eq_some_iff hd' htables', hversion]
  refine and_congr_right fun _ => ⟨fun h => h.of_gives_iff hgives, fun h => ?_⟩
  exact h.of_gives_iff fun name hname key hkey t => (hgives name hname key hkey t).symm

/-! ### Settings of a text -/

/-- The settings of a text are those of the document that it is. -/
theorem ofText?_eq_ofEntries? {s : String} (hs : Toml.ofText? s = some d) :
    ofText? s = ofEntries? d := by
  rw [ofText?, hs, Option.bind_eq_bind, Option.bind_some]

end Config

/-- The settings of a document whose sections are tables.

* No setting is given twice.
* Each setting is what the document gives for it, and otherwise its default. There are settings
  where every value that is given is one of its setting and the version can be read; the version of
  the settings is the current one all the same.
* A section that is missing, one without entries and one with unknown keys only say the same.
* Documents that differ only in the version, in unknown keys, in the order of keys and in empty
  sections have equal settings. -/
theorem settings_overlay_defaults {s : String} {d : List (String × Toml)}
    (hs : Toml.ofText? s = some d) (htables : Config.HasTables d) :
    (∀ name key t u, Config.Gives d name key t → Config.Gives d name key u → t = u) ∧
      (∀ c, Config.ofText? s = some c ↔ Config.StatesVersion d ∧ Config.Overlays d c) ∧
      (∀ s' d' others, ∀ name ∈ Config.sectionNames, Toml.ofText? s' = some d' →
        Config.Silent name others d → Config.Silent name others d' →
          Config.ofText? s = Config.ofText? s') ∧
      ∀ s' d', Toml.ofText? s' = some d' → Config.HasTables d' →
        Relation.EqvGen Config.Revision d d' →
          ∀ c c', Config.ofText? s = some c → Config.ofText? s' = some c' → c = c' := by
  have hd := Toml.keyed_of_ofText? hs
  rw [Config.ofText?_eq_ofEntries? hs]
  refine ⟨fun name key t u ht hu => ?_, fun c => Config.ofEntries?_eq_some_iff hd htables, ?_, ?_⟩
  · rw [Config.gives_iff_get? hd] at ht hu
    exact Option.some.inj (ht.symm.trans hu)
  · intro s' d' others name hname hs' hsilent hsilent'
    have hd' := Toml.keyed_of_ofText? hs'
    have htables' := hsilent'.hasTables_iff.mpr (hsilent.hasTables_iff.mp htables)
    -- Both documents come from the other entries by changes that are none of a setting.
    have hversion := (hsilent.statesVersion_iff hname).trans (hsilent'.statesVersion_iff hname).symm
    have hrevisions := (hsilent.revisions.symm _ _).trans _ _ _ hsilent'.revisions
    rw [Config.ofText?_eq_ofEntries? hs']
    exact Config.ofEntries?_congr hd hd' htables htables' hversion fun name hname key hkey t =>
      Config.gives_iff_of_revisions hrevisions hname hkey
  · intro s' d' hs' htables' hrevisions c c' hc hc'
    have hd' := Toml.keyed_of_ofText? hs'
    rw [Config.ofText?_eq_ofEntries? hs'] at hc'
    -- Both versions can be read because both documents are settings.
    have hversion := ((Config.ofEntries?_eq_some_iff hd htables).mp hc).1
    have hversion' := ((Config.ofEntries?_eq_some_iff hd' htables').mp hc').1
    have heq := Config.ofEntries?_congr hd hd' htables htables' (iff_of_true hversion hversion')
      fun name hname key hkey t => Config.gives_iff_of_revisions hrevisions hname hkey
    rw [hc, hc'] at heq
    exact Option.some.inj heq

/-- A document with one setting, and one with an empty section and an unknown key besides, and no
version. -/
theorem one_setting_over_defaults :
    Config.ofText? "version = 7\n[compiler]\nmax_depth = 4\n"
        = some ⟨1, ⟨4, .monday⟩, .standard⟩ ∧
      Config.ofText? "[classifier]\n[compiler]\ncolor = 1\nmax_depth = 4\n"
        = some ⟨1, ⟨4, .monday⟩, .standard⟩ := by
  have hs : Toml.ofText? "version = 7\n[compiler]\nmax_depth = 4\n"
      = some [("version", .integer 7), ("compiler", .table [("max_depth", .integer 4)])] := by
    decide +kernel
  have hs' : Toml.ofText? "[classifier]\n[compiler]\ncolor = 1\nmax_depth = 4\n"
      = some [("classifier", .table []),
          ("compiler", .table [("color", .integer 1), ("max_depth", .integer 4)])] := by
    decide +kernel
  obtain ⟨-, hsettings, -, hequal⟩ :=
    settings_overlay_defaults hs (by simp [Config.HasTables, Config.sectionNames])
  have hc : Config.ofText? "version = 7\n[compiler]\nmax_depth = 4\n"
      = some ⟨1, ⟨4, .monday⟩, .standard⟩ := by
    refine (hsettings _).mpr ⟨?_, rfl, ?_, ?_, ?_, ?_⟩
    · intro t ht
      exact ⟨7, by simpa using ht, by decide⟩
    · exact .given ⟨_, .tail _ (.head _), .head _⟩ rfl
    · exact .standard (by simp [Config.Gives])
    · exact .standard (by simp [Config.Gives])
    · exact .standard (by simp [Config.Gives])
  obtain ⟨c', hc'⟩ : ∃ c', Config.ofText? "[classifier]\n[compiler]\ncolor = 1\nmax_depth = 4\n"
      = some c' := Option.isSome_iff_exists.mp (by decide +kernel)
  have hsame : ⟨1, ⟨4, .monday⟩, .standard⟩ = c' := by
    refine hequal _ _ hs' (by simp [Config.HasTables, Config.sectionNames]) ?_ _ c' hc hc'
    -- The version goes, the unknown key comes into its section, and the empty section comes.
    exact .trans _ _ _ (.symm _ _ (.rel _ _ (.version _ _)))
      (.trans _ _ _ (.rel _ _ (.unknownSetting _ _ _ (by decide))) (.rel _ _ (.emptySection _ _)))
  rw [hc', ← hsame]
  exact ⟨hc, rfl⟩

end RecordFilter
