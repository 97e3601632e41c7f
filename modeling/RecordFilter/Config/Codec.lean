import RecordFilter.Config.Basic
import RecordFilter.Json.Record
import RecordFilter.Toml.Document

/-!
# `RecordFilter.Config.Codec`: settings in TOML and JSON

Every setting has a value where its section does not give one, and every section has settings where
the document does not have it. A document in TOML has a section for compilation and a section for
classification; other keys are skipped. The sections alone can also be given as JSON records, where
null is no value for a setting.

A section that gives nothing says the same as no section, `CompilerConfig.ofToml?_empty` and
`ClassifierConfig.ofToml?_empty`, and a document that gives nothing the same as no document,
`Config.ofEntries?_empty`.
-/

set_option autoImplicit false

namespace RecordFilter

/-- The natural number of a JSON integer. -/
def Json.nat? : Json → Option Nat
  | .number n => n.toNat?
  | _ => none

namespace CompilerConfig

/-- The names of the settings, in order. -/
def settingNames : List String :=
  ["max_depth", "week_starts_on"]

/-- The greatest depth of a group in a section that gives none. -/
def missingMaxDepth : Nat :=
  depthLimit

/-- The first day of the week in a section that gives none. -/
def missingWeekStart : Weekday :=
  .monday

/-- The settings that a section of a TOML document gives. -/
def ofToml? (t : Toml) : Option CompilerConfig :=
  match t.section? settingNames with
  | some [maxDepth, weekStart] => do
    let maxDepth ← Toml.defaulted missingMaxDepth Toml.nat? maxDepth
    let weekStart ←
      Toml.defaulted missingWeekStart (fun t => t.text?.bind Weekday.ofText?) weekStart
    return ⟨maxDepth, weekStart⟩
  | _ => none

/-- The settings that a JSON record gives. -/
def ofJson? (j : Json) : Option CompilerConfig :=
  match j.record? settingNames with
  | some [maxDepth, weekStart] => do
    let maxDepth ← Json.defaulted missingMaxDepth Json.nat? maxDepth
    let weekStart ←
      Json.defaulted missingWeekStart (fun j => j.text?.bind Weekday.ofText?) weekStart
    return ⟨maxDepth, weekStart⟩
  | _ => none

/-- The values of the single settings are those of a section that is missing. -/
theorem ofToml?_empty : ofToml? (.table []) = some standard :=
  rfl

end CompilerConfig

namespace ClassifierConfig

/-- The names of the settings, in order. -/
def settingNames : List String :=
  ["name_suffix", "value_suffix"]

/-- The settings that a section of a TOML document gives. -/
def ofToml? (t : Toml) : Option ClassifierConfig :=
  match t.section? settingNames with
  | some [name, value] => do
    let name ← Toml.defaulted missingNameSuffix Toml.text? name
    let value ← Toml.defaulted missingValueSuffix Toml.text? value
    return ⟨name, value⟩
  | _ => none

/-- The settings that a JSON record gives. -/
def ofJson? (j : Json) : Option ClassifierConfig :=
  match j.record? settingNames with
  | some [name, value] => do
    let name ← Json.defaulted missingNameSuffix Json.text? name
    let value ← Json.defaulted missingValueSuffix Json.text? value
    return ⟨name, value⟩
  | _ => none

/-- The values of the single labels are those of a section that is missing. -/
theorem ofToml?_empty : ofToml? (.table []) = some standard :=
  rfl

end ClassifierConfig

namespace Config

/-- Versions are below this limit, which is `2 ^ 32`. -/
def versionLimit : Nat :=
  4294967296

/-- The version that a document states. -/
def versionOf? (t : Toml) : Option Nat := do
  let n ← t.nat?
  if n < versionLimit then return n else none

/-- The settings that the entries of a document give. -/
def ofEntries? (entries : List (String × Toml)) : Option Config := do
  let version ← Toml.defaulted currentVersion versionOf? (Toml.get? entries "version")
  let compiler ← Toml.defaulted .standard CompilerConfig.ofToml? (Toml.get? entries "compiler")
  let classifier ←
    Toml.defaulted .standard ClassifierConfig.ofToml? (Toml.get? entries "classifier")
  return migrate ⟨version, compiler, classifier⟩

/-- The values of what a document can leave out are those of a document that is missing. -/
theorem ofEntries?_empty : ofEntries? [] = some standard :=
  rfl

/-- The settings that a TOML document gives. -/
def ofText? (s : String) : Option Config := do
  let entries ← Toml.ofText? s
  ofEntries? entries

end Config

end RecordFilter
