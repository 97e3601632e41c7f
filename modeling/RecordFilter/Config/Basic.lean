import RecordFilter.Available.Classify
import RecordFilter.Compile.Basic

/-!
# `RecordFilter.Config.Basic`: the settings

The settings of compilation and of classification, with the version of their format. Settings
that are read are brought to the current version, so no other version is ever in use.
`Config.template` is a document with a comment for every setting, and says the same as no
document at all.
-/

set_option autoImplicit false

namespace RecordFilter

/-- The settings. -/
structure Config where
  version : Nat
  compiler : CompilerConfig
  classifier : ClassifierConfig
  deriving DecidableEq

namespace Config

/-- The version of the format of the settings. -/
def currentVersion : Nat :=
  1

/-- The settings where none are given. -/
def standard : Config :=
  ⟨currentVersion, .standard, .standard⟩

instance : Inhabited Config := ⟨standard⟩

/-- The settings in the current version. The first version has nothing to change. -/
def migrate (c : Config) : Config :=
  { c with version := currentVersion }

/-- A document with the default settings as comments. -/
def template : String :=
  "# airsync filter configuration\n" ++
  "\n" ++
  "# Config schema version (do not modify)\n" ++
  "version = 1\n" ++
  "\n" ++
  "[compiler]\n" ++
  "# max_depth = 32            # Maximum nesting of filter groups\n" ++
  "# week_starts_on = \"Mon\"    # First day of \"calendarWeek\" date filters\n" ++
  "\n" ++
  "[classifier]\n" ++
  "# name_suffix = \"Name\"      # Label of user sub-properties, as in \"Owner (Name)\"\n" ++
  "# value_suffix = \"Value\"    # Label of barcode sub-properties, as in \"SKU (Value)\"\n"

end Config

end RecordFilter
