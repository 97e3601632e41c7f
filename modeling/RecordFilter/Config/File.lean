import RecordFilter.Config.Codec
import RecordFilter.Text.Utf8

/-!
# `RecordFilter.Config.File`: settings from a file

What a path leads to decides what the settings are. Where there is nothing, they are the default
ones.
-/

set_option autoImplicit false

namespace RecordFilter

/-- Why there are no settings: the file cannot be read as text, or the text is no document of
settings. -/
inductive ConfigFault where
  | unreadable
  | malformed
  deriving DecidableEq

/-- What a path leads to. -/
inductive FileState where
  | missing
  | directory
  | bytes (bytes : List UInt8)

namespace Config

/-- The settings of a text. -/
def parse (s : String) : Except ConfigFault Config :=
  match ofText? s with
  | some c => .ok c
  | none => .error .malformed

/-- The settings of a file. -/
def load : FileState → Except ConfigFault Config
  | .missing => .ok .standard
  | .directory => .error .unreadable
  | .bytes bytes =>
    match Text.ofUtf8? bytes with
    | some s => parse s
    | none => .error .unreadable

end Config

end RecordFilter
