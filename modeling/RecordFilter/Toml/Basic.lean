/-!
# `RecordFilter.Toml.Basic`: TOML values

A TOML document is a table. Floats and date-times are kept as they are written, because no
setting is one. `Toml.section?` reads a value as a record: a table by its keys, an array by
position, where items without a field are skipped, and a date-time as a record without fields.

Values hold lists of values, so their equality is decided by `Toml.same`, which follows the lists,
and not by a derived instance.
-/

set_option autoImplicit false

namespace RecordFilter

/-- A TOML value. -/
inductive Toml where
  | string (text : String)
  | integer (value : Int)
  | float (text : String)
  | boolean (value : Bool)
  | datetime (text : String)
  | array (items : List Toml)
  | table (entries : List (String × Toml))
  deriving Inhabited

namespace Toml

/-! ### Equality -/

mutual

/-- Whether two values are the same. -/
def same : Toml → Toml → Bool
  | .string s, .string s' => s == s'
  | .integer n, .integer n' => n == n'
  | .float s, .float s' => s == s'
  | .boolean b, .boolean b' => b == b'
  | .datetime s, .datetime s' => s == s'
  | .array ts, .array us => sameItems ts us
  | .table es, .table fs => sameEntries es fs
  | _, _ => false
termination_by structural t => t

/-- Whether two lists have the same values, in the same order. -/
def sameItems : List Toml → List Toml → Bool
  | [], [] => true
  | t :: ts, u :: us => same t u && sameItems ts us
  | _, _ => false
termination_by structural ts => ts

/-- Whether two tables have the same entries, in the same order. -/
def sameEntries : List (String × Toml) → List (String × Toml) → Bool
  | [], [] => true
  | (key, t) :: es, (key', u) :: fs => key == key' && same t u && sameEntries es fs
  | _, _ => false
termination_by structural es => es

end

mutual

/-- Values are the same exactly where they are equal. -/
theorem same_iff : ∀ {t u : Toml}, same t u ↔ t = u
  | .array ts, u => by cases u <;> simp [same, sameItems_iff]
  | .table es, u => by cases u <;> simp [same, sameEntries_iff]
  | .string _, u | .integer _, u | .float _, u | .boolean _, u | .datetime _, u => by
    cases u <;> simp [same]

/-- Lists of the same values are equal, and equal lists have the same values. -/
theorem sameItems_iff : ∀ {ts us : List Toml}, sameItems ts us ↔ ts = us
  | [], us => by cases us <;> simp [sameItems]
  | t :: ts, us => by cases us <;> simp [sameItems, same_iff, sameItems_iff]

/-- Tables of the same entries are equal, and equal tables have the same entries. -/
theorem sameEntries_iff : ∀ {es fs : List (String × Toml)}, sameEntries es fs ↔ es = fs
  | [], fs => by cases fs <;> simp [sameEntries]
  | (key, t) :: es, fs => by
    cases fs <;> simp [sameEntries, Prod.ext_iff, same_iff, sameEntries_iff]

end

instance : DecidableEq Toml := fun _ _ => decidable_of_iff _ same_iff

/-! ### Reading values -/

/-- The value of a key. -/
def get? (entries : List (String × Toml)) (key : String) : Option Toml :=
  (entries.find? fun e => e.1 == key).map Prod.snd

/-- The values by position for as many fields. -/
def byPosition : List String → List Toml → List (Option Toml)
  | [], _ => []
  | _ :: names, [] => none :: byPosition names []
  | _ :: names, t :: ts => some t :: byPosition names ts

/-- The values of the fields of a record, in the order of the names. -/
def section? (names : List String) : Toml → Option (List (Option Toml))
  | .table entries => some (names.map (get? entries))
  | .array items => some (byPosition names items)
  | .datetime _ => some (names.map fun _ => none)
  | _ => none

/-- Reads a field that has a value where it is missing. -/
def defaulted {α : Type} (value : α) (read : Toml → Option α) : Option Toml → Option α
  | none => some value
  | some t => read t

/-- The text of a TOML string. -/
def text? : Toml → Option String
  | .string s => some s
  | _ => none

/-- The natural number of a TOML integer. -/
def nat? : Toml → Option Nat
  | .integer n => if 0 ≤ n then some n.toNat else none
  | _ => none

end Toml

end RecordFilter
