import RecordFilter.Available.Edit
import RecordFilter.Config.File
import RecordFilter.Schema.Field

/-!
# `RecordFilter.Session`: settings, a table and filters in use

A session keeps the settings, the fields of one table, the edits of its descriptors, the
descriptors that filters can use and the anchor date. Each operation gives the session after it,
or a fault and no other session. The descriptors change only when the table is classified:
`RecordFilter.Proofs.Session` proves this of every operation and follows it through a run.
-/

set_option autoImplicit false

namespace RecordFilter

/-- The state of a session. -/
structure Session where
  config : Config
  fields : List Field
  edits : List DescriptorEdit
  available : List Descriptor
  anchor : Date

namespace Session

/-- A session with the default settings and nothing else. -/
def start (anchor : Date) : Session :=
  ⟨.standard, [], [], [], anchor⟩

/-- Takes the settings of a document. -/
def configure (s : Session) (document : String) : Except ConfigFault Session :=
  (Config.parse document).map fun config => { s with config := config }

/-- Takes the fields of the table with that identifier or name. -/
def selectTable? (s : Session) (schema : Schema) (idOrName : String) : Option Session :=
  (schema.table? idOrName).map fun table => { s with fields := table.fields }

/-- Adds an edit after those that are there. -/
def addEdit (s : Session) (e : DescriptorEdit) : Session :=
  { s with edits := s.edits ++ [e] }

/-- The classifier of a session. -/
def classifier (s : Session) : Classifier :=
  ⟨s.config.classifier, s.edits.map DescriptorEdit.apply⟩

/-- The fields of a session, where formulas count as their results. -/
def effectiveFields (s : Session) : List Field :=
  normalizeFields s.fields

/-- Makes the descriptors of the table available. -/
def classify (s : Session) : Session :=
  { s with available := s.classifier.classify s.effectiveFields }

/-- Takes an anchor date. -/
def anchorAt (s : Session) (d : Date) : Session :=
  { s with anchor := d }

/-- The formula of a tree. -/
def compile (s : Session) (tree : Group) : Except FilterFault String :=
  (Compiler.mk s.available s.config.compiler).compile tree s.anchor

end Session

end RecordFilter
