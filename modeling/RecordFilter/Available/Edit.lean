import RecordFilter.Available.Classify

/-!
# `RecordFilter.Available.Edit`: edits of the descriptors

The extensions that need no code of their own: a `DescriptorEdit` adds, removes or changes
descriptors, or turns the list around.
-/

set_option autoImplicit false

namespace RecordFilter

/-- An edit of the descriptors. -/
inductive DescriptorEdit where
  | append (descriptor : Descriptor)
  | removeId (id : String)
  | removeType (type : ColumnType)
  | addFields (fieldType : FieldType) (type : ColumnType)
  | rename (id name : String)
  | retype (id : String) (type : ColumnType)
  | reverse
  deriving Inhabited

/-- The descriptors after an edit. Fields are added without choices, and a descriptor that
changes its type keeps its choices. -/
def DescriptorEdit.apply (e : DescriptorEdit) : Extension := fun fields ds =>
  match e with
  | .append d => ds ++ [d]
  | .removeId id => ds.filter fun d => d.id != id
  | .removeType type => ds.filter fun d => d.type != type
  | .addFields fieldType type =>
    ds ++ (fields.filter fun f => f.type == fieldType).map fun f => .plain f.id f.name type
  | .rename id name => ds.map fun d => if d.id == id then { d with name := name } else d
  | .retype id type => ds.map fun d => if d.id == id then { d with type := type } else d
  | .reverse => ds.reverse

end RecordFilter
