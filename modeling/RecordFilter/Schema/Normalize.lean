import RecordFilter.Schema.Field

/-!
# `RecordFilter.Schema.Normalize`: formula fields as fields of their result

A formula is filtered like a field of its result. `Field.resolveFormula` replaces the type and
the options of a formula field by those of its declared result; the identifier and the name stay,
and a missing description becomes empty. One step is made: a result that is itself a formula
stays one.
-/

set_option autoImplicit false

namespace RecordFilter

/-- The declared result of a formula field. -/
def Field.formulaResult? (f : Field) : Option FormulaResult :=
  if f.type = .formula then f.options.bind FieldOptions.result else none

/-- The field as a field of its declared result, if it is a formula that declares one. -/
def Field.resolveFormula (f : Field) : Field :=
  match f.formulaResult? with
  | some result => ⟨f.id, f.name, result.type, some (f.description.getD ""), result.options⟩
  | none => f

/-- The fields with every formula resolved. -/
def normalizeFields (fields : List Field) : List Field :=
  fields.map Field.resolveFormula

end RecordFilter
