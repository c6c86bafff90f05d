import PromptContract.Schema.Property

/-!
# Record types

A record type lists named fields with types, which are the properties that it declares.
-/

namespace PromptContract.Schema.RecordType

mutual
/-- A type with a record in the place of its name for itself. -/
def withItself (whole : Value) : Value → Value
  | .itself _ => whole
  | .union style members => .union style (allWithItself whole members)
  | .generic label origin arguments => .generic label origin (allWithItself whole arguments)
  | .annotated base notes => .annotated (withItself whole base) notes
  | v => v
termination_by structural v => v

/-- The same for a row of types. -/
def allWithItself (whole : Value) : List Value → List Value
  | [] => []
  | v :: vs => withItself whole v :: allWithItself whole vs
termination_by structural vs => vs
end

/-- A type without the notes around it. -/
def withoutNotes : Value → Value
  | .annotated base _ => base
  | v => v

/-- The properties that the fields of a record type declare (`PydanticSchemaEngine.properties`). -/
def properties (name : String) (fields : List RecordField) : List Property :=
  fields.map fun f =>
    { name := .text f.name
      tag := withoutNotes (withItself (.record name fields) f.type)
      description := f.description.getD .null
      required := f.required
      metadata := [] }

end PromptContract.Schema.RecordType
