import PromptContract.Schema.Shape

/-!
# Engines for schemas

What a value has to be under a schema is not decided here: record types and field types are checked
by one library, JSON Schemas by another. `Engines` are given functions in the place of those of the
libraries, and the rest of a check goes by them: a field map becomes a record type
(`Engines.recordFields`), and a schema of any shape finds a value to fit or explains why it does not
(`Shape.isValid`, `Shape.problems`).
-/

namespace PromptContract.Schema

/-- What the libraries do that know types and schemas. Their functions are computations of a monad,
since they may keep something in mind. -/
structure Engines (M : Type → Type) where
  /-- The type of the values of a type or null (`Optional`). -/
  optional : Value → M Value
  /-- The fields of the record type of a name that is made of given fields (`create_model`). -/
  makeRecord : String → List RecordField → M (List RecordField)
  /-- Every problem that a value has with the record type of a name and fields, strictly checked
  (`model_validate`). -/
  recordIssues : String → List RecordField → Value → M (List Issue)
  /-- Whether a value fits a JSON Schema (`is_valid`). -/
  jsonFits : Entries → Value → M Bool
  /-- Every problem that a value has with a JSON Schema (`iter_errors`). -/
  jsonIssues : Entries → Value → M (List Issue)
  /-- Every problem that a value has with the own type of a field, strictly checked (`TypeAdapter`
  and its `validate_python`). The type is looked at first, and then the value is read. -/
  typeIssues : Field → Value → M Value → M (List Issue)

namespace Engines

variable {M : Type → Type} [Monad M] [MonadExceptOf Failure M] (e : Engines M)

/-- The field of the record type that a property becomes, with the name it has in the map. -/
def recordField (p : Property) : M (Value × RecordField) := do
  let type := FieldMap.typeOf p.tag
  let type ← if p.required then pure type else e.optional type
  return (p.name, ⟨p.name.comparedText?.getD "", type, p.description.present?, p.required⟩)

/-- The fields of the record type that a field map becomes (`FieldMapSchemaEngine.to_model`). Its
names must be texts. -/
def recordFields (schema : Entries) : M (List RecordField) := do
  let fields ← (FieldMap.properties schema).mapM e.recordField
  if fields.all fun f => f.1.comparedText?.isSome then
    e.makeRecord FieldMap.recordName (fields.map (·.2))
  else throw .wrongKind

end Engines

namespace Shape

variable {M : Type → Type} [Monad M] [MonadExceptOf Failure M] (e : Engines M)

/-- Every problem that a value has with a schema (`SchemaEngine.explain`). -/
def problems (s : Shape) (v : Value) : M (List Issue) := do
  match s with
  | .json schema => e.jsonIssues schema v
  | .record name fields => e.recordIssues name fields v
  | .fieldMap schema => e.recordIssues FieldMap.recordName (← e.recordFields schema) v

/-- Whether a value satisfies a schema (`SchemaEngine.validate`). A JSON Schema is not read beyond
the first problem. -/
def isValid (s : Shape) (v : Value) : M Bool := do
  match s with
  | .json schema => e.jsonFits schema v
  | .record .. | .fieldMap _ => return (← s.problems e v).isEmpty

/-- The problems with a field map are those with the record type that it becomes. -/
theorem problems_fieldMap (schema : Entries) (v : Value) : (fieldMap schema).problems e v =
    (do e.recordIssues FieldMap.recordName (← e.recordFields schema) v) := rfl

/-- A value satisfies a record type if there are no problems with it. -/
theorem isValid_record (name : String) (fields : List RecordField) (v : Value) :
    (record name fields).isValid e v =
      (do return (← (record name fields).problems e v).isEmpty) := rfl

/-- So does it a field map. -/
theorem isValid_fieldMap (schema : Entries) (v : Value) : (fieldMap schema).isValid e v =
    (do return (← (fieldMap schema).problems e v).isEmpty) := rfl

/-- The problems of a value that does not satisfy a schema, and nothing for one that does. -/
def rejects (s : Shape) (v : Value) : M (Option (List Issue)) := do
  if ← s.isValid e v then return none else some <$> s.problems e v

end Shape

end PromptContract.Schema
