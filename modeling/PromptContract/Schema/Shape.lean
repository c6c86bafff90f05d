import PromptContract.Schema.FieldMap
import PromptContract.Schema.JsonSchema
import PromptContract.Schema.RecordType

/-!
# The shapes of schemas

A schema is a record type, a JSON Schema or a field map. The shape is found by looking: a map that
has properties or calls itself an object is a JSON Schema, and every other map is a field map. All
three shapes say which properties they declare.
-/

namespace PromptContract.Schema

/-- The shape of a schema, with what it consists of. -/
inductive Shape
  | record (name : String) (fields : List RecordField)
  | json (schema : Entries)
  | fieldMap (schema : Entries)

namespace Shape

/-- The name of a shape. -/
def name : Shape → String
  | .record .. => "pydantic"
  | .json _ => "jsonschema"
  | .fieldMap _ => "field-map"

/-- The shape of a schema (`engine_for`); a value of another kind is none. -/
def of : Value → Except Failure Shape
  | .record name fields => .ok (.record name fields)
  | .map es =>
    let isJson := (Entries.get? es "properties").isSome || (Entries.getD es "type").isText "object"
    .ok (if isJson then .json es else .fieldMap es)
  | v => .error (.unsupportedSchema v)

/-- The properties that a schema declares, in its order. -/
def properties : Shape → Except Failure (List Property)
  | .record name fields => .ok (RecordType.properties name fields)
  | .json schema => JsonSchema.properties schema
  | .fieldMap schema => .ok (FieldMap.properties schema)

@[simp] theorem properties_record (name : String) (fields : List RecordField) :
    (record name fields).properties = .ok (RecordType.properties name fields) := rfl

@[simp] theorem properties_json (schema : Entries) :
    (json schema).properties = JsonSchema.properties schema := rfl

@[simp] theorem properties_fieldMap (schema : Entries) :
    (fieldMap schema).properties = .ok (FieldMap.properties schema) := rfl

end Shape

/-- The fields that a schema gives rise to (`schema_to_fields`); none without a schema. -/
def fields (schema : Value) : Except Failure (Option (List Field)) :=
  match schema with
  | .null => .ok none
  | schema => do return some (← (← (← Shape.of schema).properties).mapM Property.toField)

/-- A schema that is there gives rise to the fields of the properties that its shape declares. -/
theorem fields_of_ne {schema : Value} (h : schema ≠ .null) : fields schema =
    (do return some (← (← (← Shape.of schema).properties).mapM Property.toField)) := by
  cases schema with
  | null => exact absurd rfl h
  | _ => rfl

end PromptContract.Schema
