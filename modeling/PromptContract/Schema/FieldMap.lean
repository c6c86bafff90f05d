import PromptContract.Schema.Property

/-!
# Field maps

A field map gives each property a tag, either alone or in a row with a map that may describe the
property or call it optional. To check values, a field map is read as a record type: a name of a
type stands for that type, an unknown name for any type, and every other tag for itself.
-/

namespace PromptContract.Schema.FieldMap

/-- The tag of a property and what else is said about it (`_split_tag`). -/
def splitTag : Value → Value × Entries
  | .list (tag :: rest) | .tuple (tag :: rest) =>
    (tag, match rest with | .map about :: _ => about | _ => [])
  | tag => (tag, [])

/-- The property that an entry declares. -/
def property (e : Value × Value) : Property :=
  let (tag, about) := splitTag e.2
  { name := e.1, tag
    description := about.getD "description"
    required := !(about.getD "optional").truthy
    metadata := about }

/-- The properties that a field map declares (`FieldMapSchemaEngine.properties`). -/
def properties (schema : Entries) : List Property := schema.map property

/-- The type of a field type's values. -/
def ofFieldType : FieldType → Value
  | .str => .builtin .str
  | .int => .builtin .int
  | .float => .builtin .float
  | .bool => .builtin .bool

/-- The type that a name stands for. -/
def typeNamed (s : String) : Value :=
  match Tag.named? s with
  | some t => ofFieldType t
  | none => .anyType

/-- The type that a tag stands for in checks (`_python_type`). -/
def typeOf : Value → Value
  | .text s => typeNamed s
  | .fieldType t => typeNamed t.name
  | .null => .anyType
  | tag => tag

/-- The name of the record types that field maps become. -/
def recordName : String := "FieldMapSchema"

end PromptContract.Schema.FieldMap
