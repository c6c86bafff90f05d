import PromptContract.Field

/-!
# Properties of schemas

A schema of any shape declares properties in an order: each has a name, a tag for its type, perhaps
a description, and says whether a value map must have it.
-/

namespace PromptContract.Schema

/-- One declared property (`SchemaProperty`). -/
structure Property where
  name : Value
  tag : Value
  description : Value
  required : Bool
  /-- All else that the schema says about the property. -/
  metadata : Entries

/-- The field that a property gives rise to (`property_to_field`). Without a description it is
described by its name. -/
def Property.toField (p : Property) : Except Failure Field :=
  Field.make p.name (.fieldType (Tag.fieldType p.tag))
    (p.description.orElse (.text ("Field " ++ p.name.display))) (.bool p.required) .null

end PromptContract.Schema
