import PromptContract.Schema.FieldMap
import PromptContract.Schema.RecordType
import PromptContract.Libraries.TypeCheck.OfType

/-!
# Making record types

The names and types of a record type are looked at when it is made (`RecordType.settledFields`):
names that refer to types are looked up, and a record with a type that is not known is kept as it
is, but not ready to be used. What a record type demands of a value is said by `RecordType.demand`,
and what problems a value has with it by `RecordType.issues`.
-/

namespace PromptContract.Schema

open TypeCheck

namespace RecordType

/-- The names of members that every record type has. -/
def memberNames : List String :=
  ["model_validate", "model_validate_json", "model_validate_strings", "model_dump",
    "model_dump_json"]

/-- The name that stands for the settings of a record type. -/
def settingsName : String := "model_config"

/-- The names that tell something about the record type itself or about entries beyond its fields,
which any value may do; they are no fields. -/
def remarkNames : List String := ["__config__", "__doc__", "__module__", "__pydantic_extra__"]

/-- The names that say how the record type is made, for which a field is of no use. -/
def makingNames : List String :=
  ["__base__", "__cls_kwargs__", "__qualname__", "__root__", "__validators__"]

/-- Puts a field among others: in the place of the one that has its name, else at the end. -/
def putField (fields : List RecordField) (f : RecordField) : List RecordField :=
  if fields.any (·.name == f.name) then fields.map fun g => if g.name == f.name then f else g
  else fields ++ [f]

/-- What comes out among the names that are known in a record type of a given name. -/
def within {α : Type} (name : String) (x : Evaluation α) : Evaluation α :=
  Reference.within Reference.inRecord [(name, .itself name)] false x

/-- The type of a field of a record without references, or with them where one is not defined. -/
def settledType (m : Machine) (record : String) (type : Value) : Evaluation Value := do
  let type ← type.asAnnotation
  Evaluation.recovered (within record do Evaluation.left (← Reference.resolved m type)) fun
    | .undefinedType => some type
    | _ => none

/-- What a record type demands of a value. -/
def demand (m : Machine) (name : String) (fields : List RecordField) : Evaluation Demand :=
  within name (Demand.ofType m (.record name fields))

/-- The problems of a value with a record type, whose functions know the names of its place. -/
def issues (m : Machine) (name : String) (fields : List RecordField) (v : Value) :
    Evaluation (List Issue) := do
  let demand ← demand m name fields
  within name (demand.issues m v)

/-- The fields of a record type of a given name, as it is made of them. Names with an underscore in
front are reserved, as are those of members, and every field needs a type. -/
def settledFields (m : Machine) (name : String) (fields : List RecordField) :
    Evaluation (List RecordField) := do
  let fields := (fields.foldl putField []).filter fun f => !remarkNames.contains f.name
  if fields.any fun f => makingNames.contains f.name || f.name == settingsName then
    throw .wrongKind
  if fields.any fun f => f.name.startsWith "_" then throw .reservedName
  let fields ← fields.mapM fun f => do return { f with type := ← settledType m name f.type }
  if fields.any fun f => memberNames.contains f.name then throw .takenName
  Evaluation.recovered (do let _ ← demand m name fields) fun
    | .undefinedType => some ()
    | _ => none
  return fields

end RecordType

end PromptContract.Schema
