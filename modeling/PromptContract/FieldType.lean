/-!
# Field types

The four primitive types that a field of a contract can have. The name of a type is what a prompt
states beside the field. A field type may also stand where a value stands, and is then shown as a
member of the family of field types.
-/

namespace PromptContract

/-- The type of a field's value. -/
inductive FieldType
  | str
  | int
  | float
  | bool
deriving DecidableEq, Repr, Inhabited

namespace FieldType

/-- The name of a type in prompts and schemas. -/
def name : FieldType → String
  | .str => "str"
  | .int => "int"
  | .float => "float"
  | .bool => "bool"

/-- All types, in the order in which they are told. -/
def all : List FieldType := [str, int, float, bool]

/-- The type of a given name. -/
def ofName? (s : String) : Option FieldType := all.find? fun t => t.name == s

/-- A type is found again by its name. -/
theorem ofName?_name (t : FieldType) : ofName? t.name = some t := by cases t <;> rfl

/-- What a prompt shows for a type that stands as a value. -/
def display (t : FieldType) : String := "FieldType." ++ t.name.toUpper

/-- The written form of a type that stands as a value. -/
def quoted (t : FieldType) : String := "<" ++ t.display ++ ": '" ++ t.name ++ "'>"

end FieldType

end PromptContract
