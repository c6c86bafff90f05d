import PromptContract.Libraries.Evaluation.Machine
import PromptContract.Tag

/-!
# What names of types refer to

A type that is given by a text is what the expression in the text evaluates to (`Reference.type`).
Some names are known to every expression; others are known only beside a field's own type, or in a
schema. `Reference.resolved` puts what is referred to in the place of every reference inside a type.
-/

namespace PromptContract.Reference

open Evaluation

/-! ## Names that are known everywhere -/

/-- Types that are known by their names only, besides those of things that go wrong. -/
def otherTypeNames : List String :=
  ["bytearray", "classmethod", "enumerate", "filter", "map", "memoryview", "property", "range",
    "reversed", "slice", "staticmethod", "super", "zip"]

/-- Objects of which nothing is known. -/
def objectNames : List String :=
  ["copyright", "credits", "exit", "help", "license", "quit", "__spec__", "__loader__"]

/-- The constants that can also be reached by a name. -/
def constants : List (String × Value) :=
  [("None", .null), ("True", .bool true), ("False", .bool false), ("__debug__", .bool true),
    ("Ellipsis", .object .ellipsis), ("NotImplemented", .object .notOffered)]

/-- A class of which only the name is known. -/
def classNamed (name : String) : String × Value := (name, .builtin (.other name))

/-- An object of which nothing is known. -/
def objectNamed (name : String) : String × Value := (name, Numeric.unknown)

/-- The name of an annotation for a type. -/
def annotationNamed (name : String) (origin : BuiltinType) : String × Value :=
  (name, .typeName name origin)

/-- The names that are known everywhere. -/
def common : List (String × Value) :=
  (BuiltinType.known.filter (· != .none)).map (fun t => (t.name, .builtin t))
    ++ constants
    ++ Routine.names.map (fun name => (name, .object (.routine name)))
    ++ (otherTypeNames ++ BuiltinType.failures).map classNamed
    ++ ["EnvironmentError", "IOError"].map (fun name => (name, .builtin (.other "OSError")))
    ++ objectNames.map objectNamed

/-- What is remembered where nothing has been evaluated. -/
def blank : Memory := { common, globals := [], locals := [], takesNames := false }

/-- What every place tells about itself: names and descriptions that are no types. -/
def remarks : List (String × Value) :=
  [("__name__", .text "contract.place"), ("__package__", .text "contract"),
    ("__doc__", Member.description), ("__file__", .text "/contract"),
    ("__cached__", .text "/contract"), ("__builtins__", Machine.asMap common)]

/-! ## Names that are known in places -/

/-- The names that are known beside a field's own type, besides those of its values. -/
def besideField : List (String × Value) :=
  [("Any", .anyType), annotationNamed "Dict" .dict, annotationNamed "Mapping" .dict,
    ("PydanticValidationError", .builtin (.other "ValidationError"))]
    ++ ["TypeAdapter", "ValidationError", "NormalizedModule"].map classNamed
    ++ ["logging", "logger"].map objectNamed
    ++ Known.besideField.map Known.function ++ remarks

/-- The names beside the type of a field for the field with its siblings, the values and the side.
-/
def ofField (side : Side) (fields : List Field) (value : Value) (f : Field) :
    List (String × Value) :=
  [("fields", .tuple (fields.map .field)), ("value", value), ("side", .text side.name),
    ("f", .field f)]

/-- The names that do not outlast the type of one field. -/
def passingNames : List String := ["fields", "value", "side", "f", "e", "errors"]

/-- The types of the field types' values. -/
def valueTypes : Entries :=
  [(.fieldType .str, .builtin .str), (.fieldType .int, .builtin .int),
    (.fieldType .float, .builtin .float), (.fieldType .bool, .builtin .bool)]

/-- The names that are known in a record type, besides its own. -/
def inRecord : List (String × Value) :=
  [("Any", .anyType), ("Optional", Value.optionalName), annotationNamed "Dict" .dict,
    annotationNamed "Mapping" .dict, annotationNamed "List" .list,
    annotationNamed "Tuple" .tuple, annotationNamed "Type" .type, classNamed "FieldType",
    ("TAG_NAMES", .map (Tag.names.map fun (s, t) => (.text s, .fieldType t))),
    ("_PYTHON_TYPES", .map valueTypes), ("BaseModel", .record "BaseModel" []),
    ("PydanticValidationError", .builtin (.other "ValidationError")),
    ("_PYDANTIC", .object (.made "PydanticSchemaEngine" [])),
    ("ENGINES", .list (Known.shapes.map fun k => .object (.made k.1 [])))]
    ++ ["ABC", "SchemaProperty", "SchemaEngine", "PydanticSchemaEngine", "JsonSchemaEngine",
      "FieldMapSchemaEngine"].map classNamed
    ++ ["logging", "logger", "jsonschema"].map objectNamed
    ++ Known.inRecord.map Known.function ++ remarks

/-! ## Places -/

/-- Names with references in the places of all that changes in place. -/
def heldNames (names : List (String × Value)) : Evaluation (List (String × Value)) :=
  names.mapM fun (s, v) => do return (s, ← hold v)

/-- What comes out among the names of a place. -/
def within {α : Type} (globals locals : List (String × Value)) (takesNames : Bool)
    (x : Evaluation α) : Evaluation α := do
  let outer ← modifyGet fun memory => ((memory.globals, memory.locals, memory.takesNames), memory)
  let globals ← heldNames globals
  let locals ← heldNames locals
  modify fun memory => { memory with globals, locals, takesNames }
  let back : Evaluation Unit := modify fun memory =>
    { memory with globals := outer.1, locals := outer.2.1, takesNames := outer.2.2 }
  let a ← tryCatch x fun why => do
    back
    throw why
  back
  return a

/-! ## References -/

/-- The type that a name refers to. It may in turn be a reference. -/
def type (m : Machine) (name : Name) : Evaluation Value := do
  let e ← typeExpression name.text
  (← settled (← evaluate m (.ofWhole e) e)).asArgument

mutual
/-- A type with what is referred to in the place of the references inside. -/
def replaced (find : Name → Evaluation Value) : Value → Evaluation Value
  | .reference name => find name
  | .text s => find (.given s)
  | .union .named members => do Value.unionOf (← allReplaced find members)
  | .union .bars members => do Value.joined (← allReplaced find members)
  | .generic label origin arguments => do
    return .generic label origin (← allReplaced find arguments)
  | .annotated base notes => do (← replaced find base).withNotes notes
  | v => return v
termination_by structural v => v

/-- The same for a row of types. -/
def allReplaced (find : Name → Evaluation Value) : List Value → Evaluation (List Value)
  | [] => return []
  | v :: vs => do
    let v ← replaced find v
    return v :: (← allReplaced find vs)
termination_by structural vs => vs
end

/-- The type that a name refers to, without references, if at most `depth` references lead to each
other. One that leads back to an earlier one is undefined. -/
def resolvedName (m : Machine) : Nat → List String → Name → Evaluation Value
  | 0, _, _ => throw .tooDeep
  | depth + 1, earlier, name => do
    if earlier.contains name.text then throw .undefinedType
    replaced (resolvedName m depth (name.text :: earlier)) (← type m name)

/-- How many references may lead to each other. -/
def depthLimit : Nat := 300

/-- The type that a name refers to, without references. -/
def resolvedFully (m : Machine) (name : Name) : Evaluation Value :=
  resolvedName m depthLimit [] name

/-- A type without references. -/
def resolved (m : Machine) (type : Value) : Evaluation Value := replaced (resolvedFully m) type

end PromptContract.Reference
