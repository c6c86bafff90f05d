import PromptContract.Schema.Shape
import PromptContract.Libraries.Evaluation.Kind

/-!
# Functions and objects that places know

The places where types are given know some functions (`Known.functions`), and objects that such
functions give offer others (`Known.ofKind`). What they give is said elsewhere; here are their names
and parameters, and how the objects are put together: the kinds of schemas as objects
(`Known.shape`), properties (`Known.property`), and what goes wrong (`Known.failure`).
-/

namespace PromptContract.Known

/-- A parameter that needs an argument. -/
def needed (name : String) : ParameterOf Value := ⟨.ordinary, name, none⟩

/-- A parameter with a value that it has without an argument. -/
def usually (v : Value) (name : String) : ParameterOf Value := ⟨.ordinary, name, some v⟩

/-- Parameters that take all arguments. -/
def anything : List (ParameterOf Value) := [⟨.places, "arguments", none⟩, ⟨.names, "names", none⟩]

/-- The functions that are known beside a field's own type, with their parameters. -/
def besideField : List (String × List (ParameterOf Value)) :=
  [("engine_for", [needed "schema"]), ("normalize_module", [needed "module"]),
    ("validate_against", [needed "schema", needed "value", usually (.text "output") "side"]),
    ("validate_inputs", ["module", "inputs"].map needed),
    ("validate_outputs", ["module", "outputs"].map needed), ("_present", [needed "value"]),
    ("_check_field_specs", ["fields", "value", "side"].map needed)]

/-- The functions that are known in a record type, with their parameters. -/
def inRecord : List (String × List (ParameterOf Value)) :=
  [("engine_for", [needed "schema"]), ("_split_tag", [needed "spec"]),
    ("_python_type", [needed "tag"]), ("abstractmethod", [needed "funcobj"]),
    ("dataclass", anything), ("field", anything), ("create_model", anything),
    ("PydanticField", anything)]

/-- A function that a place knows, as an object. -/
def function (f : String × List (ParameterOf Value)) : String × Value :=
  (f.1, .object (.given f.1 f.2 none))

/-- The functions that the objects of a kind offer, with the parameters besides the object. -/
def ofKind : String → List (String × List (ParameterOf Value))
  | "Field" => [("to_dict", [])]
  | "PydanticSchemaEngine" => checks
  | "JsonSchemaEngine" => ("_validator", [needed "schema"]) :: checks
  | "FieldMapSchemaEngine" => ("to_model", [needed "schema"]) :: checks
  | "TypeAdapter" =>
    [("validate_python",
      [needed "object", ⟨.named, "strict", some .null⟩, ⟨.names, "names", none⟩])]
  | _ => []
where
  /-- What all objects for schemas offer. -/
  checks : List (String × List (ParameterOf Value)) :=
    [("accepts", [needed "schema"]), ("properties", [needed "schema"]),
      ("validate", ["schema", "value"].map needed), ("explain", ["schema", "value"].map needed)]

/-- The functions that kinds themselves offer, with the parameters besides the kind. -/
def ofWholeKind : String → List (String × List (ParameterOf Value))
  | "Field" | "Module" => [("from_dict", [needed "data"])]
  | "PredictOptions" => [("from_mapping", anything)]
  | _ => []

/-- A function that belongs to a value, by the name of the kind that offers it and its own. -/
def bound (kind : String) (self : Value) (f : String × List (ParameterOf Value)) : Value :=
  .object (.given (kind ++ "." ++ f.1) f.2 (some self))

/-- A function of a name, if there is one, as it belongs to a value. -/
def bound? (table : String → List (String × List (ParameterOf Value))) (kind : String)
    (self : Value) (s : String) : Option Value :=
  ((table kind).lookup s).map fun parameters => bound kind self (s, parameters)

/-! ## Objects -/

/-- The kinds of objects for the shapes of schemas, with the names of the shapes. -/
def shapes : List (String × String) :=
  [("PydanticSchemaEngine", "pydantic"), ("JsonSchemaEngine", "jsonschema"),
    ("FieldMapSchemaEngine", "field-map")]

/-- The object for a shape of schemas. -/
def shape (s : Schema.Shape) : Value :=
  let kind := ((shapes.find? fun k => k.2 == s.name).map (·.1)).getD ""
  .object (.made kind [])

/-- A property as an object. -/
def property (p : Schema.Property) : Value :=
  .object (.made "SchemaProperty"
    [("name", p.name), ("tag", p.tag), ("description", p.description),
      ("required", .bool p.required), ("metadata", .map p.metadata)])

/-- Something of a kind that goes wrong, with what is said about it. -/
def failure (kind : String) (arguments : List Value) : Value :=
  .object (.made kind [("args", .tuple arguments)])

/-- A problem as a map. -/
def issue (i : Issue) : Value :=
  .map [(.text "loc", .tuple i.loc), (.text "msg", .text i.msg),
    (.text "type", (i.rule.map .text).getD .null)]

end PromptContract.Known
