import PromptContract.Libraries.Checking

/-!
# What the functions give that places know

Where types are given by expressions some functions are known that read contracts and validate
values, and some objects offer more of them. What they give is what the library itself gives for
their arguments (`Offer.tell`); those that are not told give objects of which nothing is known. The
machine for all expressions (`Machine.full`) asks them.
-/

namespace PromptContract

namespace Offer

open Evaluation

/-- Arguments by the names of parameters, as they are at the moment. -/
abbrev Arguments := List (String × Value)

/-- An argument, as it is outside changes in place. -/
def argument (arguments : Arguments) (name : String) : Evaluation Value :=
  settled ((arguments.lookup name).getD .null)

/-- The side that a text names. -/
def sideOf (v : Value) : Side := if v.isText "input" then .input else .output

/-- A map that a field is told by. -/
def fieldMap (f : Field) : Value :=
  .map [(.text "name", f.name.toValue), (.text "type", .text f.type.name),
    (.text "description", f.description), (.text "required", f.required)]

/-- The fields that a value lists, which must be fields. -/
def fieldsOf (v : Value) : Except Failure (List Field) := do
  (← v.items).mapM fun
    | .field f => .ok f
    | _ => .error .missingMember

/-! ## Functions -/

/-- What the functions give that do not belong to a value. -/
def ofFunction? (m : Machine) (name : String) (arguments : Arguments) :
    Evaluation (Option Value) := do
  let reference (name : String) : Value := (arguments.lookup name).getD .null
  match name with
  | "engine_for" =>
    return some (Known.shape (← Schema.Shape.of (← argument arguments "schema")))
  | "normalize_module" =>
    return some (.contract (← Contract.ofValue (← argument arguments "module")))
  | "validate_against" => do
    let schema ← argument arguments "schema"
    let value := reference "value"
    Validation.againstSchemaBy m (sideOf (← argument arguments "side")) schema.present? value
    return some value
  | "validate_inputs" => validated .input "inputs"
  | "validate_outputs" => validated .output "outputs"
  | "_present" =>
    return some (.map (Entries.present (← Validation.entriesNow (reference "value"))))
  | "_check_field_specs" => do
    let fields ← fieldsOf (← argument arguments "fields")
    let side := sideOf (← argument arguments "side")
    Validation.againstFieldsBy m side fields (reference "value")
    return some .null
  | "_split_tag" => do
    let (tag, about) := Schema.FieldMap.splitTag (← opened (reference "spec"))
    return some (.tuple [tag, .map about])
  | "_python_type" => return some (Schema.FieldMap.typeOf (← argument arguments "tag"))
  | "abstractmethod" => return some (reference "funcobj")
  | _ => return none
where
  /-- The values of a side, if they fit the contract. -/
  validated (side : Side) (name : String) : Evaluation (Option Value) := do
    let value := (arguments.lookup name).getD .null
    Validation.checkBy m (← Contract.ofValue (← argument arguments "module")) side value
    return some value

/-! ## Objects -/

/-- The shape that an object for a shape takes a schema to be of. -/
def shapeFor (kind : String) (schema : Value) : Except Failure Schema.Shape :=
  match kind, schema with
  | "PydanticSchemaEngine", .record name fields => .ok (.record name fields)
  | "PydanticSchemaEngine", _ => .error .missingMember
  | "JsonSchemaEngine", schema => .json <$> schema.entriesOfMap
  | _, schema => .fieldMap <$> schema.entriesOfMap

/-- Whether an object for a shape takes a schema. -/
def accepts (kind : String) (schema : Value) : Bool :=
  match kind, Schema.Shape.of schema with
  | "PydanticSchemaEngine", .ok (.record ..) | "JsonSchemaEngine", .ok (.json _)
  | "FieldMapSchemaEngine", .ok (.json _) | "FieldMapSchemaEngine", .ok (.fieldMap _) => true
  | _, _ => false

/-- What the functions of an object for a shape give. -/
def ofShape? (m : Machine) (kind name : String) (arguments : Arguments) :
    Evaluation (Option Value) := do
  let schema ← argument arguments "schema"
  let value := (arguments.lookup "value").getD .null
  let engines := m.engines fun _ => []
  match name with
  | "accepts" => return some (.bool (accepts kind schema))
  | "properties" =>
    return some (.list ((← (← shapeFor kind schema).properties).map Known.property))
  | "validate" => return some (.bool (← (← shapeFor kind schema).isValid engines value))
  | "explain" =>
    return some (.list ((← (← shapeFor kind schema).problems engines value).map Known.issue))
  | "to_model" => do
    let fields ← engines.recordFields (← schema.entriesOfMap)
    return some (.record Schema.FieldMap.recordName fields)
  | _ => return none

/-- What comes of holding a value against a type. Only a strict check is followed up. -/
def adapted (m : Machine) (parts : List (String × Value)) (arguments : Arguments) :
    Evaluation (Option Value) := do
  let value := (arguments.lookup "object").getD .null
  let type ← settled ((parts.lookup "type").getD .null)
  match ← (← TypeCheck.Demand.ofType m type).check m value with
  | .passes v _ => return some v
  | .fails issues =>
    if (← argument arguments "strict").truthy then throw (.unfit issues) else return none

/-- What the functions give that belong to a value. -/
def ofValue? (m : Machine) (name : String) (self : Value) (arguments : Arguments) :
    Evaluation (Option Value) := do
  match name, self with
  | "Field.to_dict", .field f => return some (fieldMap f)
  | "Field.from_dict", _ =>
    return some (.field (← Field.ofDescription (← argument arguments "data")))
  | "Module.from_dict", _ =>
    let es ← (← argument arguments "data").entriesOfMap
    return some (.declaration (← Declaration.ofEntries es))
  | "TypeAdapter.validate_python", .object (.made _ parts) => adapted m parts arguments
  | name, .object (.made kind _) => ofShape? m kind (Member.lastName name) arguments
  | _, _ => return none

/-! ## Making objects -/

/-- Arguments by place and by name, as a map by the names of parameters. -/
def byName (names : List String) (placed : List Value) (named : Entries) :
    Except Failure Entries := do
  if names.length < placed.length then throw .wrongKind
  let front := (names.zip placed).map fun (s, v) => (Value.text s, v)
  if named.any fun e => front.any fun n => n.1.same e.1 then throw .wrongKind
  return front ++ named

/-- A contract from its members, of which the fields must be rows of fields. -/
def contractOf? (es : Entries) : Option Value := do
  let fields (name : String) : Option (List Field) :=
    match es.get? name with
    | none => some []
    | some (.tuple vs) => (fieldsOf (.tuple vs)).toOption
    | some _ => none
  return .contract {
    inputs := ← fields "inputs"
    outputs := ← fields "outputs"
    instructions := (es.getD "instructions").present?
    inputSchema := (es.getD "input_schema").present?
    outputSchema := (es.getD "output_schema").present? }

/-- The names of the members of a property. -/
def propertyNames : List String := ["name", "tag", "description", "required", "metadata"]

/-- An object of a kind from the arguments for its members; nothing where it is not followed up. -/
def made? (m : Machine) (kind : String) (placed : List Value) (named : Entries) :
    Evaluation (Option Value) := do
  match kind with
  | "Field" => return some (.field (← Field.ofArguments (← byName Field.arguments placed named)))
  | "Module" => do
    return some (.declaration
      (← Declaration.ofArguments (← byName Declaration.members placed named)))
  | "NormalizedModule" => do
    let es ← byName Declaration.members placed named
    if es.all fun e => Declaration.members.any e.1.isText then return contractOf? es
    else throw .wrongKind
  | "SchemaProperty" => do
    let es ← byName propertyNames placed named
    match es.get? "name", es.get? "tag", es.all fun e => propertyNames.any e.1.isText with
    | some name, some tag, true =>
      return some (.object (.made kind
        [("name", name), ("tag", tag), ("description", es.getD "description"),
          ("required", (es.get? "required").getD (.bool true)),
          ("metadata", (es.get? "metadata").getD (.map []))]))
    | _, _, _ => throw .wrongKind
  | "TypeAdapter" =>
    match placed with
    | [type] => do
      let _ ← TypeCheck.Demand.ofType m type
      return some (.object (.made kind [("type", type)]))
    | _ => throw .wrongKind
  | "SchemaEngine" => throw .wrongKind
  | kind =>
    if (Known.shapes.lookup kind).isSome then
      if placed.isEmpty && named.isEmpty then return some (.object (.made kind []))
      else throw .wrongKind
    else return none

/-- What functions that places know give, by name: those that belong to a value, those that make an
object of a kind, and others. -/
def tell (m : Machine) (name : String) (self : Option Value) (arguments : Arguments) :
    Evaluation (Option Value) := do
  match self, arguments with
  | some v, arguments => ofValue? m name v arguments
  | none, [("arguments", .tuple placed), ("names", .map named)] => do
    let placed ← placed.mapM settled
    let named ← named.mapM fun (k, v) => do return (k, ← settled v)
    made? m name placed named
  | none, arguments =>
    -- A function that is told without its value takes it as its first argument.
    match arguments, name.splitOn "." with
    | ("self", v) :: rest, [_, _] => do ofValue? m name (← opened v) rest
    | arguments, _ => ofFunction? m name arguments

end Offer

/-- The machine for all expressions. -/
def Machine.full (complexRules : String) : Machine :=
  Machine.ofDepth complexRules Offer.tell Machine.depthLimit

end PromptContract
