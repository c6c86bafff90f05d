import PromptContract.Libraries.Evaluation.Reference
import PromptContract.Libraries.TypeCheck.Demand

/-!
# The demand that a type makes

`Demand.ofType` reads a type as a demand. Notes put their bounds on the type behind them, a union
with the type of null allows null, and a union of one other type is that type. A name refers to the
type that its text evaluates to. Values that are no types make no demand, which is a failure; so is
a bound that a type cannot have.
-/

namespace PromptContract.TypeCheck

namespace Demand

/-- The types whose values are records by themselves. -/
def recordTypeNames : List String :=
  ["Field", "Module", "NormalizedModule", "PredictOptions", "SchemaProperty"]

/-- The demand of a type without parameters. Most of those that are known by their names only make
none. -/
def ofBuiltin : BuiltinType → Except Failure Demand
  | .str => .ok (.text [])
  | .int => .ok (.integer [])
  | .float => .ok (.real [])
  | .complex => .ok .complex
  | .bool => .ok .bool
  | .list => .ok (.list [])
  | .dict => .ok (.map .anything .anything [])
  | .bytes => .ok (.bytes [])
  | .object => .ok .anything
  | .none => .ok .null
  | .tuple => .ok (.tupleOf .anything [])
  | .set => .ok (.set false .anything [])
  | .frozenset => .ok (.set true .anything [])
  | .type => .ok .someType
  | .other "FieldType" => .ok (.instanceOf true "FieldType")
  | .other name =>
    if recordTypeNames.contains name then .ok (.instanceOf false name) else .error .notAType

/-- The demand of a type of lists. -/
def ofItems : Demand → Demand
  | .anything => .list []
  | item => .listOf item []

/-- The demand of a union, of which null may be a member. -/
def ofUnion (allowsNull : Bool) (members : List Demand) : Demand :=
  let d := match members with
    | [one] => one
    | members => .oneOf members
  if allowsNull then .nullable d else d

/-- The types that a map may give by name. -/
def ofKindName? (name : String) : Option Demand :=
  [("any", anything), ("none", .null), ("bool", .bool), ("bytes", .bytes []), ("str", .text []),
    ("int", .integer []), ("float", .real []), ("complex", .complex),
    ("dict", .map .anything .anything []), ("list", .list [])].lookup name

/-- A demand within a bound if it takes such bounds, else without it. -/
def withOwnBound (d : Demand) (b : Bound) : Demand :=
  match d.withBound b with
  | .bounded .. => d
  | d => d

/-- The demand of a map that stands for a type: it gives the name of one, and perhaps bounds. -/
def ofMap (es : Entries) : Except Failure Demand :=
  match es.get? "type" with
  | none => .error .missingEntry
  | some v =>
    match v.comparedText?.bind ofKindName? with
    | some d => .ok ((Bound.ofNote (.map es)).foldl withOwnBound d)
    | none => .ok .unknown

/-- The demand of the types below a type. -/
def ofSubtypes : Value → Except Failure Demand
  | .anyType => .ok .someType
  | .builtin t => .ok (.subtype t)
  | .null => .ok (.subtype .none)
  | .record name _ | .itself name => .ok (.subtype (.other name))
  | .generic .. => .error .reservedName
  | .annotated base _ => ofSubtypes base
  | .union _ members => do return .oneOf (← ofAll members)
  | _ => .error .wrongKind
where
  /-- The demands of types below several types. -/
  ofAll : List Value → Except Failure (List Demand)
    | [] => .ok []
    | v :: vs => do
      let d ← ofSubtypes v
      return d :: (← ofAll vs)

/-- Whether a value is the mark that stands for any number of items. -/
def isEllipsis : Value → Bool
  | .object .ellipsis => true
  | _ => false

/-- The demand of a type with parameters, from the demands of these. A type of lists or sets looks
at the first parameter only, and one of maps at the first two. -/
def ofGeneric (origin : BuiltinType) (arguments : List Value)
    (demands : List (Evaluation Demand)) : Evaluation Demand := do
  match origin, arguments, demands with
  | .tuple, [], _ | .tuple, [.tuple []], _ => return .tuple [] []
  | .tuple, arguments, demands =>
    if (arguments.getLast?.map isEllipsis).getD false then
      match demands with
      | [item, _] => return .tupleOf (← item) []
      | _ => throw .unreadable
    else return .tuple (← demands.mapM id) []
  | origin, [], _ => ofBuiltin origin
  | .list, _, item :: _ => return ofItems (← item)
  | .set, _, item :: _ => return .set false (← item) []
  | .frozenset, _, item :: _ => return .set true (← item) []
  | .dict, _, key :: item :: _ =>
    let key ← key
    return .map key (← item) []
  | .dict, _, _ => throw .wrongKind
  | .type, type :: _, _ => ofSubtypes type
  | _, _, _ => throw .notAType

/-- The demand of maps with texts as keys. -/
def ofTexts : Demand := .map (.text []) .anything []

/-- The demand of what can be read as a contract. -/
def ofContracts : Demand :=
  .oneOf [.instanceOf false "Module", .instanceOf false "NormalizedModule", ofTexts]

/-- The demands of functions that places know on their parameters, where they have any. -/
def ofParameters : List (String × List (String × Demand)) :=
  [("validate_against", [("value", ofTexts), ("side", .text [])]),
    ("validate_inputs", [("inputs", ofTexts)]), ("validate_outputs", [("outputs", ofTexts)]),
    ("_present", [("value", ofTexts)]),
    ("_check_field_specs", [("value", ofTexts), ("side", .text [])]),
    ("normalize_module", [("module", ofContracts)]), ("Field.from_dict", [("data", ofTexts)]),
    ("Module.from_dict", [("data", ofTexts)]),
    ("JsonSchemaEngine.properties", [("schema", ofTexts)]),
    ("JsonSchemaEngine._validator", [("schema", ofTexts)]),
    ("JsonSchemaEngine.validate", [("schema", ofTexts)]),
    ("JsonSchemaEngine.explain", [("schema", ofTexts)]),
    ("FieldMapSchemaEngine.properties", [("schema", ofTexts)]),
    ("FieldMapSchemaEngine.to_model", [("schema", ofTexts)]),
    ("FieldMapSchemaEngine.validate", [("schema", ofTexts)]),
    ("FieldMapSchemaEngine.explain", [("schema", ofTexts)]),
    ("PydanticSchemaEngine.properties", [("schema", .subtype (.other "BaseModel"))]),
    ("PydanticSchemaEngine.validate", [("schema", .subtype (.other "BaseModel"))]),
    ("PydanticSchemaEngine.explain", [("schema", .subtype (.other "BaseModel"))])]

/-- The demands of a function of a name on its parameters. Most take anything. -/
def parametersOf (name : String) (parameters : List (ParameterOf Value)) :
    List (ParameterDemandOf Demand) :=
  parameters.map fun p =>
    let demand := ((ofParameters.lookup name).bind (·.lookup p.name)).getD .anything
    ⟨p.kind, p.name, p.default.isNone, demand⟩

/-- The demand of arguments for a function of a name. -/
def ofFunction (name : String) (parameters : List (ParameterOf Value)) (function : Value) :
    Demand :=
  .callArguments (Member.lastName name) (parametersOf name parameters) function

/-- Whether a type stands for null in a union. -/
def isNullType : Value → Bool
  | .builtin .none => true
  | _ => false

/-- Whether a member of a union is a name. -/
def isReference : Value → Bool
  | .reference _ => true
  | _ => false

mutual
/-- Whether a type has a name in it that is looked up. -/
def refers : Value → Bool
  | .reference _ | .text _ => true
  | .union _ members => referAll members
  | .generic _ _ arguments => referAll arguments
  | .annotated base _ => refers base
  | _ => false
termination_by structural v => v

/-- Whether one of several types has a name in it that is looked up. -/
def referAll : List Value → Bool
  | [] => false
  | v :: vs => refers v || referAll vs
termination_by structural vs => vs
end

mutual
/-- The demand of a type; `find` gives the demands of the types that names refer to. -/
def build (find : Name → Evaluation Demand) : Value → Evaluation Demand
  | .builtin t | .typeName _ t => ofBuiltin t
  | .anyType => return .anything
  | .null => return .null
  | .text s => find (.given s)
  | .fieldType t => find (.ofType t)
  | .reference name => find name
  | .union _ members => do
    let (allowsNull, demands) ← buildMembers find members
    return ofUnion allowsNull demands
  | .generic _ origin arguments => ofGeneric origin arguments (buildEach find arguments)
  | .annotated base notes => do
    return (Bound.ofNotes notes).foldl withBound (← build find base)
  | .record name fields =>
    -- A record that has a field of an unknown type is not ready to be used.
    if fields.any fun f => refers f.type then throw .undefinedType
    else do return .record name (← buildFields find fields)
  | .itself name => return .again name
  | .map es => ofMap es
  | v@(.object (.function parameters _ _ _)) => return ofFunction "<lambda>" parameters v
  | v@(.object (.given name parameters _)) => return ofFunction name parameters v
  | v@(.object (.foreign true)) => return ofFunction "<lambda>" Known.anything v
  | .field _ | .declaration _ | .contract _ | .options _ => throw .missingMember
  | _ => throw .notAType
termination_by structural v => v

/-- The demands of the parameters of a type, each by itself. -/
def buildEach (find : Name → Evaluation Demand) : List Value → List (Evaluation Demand)
  | [] => []
  | v :: vs => build find v :: buildEach find vs
termination_by structural vs => vs

/-- Whether null is among the members of a union, and the demands of the others. A name may refer to
the type of null. -/
def buildMembers (find : Name → Evaluation Demand) :
    List Value → Evaluation (Bool × List Demand)
  | [] => return (false, [])
  | v :: vs => do
    let d ← build find v
    let (allowsNull, demands) ← buildMembers find vs
    match isNullType v || isReference v, d with
    | true, .null => return (true, demands)
    | _, d => return (allowsNull, d :: demands)
termination_by structural vs => vs

/-- The demands of the fields of a record. -/
def buildFields (find : Name → Evaluation Demand) :
    List (RecordFieldOf Value) → Evaluation (List (FieldDemandOf Demand))
  | [] => return []
  | ⟨name, type, _, required⟩ :: fields => do
    let demand ← build find type
    return ⟨name, required, demand⟩ :: (← buildFields find fields)
termination_by structural fields => fields
end

/-- The demand of the type that a name refers to. -/
def ofName (m : Machine) (name : Name) : Evaluation Demand := do
  build (fun _ => throw .undefinedType) (← Reference.resolvedFully m name)

/-- The demand of a type, which can be checked. -/
def ofType (m : Machine) (type : Value) : Evaluation Demand := do
  (← build (ofName m) type).settled

end Demand

end PromptContract.TypeCheck
