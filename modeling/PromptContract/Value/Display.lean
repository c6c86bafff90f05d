import PromptContract.Value.Equality
import PromptContract.Number.Shortest

/-!
# The written form of a value

`Value.quoted` writes a value so that its kind can be seen, texts in quotes; messages and the
insides of lists and maps use it. `Value.display` is what a prompt shows: a text stands there as it
is, every other value as `quoted` writes it. `Value.kind` names the kind of a value in messages.
-/

namespace PromptContract

/-- The name of a type without parameters. -/
def BuiltinType.name : BuiltinType → String
  | .str => "str"
  | .int => "int"
  | .float => "float"
  | .complex => "complex"
  | .bool => "bool"
  | .list => "list"
  | .dict => "dict"
  | .bytes => "bytes"
  | .object => "object"
  | .none => "NoneType"
  | .tuple => "tuple"
  | .set => "set"
  | .frozenset => "frozenset"
  | .type => "type"
  | .other name => name

namespace Value

/-- The name of the kind of a stream. -/
def streamKind : StreamOf Value → String
  | .ready kind _ | .watched kind .. => kind
  | .row .. => "list_iterator"
  | .range .. => "range_iterator"
  | .generator .. => "generator"
  | .mapped .. => "map"
  | .filtered .. => "filter"
  | .abreast .. => "zip"
  | .numbered .. => "enumerate"
  | .called .. => "callable_iterator"

/-- Whether a name has two underscores at both ends. -/
def isInner (s : String) : Bool := s.startsWith "__" && s.endsWith "__"

/-- The name of the kind of a function that a type offers for its values, or of one without a
type. -/
def routineKind (name : String) : String :=
  match name.splitOn "." with
  | [_, s] =>
    if s == "__new__" then "builtin_function_or_method"
    else if isInner s then "wrapper_descriptor" else "method_descriptor"
  | _ => if name == "Optional" then "_SpecialForm" else "builtin_function_or_method"

/-- The name of a part of a map in the names of kinds. -/
def partName : MapPart → String
  | .keys => "keys"
  | .values => "values"
  | .items => "items"

/-- The name of the kind of an object of expressions. -/
def objectKind : ObjectOf Value → String
  | .ellipsis => "ellipsis"
  | .notOffered => "NotImplementedType"
  | .bytes _ => "bytes"
  | .byteArray _ => "bytearray"
  | .nan _ => "float"
  | .complex _ => "complex"
  | .set false .. => "set"
  | .set true .. => "frozenset"
  | .range .. => "range"
  | .slice .. => "slice"
  | .view part _ => "dict_" ++ partName part
  | .function .. | .given _ _ none | .foreign true => "function"
  | .given _ _ (some _) => "method"
  | .stream s => streamKind s
  | .held _ => "iterator"
  | .around _ kind => kind
  | .routine name => routineKind name
  | .method _ name => if isInner name then "method-wrapper" else "builtin_function_or_method"
  | .hash _ => "int"
  | .made kind _ => kind
  | .foreign false => "object"

/-- The name of a value's kind. -/
def kind : Value → String
  | .null => "NoneType"
  | .bool _ => "bool"
  | .int _ => "int"
  | .float _ => "float"
  | .text _ => "str"
  | .list _ => "list"
  | .tuple _ => "tuple"
  | .map _ => "dict"
  | .builtin (.other "FieldType") => "EnumType"
  | .builtin _ => "type"
  | .anyType => "_AnyMeta"
  | .union .named _ => "_UnionGenericAlias"
  | .union .bars _ => "UnionType"
  | .generic (some _) .. => "_GenericAlias"
  | .generic none .. => "GenericAlias"
  | .typeName .. => "_SpecialGenericAlias"
  | .annotated .. => "_AnnotatedAlias"
  | .reference _ => "ForwardRef"
  | .unpacked _ => "_UnpackGenericAlias"
  | .record .. | .itself _ => "ModelMetaclass"
  | .fieldType _ => "FieldType"
  | .field _ => "Field"
  | .declaration _ => "Module"
  | .contract _ => "NormalizedModule"
  | .options _ => "PredictOptions"
  | .object o => objectKind o
  | .thing => "object"

/-- Joins the parts of a row in brackets. -/
def bracketed (opening : String) (parts : List String) (closing : String) : String :=
  opening ++ ", ".intercalate parts ++ closing

/-- The written form of a truth value. -/
def boolText (b : Bool) : String := if b then "True" else "False"

/-- Writes a union of types from the names of its members. A union of one type with the type of null
is an optional type. -/
def unionName (style : UnionStyle) (names : List String) : String :=
  match style, names with
  | .named, ["NoneType", one] | .named, [one, "NoneType"] => "typing.Optional[" ++ one ++ "]"
  | .named, names => bracketed "typing.Union[" names "]"
  | .bars, names => " | ".intercalate (names.map fun n => if n == "NoneType" then "None" else n)

/-- Writes a tuple from its parts: a single part is followed by a comma. -/
def tupled : List String → String
  | [one] => "(" ++ one ++ ",)"
  | parts => bracketed "(" parts ")"

/-- Writes one byte between quotes of the given kind. -/
def byteText (mark : Char) (b : Nat) : List Char :=
  if 0x20 ≤ b && b < 0x7F then
    let c := Char.ofNat b
    if c == '\\' || c == mark then ['\\', c] else [c]
  else if b == 0x09 then ['\\', 't']
  else if b == 0x0A then ['\\', 'n']
  else if b == 0x0D then ['\\', 'r']
  else '\\' :: 'x' :: Text.hex 2 b

/-- Writes bytes in quotes. -/
def bytesText (bs : List Nat) : String :=
  let mark := Text.quoteMark (bs.map Char.ofNat)
  String.ofList ('b' :: mark :: bs.flatMap (byteText mark) ++ [mark])

/-- Writes a set from its parts. -/
def setText (isFrozen : Bool) (parts : List String) : String :=
  match isFrozen, parts with
  | false, [] => "set()"
  | true, [] => "frozenset()"
  | false, parts => bracketed "\x7b" parts "\x7d"
  | true, parts => bracketed "frozenset(\x7b" parts "\x7d)"

/-- Writes a range, with its step unless that is one. -/
def rangeText (start stop step : Int) : String :=
  bracketed "range(" ([start, stop].map toString ++ (if step == 1 then [] else [toString step])) ")"

/-- Writes a function with a name, which may be one that a type offers for its values. -/
def routineText (name : String) : String :=
  match name.splitOn "." with
  | [t, s] =>
    let (head, tail) := if isInner s then ("slot wrapper", "objects") else ("method", "objects")
    "<" ++ head ++ " '" ++ s ++ "' of '" ++ t ++ "' " ++ tail ++ ">"
  | _ => "<built-in function " ++ name ++ ">"

/-- Writes a type with parameters from their names. -/
def genericName (label : Option String) (origin : String) (names : List String) : String :=
  let head := match label with
    | some name => "typing." ++ name
    | none => origin
  bracketed (head ++ "[") (if names.isEmpty then ["()"] else names) "]"

/-- The names of bounds with the words that they are written with, in the order in which those of
one note stand. -/
def boundWords : List (String × String) :=
  [("gt", "Gt"), ("ge", "Ge"), ("lt", "Lt"), ("le", "Le"), ("min_length", "MinLen"),
    ("max_length", "MaxLen")]

/-- Writes a note that sets bounds, from the written limits by name. -/
def boundNote (limits : List (String × String)) : String :=
  let bounds := boundWords.filterMap fun (name, word) =>
    (limits.lookup name).map fun limit => word ++ "(" ++ name ++ "=" ++ limit ++ ")"
  bracketed "FieldInfo(" (["annotation=NoneType", "required=True"]
    ++ (if bounds.isEmpty then [] else ["metadata=" ++ bracketed "[" bounds "]"])) ")"

mutual
/-- Writes a value with its kind visible. Inside the name of another type a type is written by its
bare name. -/
def written (insideType : Bool) : Value → String
  | .null => "None"
  | .bool b => boolText b
  | .int n => toString n
  | .float x => Decimal.text x
  | .text s => Text.quote s
  | .list items => bracketed "[" (writtenItems false items) "]"
  | .tuple items => tupled (writtenItems false items)
  | .map entries => bracketed "\x7b" (writtenEntries entries) "\x7d"
  | .builtin t => if insideType then t.name else "<class '" ++ t.name ++ "'>"
  | .anyType => "typing.Any"
  | .union style members => unionName style (writtenItems true members)
  | .generic label origin arguments => genericName label origin.name (writtenItems true arguments)
  | .typeName name _ => "typing." ++ name
  | .annotated base notes =>
    bracketed "typing.Annotated[" (written true base :: writtenNotes notes) "]"
  | .record name _ | .itself name => if insideType then name else "<class '" ++ name ++ "'>"
  | .reference name => "ForwardRef(" ++ name.quoted ++ ")"
  | .unpacked type => "*" ++ written true type
  | .fieldType t => t.quoted
  | .field f => writtenField f
  | .declaration ⟨inputs, outputs, instructions, inputSchema, outputSchema⟩ =>
    bracketed "Module(" [
      "inputs=" ++ writtenFieldsIfAny inputs, "outputs=" ++ writtenFieldsIfAny outputs,
      "instructions=" ++ writtenIfAny instructions, "input_schema=" ++ writtenIfAny inputSchema,
      "output_schema=" ++ writtenIfAny outputSchema] ")"
  | .contract ⟨inputs, outputs, instructions, inputSchema, outputSchema⟩ =>
    bracketed "NormalizedModule(" [
      "inputs=" ++ tupled (writtenFields inputs), "outputs=" ++ tupled (writtenFields outputs),
      "instructions=" ++ writtenIfAny instructions, "input_schema=" ++ writtenIfAny inputSchema,
      "output_schema=" ++ writtenIfAny outputSchema] ")"
  | .options ⟨model, validate, debounceMs, apiKey, providerOptions⟩ =>
    bracketed "PredictOptions(" [
      "model=" ++ written false model, "validate=" ++ written false validate,
      "debounce_ms=" ++ written false debounceMs, "api_key=" ++ written false apiKey,
      "provider_options=" ++ written false providerOptions] ")"
  | .object o => writtenObject insideType o
  | .thing => "<object object>"
termination_by structural v => v

/-- Writes an object of expressions. -/
def writtenObject (insideType : Bool) : ObjectOf Value → String
  | .ellipsis => if insideType then "..." else "Ellipsis"
  | .bytes bs => bytesText bs
  | .complex z => z.text
  | .set isFrozen items _ => setText isFrozen (writtenItems false items)
  | .range start stop step => rangeText start stop step
  | .slice start stop step =>
    bracketed "slice(" [written false start, written false stop, written false step] ")"
  | .notOffered => "NotImplemented"
  | .byteArray bs => "bytearray(" ++ bytesText bs ++ ")"
  | .nan _ => "nan"
  | .view part (.map es) =>
    bracketed ("dict_" ++ partName part ++ "([") (writtenPart part es) "])"
  | .routine name => routineText name
  | .around _ "list" => "[...]"
  | .around _ "dict" => "\x7b...\x7d"
  | .around _ kind => kind ++ "(...)"
  | .made kind [("args", .tuple vs)] => bracketed (kind ++ "(") (writtenItems false vs) ")"
  | .made kind parts =>
    if kind == "SchemaProperty" then bracketed (kind ++ "(") (writtenParts parts) ")"
    else "<" ++ kind ++ " object>"
  | o => "<" ++ objectKind o ++ " object>"
termination_by structural o => o

/-- The parts of an object with their names. -/
def writtenParts : List (String × Value) → List String
  | [] => []
  | (s, v) :: ps => (s ++ "=" ++ written false v) :: writtenParts ps
termination_by structural ps => ps

/-- What of a map is gone through. -/
def writtenPart (part : MapPart) : List (Value × Value) → List String
  | [] => []
  | (k, v) :: es =>
    let text := match part with
      | .keys => written false k
      | .values => written false v
      | .items => bracketed "(" [written false k, written false v] ")"
    text :: writtenPart part es
termination_by structural es => es

/-- The parts of a row. -/
def writtenItems (insideType : Bool) : List Value → List String
  | [] => []
  | v :: vs => written insideType v :: writtenItems insideType vs
termination_by structural vs => vs

/-- The notes of a type. -/
def writtenNotes : List Value → List String
  | [] => []
  | .map es :: vs => boundNote (writtenLimits es) :: writtenNotes vs
  | v :: vs => written false v :: writtenNotes vs
termination_by structural vs => vs

/-- The limits that a note sets, by name. Null sets none. -/
def writtenLimits : List (Value × Value) → List (String × String)
  | [] => []
  | (_, .null) :: es => writtenLimits es
  | (k, v) :: es => ((k.comparedText?).getD "", written false v) :: writtenLimits es
termination_by structural es => es

/-- The entries of a map, key and value with a colon between them. -/
def writtenEntries : List (Value × Value) → List String
  | [] => []
  | (k, v) :: es => (written false k ++ ": " ++ written false v) :: writtenEntries es
termination_by structural es => es

/-- A value that may be absent, which is written as null is. -/
def writtenIfAny : Option Value → String
  | none => "None"
  | some v => written false v
termination_by structural v => v

/-- A field with all its members. -/
def writtenField : FieldOf Value → String
  | ⟨name, type, description, required, spec⟩ =>
    bracketed "Field(" [
      "name=" ++ name.quoted, "type=" ++ type.quoted,
      "description=" ++ written false description, "required=" ++ written false required,
      "spec=" ++ writtenIfAny spec] ")"
termination_by structural f => f

/-- The fields of one side. -/
def writtenFields : List (FieldOf Value) → List String
  | [] => []
  | f :: fs => writtenField f :: writtenFields fs
termination_by structural fs => fs

/-- A list of fields that may be absent. -/
def writtenFieldsIfAny : Option (List (FieldOf Value)) → String
  | none => "None"
  | some fs => bracketed "[" (writtenFields fs) "]"
termination_by structural fs => fs
end

/-- A value with its kind visible: texts in quotes, types by name. -/
def quoted (v : Value) : String := v.written false

/-- What a prompt shows for a value: a text as it is, and every other value in its written form. -/
def display : Value → String
  | .text s => s
  | .fieldType t => t.display
  | .object (.made kind [("args", .tuple vs)]) =>
    match kind, vs with
    | _, [] => ""
    | "KeyError", [v] => v.quoted
    | _, [.text s] => s
    | _, [v] => v.quoted
    | _, vs => (Value.tuple vs).quoted
  | v => v.quoted

end Value

end PromptContract
