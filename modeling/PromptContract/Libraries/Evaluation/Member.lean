import PromptContract.Contract
import PromptContract.Libraries.Evaluation.Arithmetic
import PromptContract.Libraries.Evaluation.Known

/-!
# Members

What a value offers under a name (`Value.member`): what it is made of, and what can be called on it,
which is kept with the value for a later call. A type offers what its values offer, as functions
that take the value first, and what only types have.
-/

namespace PromptContract

namespace Member

/-- The names in a line. -/
def words (line : String) : List String := line.splitOn " "

/-- The names that every value offers something under. -/
def shared : List String :=
  words ("__class__ __delattr__ __dir__ __doc__ __eq__ __format__ __ge__ __getattribute__ "
    ++ "__getstate__ __gt__ __hash__ __init__ __init_subclass__ __le__ __lt__ __ne__ __new__ "
    ++ "__reduce__ __reduce_ex__ __repr__ __setattr__ __sizeof__ __str__ __subclasshook__")

/-- The names of numbers. -/
def ofNumbers : List String :=
  words ("__abs__ __add__ __bool__ __getnewargs__ __mul__ __neg__ __pos__ __pow__ __radd__ "
    ++ "__rmul__ __rpow__ __rsub__ __rtruediv__ __sub__ __truediv__ conjugate imag real")

/-- The names of numbers that have an order. -/
def ofReals : List String :=
  words ("__ceil__ __divmod__ __float__ __floor__ __floordiv__ __int__ __mod__ __rdivmod__ "
    ++ "__rfloordiv__ __rmod__ __round__ __trunc__ as_integer_ratio")

/-- The names of integers. -/
def ofIntegers : List String :=
  words ("__and__ __index__ __invert__ __lshift__ __or__ __rand__ __rlshift__ __ror__ "
    ++ "__rrshift__ __rshift__ __rxor__ __xor__ bit_count bit_length denominator from_bytes "
    ++ "numerator to_bytes")

/-- The names of rows. -/
def ofRows : List String :=
  words "__add__ __contains__ __getitem__ __iter__ __len__ __mul__ __rmul__ count index"

/-- The names of rows of characters or bytes. -/
def ofStrings : List String :=
  words ("__getnewargs__ __mod__ __rmod__ capitalize center endswith expandtabs find isalnum "
    ++ "isalpha isascii isdigit islower isspace istitle isupper join ljust lower lstrip "
    ++ "maketrans partition removeprefix removesuffix replace rfind rindex rjust rpartition "
    ++ "rsplit rstrip split splitlines startswith strip swapcase title translate upper zfill")

/-- The names of sets that cannot change. -/
def ofSets : List String :=
  words ("__and__ __class_getitem__ __contains__ __iter__ __len__ __or__ __rand__ __ror__ "
    ++ "__rsub__ __rxor__ __sub__ __xor__ copy difference intersection isdisjoint issubset "
    ++ "issuperset symmetric_difference union")

/-- The names of types. -/
def ofTypes : List String :=
  words ("__abstractmethods__ __annotations__ __base__ __bases__ __basicsize__ __call__ "
    ++ "__dict__ __dictoffset__ __flags__ __instancecheck__ __itemsize__ __module__ __mro__ "
    ++ "__name__ __or__ __prepare__ __qualname__ __ror__ __subclasscheck__ __subclasses__ "
    ++ "__text_signature__ __weakrefoffset__ mro")

/-- The names of parts of maps that are like sets. -/
def ofParts : List String :=
  words ("__and__ __contains__ __iter__ __len__ __or__ __rand__ __reversed__ __ror__ __rsub__ "
    ++ "__rxor__ __sub__ __xor__ isdisjoint mapping")

/-- The names of the values of types that are known by their names only. -/
def ofOthers : String → List String
  | "range" =>
    words ("__bool__ __contains__ __getitem__ __iter__ __len__ __reversed__ count index start "
      ++ "step stop")
  | "slice" => words "indices start step stop"
  | "bytearray" =>
    ofRows ++ ofStrings ++ words ("__delitem__ __iadd__ __imul__ __setitem__ append clear copy "
      ++ "decode extend fromhex hex insert pop remove reverse")
  | "function" =>
    words ("__annotations__ __builtins__ __call__ __closure__ __code__ __defaults__ __dict__ "
      ++ "__get__ __globals__ __kwdefaults__ __module__ __name__ __qualname__")
  | "method" => words "__call__ __func__ __get__ __name__ __qualname__ __self__"
  | "method_descriptor" | "wrapper_descriptor" =>
    words "__call__ __get__ __name__ __objclass__ __qualname__ __text_signature__"
  | "builtin_function_or_method" | "method-wrapper" =>
    words "__call__ __module__ __name__ __qualname__ __self__ __text_signature__"
  | "generator" =>
    words ("__del__ __iter__ __name__ __next__ __qualname__ close gi_code gi_frame gi_running "
      ++ "gi_suspended gi_yieldfrom send throw")
  | "dict_keys" | "dict_items" => ofParts
  | "dict_values" => words "__iter__ __len__ __reversed__ mapping"
  | "enumerate" => words "__class_getitem__ __iter__ __next__"
  | "map" | "zip" | "filter" => words "__iter__ __next__"
  | "GenericAlias" =>
    words ("__args__ __call__ __getitem__ __instancecheck__ __iter__ __mro_entries__ __or__ "
      ++ "__origin__ __parameters__ __ror__ __subclasscheck__ __typing_unpacked_tuple_args__ "
      ++ "__unpacked__")
  | "UnionType" => words "__args__ __getitem__ __or__ __parameters__ __ror__"
  | "NotImplementedType" => ["__bool__"]
  | name =>
    if BuiltinType.failures.contains name then
      words ("__cause__ __context__ __dict__ __setstate__ __suppress_context__ __traceback__ "
        ++ "add_note args with_traceback")
    else if name.endsWith "iterator" || name == "reversed" then
      words "__iter__ __length_hint__ __next__ __setstate__"
    else []

/-- The names that the values of a type offer something under, besides those of all values. -/
def own : BuiltinType → List String
  | .int | .bool => ofNumbers ++ ofReals ++ ofIntegers
  | .float => ofNumbers ++ ofReals ++ words "__getformat__ fromhex hex is_integer"
  | .complex => "__complex__" :: ofNumbers
  | .str =>
    ofRows ++ ofStrings ++ words ("casefold encode format format_map isdecimal isidentifier "
        ++ "isnumeric isprintable")
  | .bytes => ofRows ++ ofStrings ++ words "__bytes__ decode fromhex hex"
  | .list =>
    ofRows ++ words ("__class_getitem__ __delitem__ __iadd__ __imul__ __reversed__ __setitem__ "
        ++ "append clear copy extend insert pop remove reverse sort")
  | .tuple => ofRows ++ words "__class_getitem__ __getnewargs__"
  | .dict =>
    words ("__class_getitem__ __contains__ __delitem__ __getitem__ __ior__ __iter__ __len__ "
      ++ "__or__ __reversed__ __ror__ __setitem__ clear copy fromkeys get items keys pop "
      ++ "popitem setdefault update values")
  | .set =>
    ofSets ++ words ("__iand__ __ior__ __isub__ __ixor__ add clear difference_update discard "
        ++ "intersection_update pop remove symmetric_difference_update update")
  | .frozenset => ofSets
  | .none => ["__bool__"]
  | .type => ofTypes
  | .object => []
  | .other "FieldType" => ofRows ++ ofStrings ++ ["name", "value"]
  | .other name => ofOthers name

/-- The names that stand for what a value is made of and cannot be called. -/
def parts : List String :=
  words ("real imag numerator denominator start stop step __dict__ __module__ __name__ "
    ++ "__qualname__ __annotations__ __builtins__ __closure__ __code__ __defaults__ __globals__ "
    ++ "__kwdefaults__ __self__ __text_signature__ gi_code gi_frame gi_running gi_suspended "
    ++ "gi_yieldfrom __args__ __origin__ __parameters__ __typing_unpacked_tuple_args__ "
    ++ "__unpacked__ __abstractmethods__ __base__ __bases__ __basicsize__ __dictoffset__ "
    ++ "__flags__ __itemsize__ __mro__ __weakrefoffset__ __cause__ __context__ "
    ++ "__suppress_context__ __traceback__ args")

/-- The parts of values that their types tell how to get. -/
def describedParts : List String := words "real imag numerator denominator start stop step"

/-- The names under which types offer something that takes the type, not a value, first. -/
def ofWholeType : List String :=
  words ("__class_getitem__ __init_subclass__ __subclasshook__ fromkeys from_bytes fromhex "
    ++ "maketrans __getformat__ __prepare__")

/-- A description of something, which is no expression. -/
def description : Value := .text "A description."

/-- What a number is made of. -/
def ofNumber? (n : Numeric) (s : String) : Option Value :=
  match s, n with
  | "real", .int n | "numerator", .int n => some (.int n)
  | "imag", .int _ => some (.int 0)
  | "denominator", .int _ => some (.int 1)
  | "real", .float x => some (.float x)
  | "imag", .float _ => some (.float .zero)
  | "real", .complex z => some (.float z.re)
  | "imag", .complex z => some (.float z.im)
  | _, _ => none

/-- The last part of a name with points in it. -/
def lastName (name : String) : String := ((name.splitOn ".").getLast?).getD name

/-- The values that parameters have without arguments, and null where none has one. -/
def defaults (parameters : List (ParameterOf Value)) : Value :=
  match (parameters.filter (·.kind != .named)).filterMap (·.default) with
  | [] => .null
  | vs => .tuple vs

/-- What a function is made of. -/
def ofFunction? (name : String) (parameters : List (ParameterOf Value)) (s : String) :
    Option Value :=
  match s with
  | "__name__" => some (.text (lastName name))
  | "__qualname__" => some (.text name)
  | "__defaults__" => some (defaults parameters)
  | _ => none

/-- What an object of expressions is made of. -/
def ofObject? (o : ObjectOf Value) (s : String) : Option Value :=
  match s, o with
  | "start", .range start _ _ => some (.int start)
  | "stop", .range _ stop _ => some (.int stop)
  | "step", .range _ _ step => some (.int step)
  | "start", .slice start _ _ => some start
  | "stop", .slice _ stop _ => some stop
  | "step", .slice _ _ step => some step
  | "mapping", .view _ map => some map
  | "__doc__", .function .. | "__doc__", .stream (.generator ..) | "__closure__", .function .. =>
    some .null
  | "__kwdefaults__", .function .. => some .null
  | s, .function parameters _ _ _ => ofFunction? "<lambda>" parameters s
  | "__name__", .stream (.generator ..) => some (.text "<genexpr>")
  | "gi_running", .stream (.generator ..) => some (.bool false)
  | "gi_yieldfrom", .stream (.generator ..) => some .null
  | "__self__", .given _ _ (some v) => some v
  | s, .given name parameters _ => ofFunction? name parameters s
  | "__name__", .routine name => some (.text (lastName name))
  | "__qualname__", .routine name => some (.text name)
  | "__name__", .method _ name => some (.text name)
  | "__qualname__", .method v name => some (.text (v.kind ++ "." ++ name))
  | "__self__", .method v _ => some v
  | "name", .made kind [] => (Known.shapes.lookup kind).map .text
  | "__cause__", .made _ [("args", _)] | "__context__", .made _ [("args", _)]
  | "__traceback__", .made _ [("args", _)] => some .null
  | "__suppress_context__", .made _ [("args", _)] => some (.bool false)
  | "value", .made "StopIteration" [("args", .tuple vs)] => some ((vs.head?).getD .null)
  | s, .made kind parts =>
    (parts.lookup s).or (Known.bound? Known.ofKind kind (.object (.made kind parts)) s)
  | _, _ => none

/-- The names of the members of a field with what they are without an argument. -/
def fieldDefaults : List (String × Value) :=
  [("type", .null), ("description", .text ""), ("required", .bool true), ("spec", .null)]

/-- The names of members as a type tells them. -/
def memberNames? : String → Option (List String)
  | "Field" => some Field.arguments
  | "Module" | "NormalizedModule" => some Declaration.members
  | _ => none

/-- What a type that is known by its name is made of. -/
def ofNamedType? (name s : String) : Option Value :=
  match s, name with
  | "__members__", "FieldType" =>
    some (.map (FieldType.all.map fun t => (.text t.name.toUpper, .fieldType t)))
  | s, "FieldType" => (FieldType.ofName? s.toLower).bind fun t =>
      if s == t.name.toUpper then some (.fieldType t) else none
  | "__match_args__", name => (memberNames? name).map fun names => .tuple (names.map .text)
  | s, name =>
    (if name == "Field" then fieldDefaults.lookup s else none).or
      ((Known.bound? Known.ofWholeKind name (.builtin (.other name)) s).or
        (((Known.ofKind name).lookup s).map fun parameters =>
          (Known.function (name ++ "." ++ s, Known.needed "self" :: parameters)).2))

/-- What a type is made of. -/
def ofType? (t : BuiltinType) (s : String) : Option Value :=
  match s, t with
  | "__name__", t | "__qualname__", t => some (.text t.name)
  | "__module__", .other name =>
    if BuiltinType.failures.contains name then some (.text "builtins") else none
  | "__module__", _ => some (.text "builtins")
  | "__base__", t => some ((t.above.head?.map Value.builtin).getD .null)
  | "__bases__", t => some (.tuple ((t.above.take 1).map .builtin))
  | "__mro__", t => some (.tuple ((t :: t.above).map .builtin))
  | "__hash__", .list | "__hash__", .dict | "__hash__", .set | "__hash__", .other "bytearray"
  | "__hash__", .other "Module" | "__hash__", .other "PredictOptions" => some .null
  | s, .other name => ofNamedType? name s
  | _, _ => none

/-- What a type offers. -/
def ofType (t : BuiltinType) (s : String) : Except Failure Value :=
  match ofType? t s with
  | some v => .ok v
  | none =>
    if (shared ++ own t).contains s then
      if ofWholeType.contains s then .ok (.object (.method (.builtin t) s))
      else if describedParts.contains s then
        .ok (.object (.made "getset_descriptor" [("__name__", .text s)]))
      else if parts.contains s then .ok Numeric.unknown
      else .ok (.object (.routine (t.name ++ "." ++ s)))
    else if ofTypes.contains s then
      if parts.contains s then .ok Numeric.unknown else .ok (.object (.method (.builtin t) s))
    else match t with
      | .other _ => if s.startsWith "__" then .ok Numeric.unknown else .error .missingMember
      | _ => .error .missingMember

/-- The fields of a side as a value: a list where they are declared, and a tuple where they are
settled. -/
def fieldsIfAny (fields : Option (List Field)) : Value :=
  (fields.map fun fs => Value.list (fs.map .field)).getD .null

/-- What a field is made of. -/
def fieldParts (f : Field) : List (String × Value) :=
  [("name", f.name.toValue), ("type", .fieldType f.type), ("description", f.description),
    ("required", f.required), ("spec", f.spec.getD .null)]

/-- What a declaration is made of. -/
def declarationParts (d : Declaration) : List (String × Value) :=
  [("inputs", fieldsIfAny d.inputs), ("outputs", fieldsIfAny d.outputs),
    ("instructions", d.instructions.getD .null), ("input_schema", d.inputSchema.getD .null),
    ("output_schema", d.outputSchema.getD .null)]

/-- What a contract is made of. -/
def contractParts (c : Contract) : List (String × Value) :=
  [("inputs", .tuple (c.inputs.map .field)), ("outputs", .tuple (c.outputs.map .field)),
    ("instructions", c.instructions.getD .null), ("input_schema", c.inputSchema.getD .null),
    ("output_schema", c.outputSchema.getD .null)]

/-- What options are made of. -/
def optionParts (o : OptionsOf Value) : List (String × Value) :=
  [("model", o.model), ("validate", o.validate), ("debounce_ms", o.debounceMs),
    ("api_key", o.apiKey), ("provider_options", o.providerOptions)]

/-- What the contract objects are made of. -/
def partsOf? : Value → Option (List (String × Value))
  | .field f => some (fieldParts f)
  | .declaration d => some (declarationParts d)
  | .contract c => some (contractParts c)
  | .options o => some (optionParts o)
  | .object (.made _ parts) => some parts
  | _ => none

/-- What a value offers that its parts tell. -/
def told? (v : Value) (s : String) : Option Value :=
  match s, v with
  | "input_names", .contract c => some (.list (c.inputs.map fun f => f.name.toValue))
  | "output_names", .contract c => some (.list (c.outputs.map fun f => f.name.toValue))
  | "__match_args__", v => (memberNames? v.kind).map fun names => .tuple (names.map .text)
  | "__dict__", v =>
    (partsOf? v).map fun parts => .map (parts.map fun p => (.text p.1, p.2))
  | _, _ => none

/-- What the contract objects offer. -/
def ofContract? (v : Value) (s : String) : Option Value :=
  (((partsOf? v).bind (·.lookup s)).or (told? v s)).or
    ((Known.bound? Known.ofKind v.kind v s).or
      (Known.bound? Known.ofWholeKind v.kind (.builtin v.typeOf) s))

/-- What a type that is made of others is made of. -/
def ofMadeType? (v : Value) (s : String) : Option Value :=
  match s, v with
  | "__args__", .generic _ _ arguments => some (.tuple arguments)
  | "__origin__", .generic _ origin _ | "__origin__", .typeName _ origin => some (.builtin origin)
  | "__parameters__", .generic .. | "__parameters__", .union .. => some (.tuple [])
  | "__args__", .union _ members => some (.tuple members)
  | "__origin__", .annotated base _ => some base
  | "__args__", .annotated base _ => some (.tuple [base])
  | "__metadata__", .annotated _ notes => some (.tuple notes)
  | "__name__", .record name _ | "__qualname__", .record name _ | "__name__", .itself name
  | "__qualname__", .itself name => some (.text name)
  | "__name__", .anyType | "__qualname__", .anyType => some (.text "Any")
  | "__name__", .typeName name _ | "_name", .typeName name _ => some (.text name)
  | "__name__", .generic (some name) .. | "_name", .generic (some name) .. => some (.text name)
  | "__name__", .generic none origin _ => some (.text origin.name)
  | "__forward_arg__", .reference name => some name.toValue
  | _, _ => none

/-- What a value has under a name that it is made of. -/
def part? (v : Value) (s : String) : Option Value :=
  match v with
  | .object o => (ofObject? o s).or ((Numeric.ofValue? v).bind (ofNumber? · s))
  | .fieldType t =>
    match s with
    | "value" | "_value_" => some (.text t.name)
    | "name" | "_name_" => some (.text t.name.toUpper)
    | s => ofNamedType? "FieldType" s
  | v => ((Numeric.ofValue? v).bind (ofNumber? · s)).or ((ofContract? v s).or (ofMadeType? v s))

/-- Whether the values of the type of a value may be keys. -/
def isHashable : Value → Bool
  | .list _ | .map _ | .declaration _ | .options _ => false
  | .object (.set false ..) | .object (.byteArray _) | .object (.slice ..) => false
  | .object (.view part _) => part == .values
  | _ => true

/-- What a value that is not part of it offers under a name. -/
def ofInstance (v : Value) (s : String) : Except Failure Value :=
  if (shared ++ own v.typeOf).contains s then
    if s == "__hash__" && !isHashable v then .ok .null
    else if ofWholeType.contains s then .ok (.object (.method (.builtin v.typeOf) s))
    else if parts.contains s then .ok Numeric.unknown
    else .ok (.object (.method v s))
  else .error .missingMember

/-- What a type that is made of another one offers under a name with underscores. -/
def inner (v : Value) (s : String) : Value :=
  if s == "__call__" then .object (.method v s)
  else ((ofInstance v s).toOption).getD Numeric.unknown

/-- What a value offers under a name that is no part of it. -/
def offered (v : Value) (s : String) : Except Failure Value :=
  if s == "__doc__" then .ok (match v with | .null => .null | _ => description)
  else match v with
    | .builtin t => ofType t s
    | .record .. | .itself _ | .anyType =>
      if Value.isInner s || s.startsWith "model_" then .ok Numeric.unknown
      else .error .missingMember
    | .generic none origin _ =>
      match ofInstance v s with
      | .ok w => .ok w
      | .error _ => ofType origin s
    | .generic (some _) origin _ | .typeName _ origin =>
      if Value.isInner s then .ok (inner v s) else ofType origin s
    | .union .named _ =>
      if Value.isInner s then .ok (inner v s)
      else if ["_name", "_inst"].contains s then .ok Numeric.unknown
      else .error .missingMember
    | .reference _ => if Value.isInner s then .ok Numeric.unknown else .error .missingMember
    | v => ofInstance v s

end Member

namespace Value

/-- What a value offers under a name. A type with notes passes on the names that it does not know
itself. -/
def member (v : Value) (s : String) : Except Failure Value :=
  match v with
  | .object (.foreign _) => .ok Numeric.unknown
  | v =>
    if s == "__class__" then .ok (.builtin v.typeOf)
    else match Member.part? v s with
      | some w => .ok w
      | none =>
        match v with
        | .annotated base _ => if Value.isInner s then .ok (Member.inner v s) else member base s
        | v => Member.offered v s
termination_by structural v

end Value

end PromptContract
