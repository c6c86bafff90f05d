import PromptContract.Failure

/-!
# The types of values

Every value is of a type (`Value.typeOf`), and of the types above that one (`Value.isOf`). Types are
values, too: they are of the type of types.
-/

namespace PromptContract

namespace BuiltinType

/-- The types that are known by more than their names. -/
def known : List BuiltinType :=
  [.str, .int, .float, .complex, .bool, .list, .dict, .bytes, .object, .none, .tuple, .set,
    .frozenset, .type]

/-- The type of a name. -/
def ofName (name : String) : BuiltinType := (known.find? fun t => t.name == name).getD (.other name)

/-- The types of things that go wrong: a type, and the types right below it. -/
def failureTypes : List (String × List String) :=
  [("BaseException", ["BaseExceptionGroup", "Exception", "GeneratorExit", "KeyboardInterrupt",
      "SystemExit"]),
    ("Exception", ["ArithmeticError", "AssertionError", "AttributeError", "BufferError", "EOFError",
      "ImportError", "LookupError", "MemoryError", "NameError", "OSError", "ReferenceError",
      "RuntimeError", "StopAsyncIteration", "StopIteration", "SyntaxError", "SystemError",
      "TypeError", "ValueError", "Warning"]),
    ("ArithmeticError", ["FloatingPointError", "OverflowError", "ZeroDivisionError"]),
    ("ImportError", ["ModuleNotFoundError"]),
    ("LookupError", ["IndexError", "KeyError"]),
    ("NameError", ["UnboundLocalError"]),
    ("OSError", ["BlockingIOError", "ChildProcessError", "ConnectionError", "FileExistsError",
      "FileNotFoundError", "InterruptedError", "IsADirectoryError", "NotADirectoryError",
      "PermissionError", "ProcessLookupError", "TimeoutError"]),
    ("ConnectionError", ["BrokenPipeError", "ConnectionAbortedError", "ConnectionRefusedError",
      "ConnectionResetError"]),
    ("RuntimeError", ["NotImplementedError", "RecursionError"]),
    ("SyntaxError", ["IndentationError"]),
    ("IndentationError", ["TabError"]),
    ("ValueError", ["UnicodeError"]),
    ("UnicodeError", ["UnicodeDecodeError", "UnicodeEncodeError", "UnicodeTranslateError"]),
    ("Warning", ["BytesWarning", "DeprecationWarning", "EncodingWarning", "FutureWarning",
      "ImportWarning", "PendingDeprecationWarning", "ResourceWarning", "RuntimeWarning",
      "SyntaxWarning", "UnicodeWarning", "UserWarning"]),
    ("BaseExceptionGroup", ["ExceptionGroup"])]

/-- The names of the types of things that go wrong. -/
def failures : List String := "BaseException" :: failureTypes.flatMap (·.2)

/-- The types of things that go wrong that a type is below, nearest first. -/
def failuresAbove (name : String) : Nat → List String
  | 0 => []
  | fuel + 1 =>
    match failureTypes.find? fun group => group.2.contains name with
    | some (above, _) => above :: failuresAbove above fuel
    | Option.none => []

/-- The types right above a type and further up, nearest first. -/
def above : BuiltinType → List BuiltinType
  | .object => []
  | .bool => [.int, .object]
  | .other "FieldType" => [.str, .other "Enum", .object]
  | .other "ModelMetaclass" => [.other "ABCMeta", .type, .object]
  | .other "EnumType" | .other "_AnyMeta" => [.type, .object]
  | .other "ExceptionGroup" =>
    [.other "BaseExceptionGroup", .other "Exception", .other "BaseException", .object]
  | .other name => (failuresAbove name failureTypes.length).map .other ++ [.object]
  | _ => [.object]

/-- Whether a type is another or below it. -/
def isBelow (s t : BuiltinType) : Bool := s == t || s.above.contains t

end BuiltinType

/-- The causes of things that go wrong, by the names of their types. -/
def Failure.kinds : List (String × Failure) :=
  [("StopIteration", .exhausted), ("NameError", .undefinedType), ("KeyError", .missingEntry),
    ("IndexError", .missingItem), ("TypeError", .wrongKind), ("AttributeError", .missingMember),
    ("OverflowError", .numberTooLarge), ("ZeroDivisionError", .divisionByZero),
    ("RecursionError", .tooDeep), ("MemoryError", .tooManyItems), ("SyntaxError", .badExpression)]

/-- What has gone wrong where something of a kind is raised. -/
def Failure.ofKind (kind : String) : Failure := (kinds.lookup kind).getD (.raised kind)

namespace Value

/-- The type of a value. -/
def typeOf (v : Value) : BuiltinType := .ofName v.kind

/-- Whether a value is of a type. -/
def isOf (v : Value) (t : BuiltinType) : Bool := v.typeOf.isBelow t

/-- Whether a value is a type by itself. -/
def isClass : Value → Bool
  | .builtin _ | .anyType | .record .. | .itself _ => true
  | _ => false

/-- Whether something holds of a type, or of one of the types in a row or a union. Only these may be
asked about. -/
def anyType? (p : BuiltinType → Bool) : Value → Except Failure Bool
  | .builtin t => .ok (p t)
  | .record .. | .itself _ => .ok false
  | .typeName _ origin => .ok (p origin)
  | .tuple types | .union _ types => anyTypes? types
  | _ => .error .wrongKind
where
  /-- Whether it holds of one of several types. -/
  anyTypes? : List Value → Except Failure Bool
    | [] => .ok false
    | v :: vs => do if ← anyType? p v then return true else anyTypes? vs

end Value

end PromptContract
