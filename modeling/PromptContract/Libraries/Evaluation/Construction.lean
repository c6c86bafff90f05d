import PromptContract.Libraries.Evaluation.Method

/-!
# Calls of types

What comes out when a type is called (`Construction.call`): a value of the type, made from the
arguments. The values of types that are known by their names only are objects of which nothing is
known.
-/

namespace PromptContract.Construction

open Evaluation

/-- The marks in front of integers to a base. -/
def baseMarks : List (Nat × String) := [(2, "0b"), (8, "0o"), (16, "0x")]

/-- The integer that a letter or a figure stands for as a digit to a base. -/
def digit? (base : Nat) (c : Char) : Option Nat :=
  let small := c.toLower
  let n := match Text.decimalDigit? c with
    | some n => n
    | none => if small.isAlpha then small.toNat - 87 else base
  if n < base then some n else none

/-- The digits to a base that a text consists of, with at most one underscore between two of them.
-/
def digits? (base : Nat) : List Char → Option (List Nat)
  | [] => some []
  | '_' :: c :: cs => do return (← digit? base c) :: (← digits? base cs)
  | c :: cs => do return (← digit? base c) :: (← digits? base cs)

/-- The integer that a text writes to a base; the base 0 stands for that of the mark in front. Only
to bases that are powers of two is the number of digits without a limit. -/
def integerOfBase (s : String) (base : Nat) : Except Failure Value :=
  let (isNegative, ds) := Numeral.takeSign (Text.trim s.toList)
  let mark := (String.ofList (ds.take 2)).toLower
  let marked := baseMarks.find? fun p => p.2 == mark && (base == p.1 || base == 0)
  let (used, ds) := match marked with
    | some p => (p.1, ds.drop 2)
    | none => (if base == 0 then 10 else base, ds)
  match digits? used ds, marked.isNone && ds.head? == some '_' with
  | some (n :: ns), false =>
    let value := (n :: ns).foldl (used * · + ·) 0
    let isLong := !(List.contains [2, 4, 8, 16, 32] used) && Numeral.digitLimit < ns.length + 1
    if isLong || base == 0 && marked.isNone && n == 0 && value != 0 then .error .unreadable
    else .ok (.int (Numeral.signed isNegative value))
  | _, _ => .error .unreadable

/-- A value as an integer, where a text may be written to a given base. -/
def integer : List Value → Except Failure Value
  | [] => .ok (.int 0)
  | [v] =>
    if v.isUnknown then .ok Numeric.unknown
    else match Layout.bytesOf? v with
    | some bs => do return .int (← (Value.text (String.ofList (bs.map Char.ofNat))).toInteger)
    | none => do return .int (← v.toInteger)
  | [v, base] =>
    match base.index?, v.plainText? with
    | some n, s =>
      if n < 0 ∨ n = 1 ∨ 36 < n then .error .unreadable
      else match s with
        | some s => integerOfBase s n.toNat
        | none => .error .wrongKind
    | none, _ => .error .wrongKind
  | _ => .error .wrongKind

/-- A number as a complex number. -/
def complexOf (v : Value) : Except Failure Complex :=
  match Numeric.ofValue? v with
  | some (.int n) => do return .ofReal (← Numeric.realOf n)
  | some (.float x) => .ok (.ofReal x)
  | some (.complex z) => .ok z
  | none => .error .wrongKind

/-- A value as a complex number, or a real part with an imaginary one. -/
def complex : List Value → Except Failure Value
  | [] => .ok (.object (.complex (.ofReal .zero)))
  | [v] => do
    match v.comparedText? with
    | some s =>
      match Complex.ofText? s with
      | some z => return .object (.complex z)
      | none => throw .unreadable
    | none => return .object (.complex (← complexOf v))
  | [v, w] => do
    let v ← complexOf v
    let w ← complexOf w
    return .object (.complex ⟨v.re - w.im, v.im + w.re⟩)
  | _ => .error .wrongKind

/-- The text of a value, or that of bytes in an encoding. -/
def text : List Value → Except Failure Value
  | [] => .ok (.text "")
  | [v] => .text <$> v.toDisplay
  | v :: more =>
    match Layout.bytesOf? v with
    | some bs => do return (← TextMember.decoded bs more[0]? more[1]?).getD Numeric.unknown
    | none => .error .wrongKind

/-- Bytes: zeros of a number, the bytes of a row, or those of a text in a code. -/
def bytes (m : Machine) : List Value → Evaluation (List Nat)
  | [] => return []
  | [v] => do
    match v.index?, v.comparedText? with
    | some n, _ =>
      if n < 0 then throw .unreadable
      let n ← Value.itemCount (← Value.toPlace n).toNat
      return List.replicate n 0
    | none, some _ => throw .wrongKind
    | none, none => Change.bytesFrom m v
  | v :: more => do
    match v.comparedText? with
    | some s =>
      match ← TextMember.encoded s.toList more[0]? more[1]? with
      | some (.object (.bytes bs)) => return bs
      | _ => return []
    | none => throw .wrongKind

/-- The items of one argument, if there is one. -/
def itemsOf (m : Machine) : List Value → Evaluation (List Value)
  | [] => return []
  | [v] => m.items v
  | _ => throw .wrongKind

/-- A range from its ends and its step. -/
def range (placed : List Value) : Except Failure Value := do
  let ns ← placed.mapM fun v =>
    match v.index? with
    | some n => .ok n
    | none => .error .wrongKind
  match ns with
  | [stop] => return .object (.range 0 stop 1)
  | [start, stop] => return .object (.range start stop 1)
  | [start, stop, step] =>
    if step = 0 then throw .unreadable else return .object (.range start stop step)
  | _ => throw .wrongKind

/-- The arguments of parameters with names, which may be missing. -/
def given (names : List String) (placed : List Value) (named : List (String × Value)) :
    Except Failure (List (Option Value)) := TextMember.bind names placed named

/-- What the call of a type that goes through items gives, if the type is one. -/
def ofStreams? (name : String) (placed : List Value) (named : List (String × Value)) :
    Evaluation (Option Value) := do
  let noNames : Evaluation Unit := do if !named.isEmpty then throw .wrongKind
  match name, placed with
  | "range", placed => do
    noNames
    return some (← range placed)
  | "slice", [stop] => return some (.object (.slice .null stop .null))
  | "slice", [start, stop] => return some (.object (.slice start stop .null))
  | "slice", [start, stop, step] => return some (.object (.slice start stop step))
  | "enumerate", placed =>
    match ← given ["iterable", "start"] placed named with
    | [some v, start] => do
      let start ← TextMember.indexOf start 0
      return some (← holdStream (.numbered start (← streamOf v)))
    | _ => throw .wrongKind
  | "zip", placed => do
    if named.any fun n => n.1 != "strict" then throw .wrongKind
    let isStrict ← isTrue ((named.lookup "strict").getD .null)
    return some (← holdStream (.abreast isStrict (← placed.mapM streamOf)))
  | "map", f :: v :: more => do
    noNames
    return some (← holdStream (.mapped f (← (v :: more).mapM streamOf)))
  | "filter", [f, v] => do
    noNames
    return some (← holdStream (.filtered f (← streamOf v)))
  | "reversed", [v] => do
    noNames
    return some (← Method.reversed v)
  | name, _ =>
    if ["slice", "map", "filter", "reversed"].contains name then throw .wrongKind
    else return none

/-- Something of a kind that goes wrong, from what is said about it. -/
def failure (kind : String) (placed : List Value) (named : List (String × Value)) :
    Except Failure Value :=
  let count? : Option Nat := match kind with
    | "UnicodeDecodeError" | "UnicodeEncodeError" => some 5
    | "UnicodeTranslateError" => some 4
    | "ExceptionGroup" | "BaseExceptionGroup" => some 2
    | _ => none
  let names := match kind with
    | "ImportError" | "ModuleNotFoundError" => ["name", "path"]
    | "AttributeError" => ["name", "obj"]
    | "NameError" | "UnboundLocalError" => ["name"]
    | _ => []
  if count?.any (· != placed.length) || named.any (fun n => !names.contains n.1) then
    .error .wrongKind
  else .ok (Known.failure kind placed)

/-- What the call of a type that is known by its name gives. -/
def named (m : Machine) (name : String) (placed : List Value) (named : List (String × Value)) :
    Evaluation Value := do
  match ← ofStreams? name placed named with
  | some v => return v
  | none =>
    match name, placed with
    | "bytearray", placed =>
      let placed ← (← given ["source", "encoding", "errors"] placed named).filterMapM fun v =>
        v.mapM settled
      return .object (.byteArray (← bytes m placed))
    | "FieldType", [v] =>
      match (← settled v).comparedText?.bind FieldType.ofName? with
      | some t => return .fieldType t
      | none => throw .unreadable
    | "FieldType", _ => throw .wrongKind
    | "super", [] => throw (.raised "RuntimeError")
    | name, placed =>
      if BuiltinType.failures.contains name then failure name placed named
      else
        let told ← m.tell name none
          [("arguments", .tuple placed), ("names", .map (named.map fun n => (.text n.1, n.2)))]
        return told.getD (.object (.made name []))

/-- The parameters of the types that take arguments by name, with what they are where an argument
behind them is given. -/
def parameters : BuiltinType → List (String × Option Value)
  | .int => [("", none), ("base", none)]
  | .str => [("object", none), ("encoding", some (.text "utf-8")), ("errors", none)]
  | .complex => [("real", some (.int 0)), ("imag", none)]
  | .bytes => [("source", none), ("encoding", none), ("errors", none)]
  | _ => []

/-- The arguments by place, with those by name behind them. -/
def placedArguments (t : BuiltinType) (placed : List Value) (named : List (String × Value)) :
    Except Failure (List Value) := do
  if named.isEmpty then return placed
  let row ← given ((parameters t).map (·.1)) placed named
  let row := (row.reverse.dropWhile Option.isNone).reverse
  match (row.zip (parameters t)).mapM fun (v, p) => v.or p.2 with
  | some vs => return vs
  | none => throw .wrongKind

/-- The types of whose values all are made of something, each of its own. -/
def solidTypes : List BuiltinType :=
  [.str, .int, .float, .complex, .list, .dict, .bytes, .tuple, .set, .frozenset, .type]

/-- The type that the values of a new type are of besides, by the types that the new one is said to
be below. -/
def baseOf (types : List Value) : Except Failure (Option BuiltinType) := do
  let types ← types.mapM fun
    | .builtin t => pure t
    | _ => throw Failure.wrongKind
  let isFinal (t : BuiltinType) :=
    t == .bool || t == .none || t == .other "range" || t == .other "slice"
      || t == .other "memoryview"
  if types.any isFinal || !types.Nodup || types.dropLast.contains .object then throw .wrongKind
  match types.filter solidTypes.contains with
  | [] => return (types.filter (· != .object)).head?
  | [t] => return some t
  | _ => throw .wrongKind

/-- A new type of a name, below some types, with members of its own. -/
def newType (name types members : Value) : Evaluation Value := do
  match name.comparedText?, types, members with
  | some name, .tuple types, .map es =>
    let base ← baseOf types
    let own := es.filterMap fun (key, v) => key.comparedText?.map (·, v)
    let inherited ← types.mapM fun
      | .builtin (.other above) => do
        return ((← madeType? above).map fun t => (t.members, t.base)).getD ([], base)
      | _ => return ([], base)
    let base := ((inherited.map (·.2)).filterMap id).head?
    let t : MadeType := ⟨name, base, own ++ (inherited.map (·.1)).flatten⟩
    modify fun memory => { memory with made := t :: memory.made }
    return .builtin (.other name)
  | _, _, _ => throw .wrongKind

/-- What the call of a type gives. -/
def call (m : Machine) (t : BuiltinType) (placed : List Value) (named : List (String × Value)) :
    Evaluation Value := do
  match t with
  | .dict => return .map (← Change.broughtEntries m placed named)
  | .other name => Construction.named m name placed named
  | t =>
    let placed ← placedArguments t placed named
    match t, placed with
    | .list, placed => return .list (← itemsOf m placed)
    | .tuple, placed => return .tuple (← itemsOf m placed)
    | .set, [] => return Table.empty.toSet false
    | .frozenset, [] => return Table.empty.toSet true
    | .set, [v] => return (Table.ofOperand (← operandOf m v)).toSet false
    | .frozenset, [v] =>
      match ← opened v with
      | .object (.set true items places) => return .object (.set true items places)
      | _ => return (Table.ofOperand (← operandOf m v)).toSet true
    | .bytes, placed => return .object (.bytes (← bytes m (← placed.mapM settled)))
    | .type, [v] => return .builtin (← opened v).typeOf
    | .bool, [v] => return .bool (← isTrue v)
    | .type, [name, types, members] =>
      newType (← opened name) (← opened types) (← opened members)
    | t, placed => do
      match t, ← placed.mapM settled with
      | .str, placed => text placed
      | .int, placed => integer placed
      | .float, [] => return .float .zero
      | .float, [v] => return .float (← v.toReal)
      | .complex, placed => complex placed
      | .bool, [] => return .bool false
      | .object, [] => return .thing
      | .none, [] => return .null
      | _, _ => throw .wrongKind

end PromptContract.Construction
