import PromptContract.Libraries.Evaluation.BytesMember
import PromptContract.Libraries.Evaluation.Change
import PromptContract.Libraries.Evaluation.Count
import PromptContract.Libraries.Evaluation.Hash

/-!
# Calls of members

What comes out when a member of a value is called (`Method.call`). A member that is not followed up
gives an object of which nothing is known.
-/

namespace PromptContract

namespace Value

/-- How many items a value has that can be counted. -/
def count (v : Value) : Except Failure Nat :=
  match v with
  | .list vs | .tuple vs | .object (.set _ vs _) => .ok vs.length
  | .map es | .object (.view _ (.map es)) => .ok es.length
  | .object (.bytes bs) | .object (.byteArray bs) => .ok bs.length
  | .builtin (.other "FieldType") => .ok FieldType.all.length
  | .object (.range start stop step) => do
    return (← toPlace (rangeLength start stop step)).toNat
  | v =>
    match v.comparedText? with
    | some s => .ok s.length
    | none => .error .wrongKind

/-- The size of a number. -/
def magnitude (v : Value) : Except Failure Value :=
  match Numeric.ofValue? v with
  | some (.int n) => .ok (.int n.natAbs)
  | some (.float x) => .ok (.float (if x.isNegative then x.neg else x))
  | some (.complex z) =>
    match z.magnitude with
    | .infinite _ => if z.isFinite then .error .numberTooLarge else .ok (.float (.infinite false))
    | x => .ok (.float x)
  | none => .error .wrongKind

/-- The text that a value is, or that its bytes are if they are those of characters of ASCII. -/
def plainText? (v : Value) : Option String :=
  match Layout.bytesOf? v with
  | some bs => some (String.ofList (bs.map Char.ofNat))
  | none => v.comparedText?

/-- A number as a floating-point number, or one that is written in a text or in bytes. -/
def toReal (v : Value) : Except Failure Binary64 :=
  match Numeric.ofValue? v, v.plainText? with
  | some (.int n), _ => Numeric.realOf n
  | some (.float x), _ => .ok x
  | none, some s =>
    match Complex.ofText? s with
    | some z => if s.toList.any "jJ(".toList.contains then .error .unreadable else .ok z.re
    | none => .error .unreadable
  | _, _ => .error .wrongKind

end Value

namespace Method

open Evaluation

/-- The operators by the inner part of the names of members. -/
def operators : List (String × BinaryOperator) :=
  [("add", .add), ("sub", .subtract), ("mul", .multiply), ("truediv", .divide),
    ("floordiv", .floorDivide), ("mod", .remainder), ("pow", .power), ("lshift", .shiftLeft),
    ("rshift", .shiftRight), ("and", .bitAnd), ("or", .bitOr), ("xor", .bitXor)]

/-- The comparisons by the inner part of the names of members. -/
def comparisons : List (String × Comparison) :=
  [("eq", .equal), ("ne", .notEqual), ("lt", .less), ("le", .atMost), ("gt", .greater),
    ("ge", .atLeast)]

/-- The operators in front of a value by the inner part of the names of members. -/
def signs : List (String × UnaryOperator) := [("neg", .minus), ("pos", .plus), ("invert", .invert)]

/-- What an operator gives, or the object that says that it is not offered for the values at hand.
-/
def ifOffered (v : Except Failure Value) : Except Failure Value :=
  match v with
  | .error .wrongKind => .ok (.object .notOffered)
  | v => v

/-- Whether the type of a number knows about those of the type of another. -/
def takesNumber (m n : Numeric) : Bool :=
  match m, n with
  | .int _, .int _ | .float _, .int _ | .float _, .float _ | .complex _, _ => true
  | _, _ => false

/-- Whether the type of a value can compare it with another. -/
def knows (v w : Value) : Bool :=
  match Numeric.ofValue? v, Numeric.ofValue? w, v, w with
  | some m, some n, _, _ => takesNumber m n
  | none, none, .object (.set ..), .object (.set ..) => true
  | none, none, .object (.view ..), .object (.set ..) => true
  | none, none, v, w =>
    (Layout.bytesOf? v).isSome && (Layout.bytesOf? w).isSome
      || v.comparedText?.isSome && w.comparedText?.isSome || v.kind == w.kind
  | _, _, _, _ => false

/-- Whether a value is a text or a row, which take operators for certain values only. -/
def isRow (v : Value) : Bool :=
  v.isOf .str || v.isOf .list || v.isOf .tuple || (Layout.bytesOf? v).isSome

/-- What an operator between two values gives, of which the first one's type offers it. -/
def operate (op : BinaryOperator) (v w : Value) : Except Failure Value :=
  match op, v.comparedText?, v, Numeric.ofValue? v, Numeric.ofValue? w with
  | .remainder, some s, _, _, _ => do return .text (← Layout.filled s w)
  | .remainder, none, .object (.bytes bs), _, _ => do
    return .object (.bytes (← Layout.filledBytes bs w))
  | op, _, v, some m, some n => if takesNumber m n then v.binary op w else .error .wrongKind
  | _, _, _, some _, none => .error .wrongKind
  | op, _, v, none, _ => v.binary op w

/-- The inner part of the name of a member that stands for an operator. -/
def innerName? (name : String) : Option String :=
  if name.startsWith "__" && name.endsWith "__" then
    some (String.ofList ((name.toList.drop 2).take (name.length - 4)))
  else none

/-- What a member that stands for an operator gives. -/
def ofOperator? (v : Value) (name : String) (placed : List Value) : Option (Except Failure Value) :=
  match innerName? name, placed with
  | some s, [] => (signs.lookup s).map v.unary
  | some s, [w] =>
    match comparisons.lookup s, operators.lookup s, operators.lookup ((s.drop 1).toString) with
    | some c, _, _ =>
      some (if knows v w then ifOffered (do return .bool (← v.comparison c w))
        else .ok (.object .notOffered))
    | none, some op, _ => some (if isRow v then operate op v w else ifOffered (operate op v w))
    | none, none, some op =>
      if !s.startsWith "r" then none
      else if isRow v && op == .multiply then some (w.binary op v)
      else if !knows v w then some (.ok (.object .notOffered))
      else if isRow v then some (operate op w v)
      else some (ifOffered (if (Numeric.ofValue? v).isSome then w.binary op v else operate op w v))
    | none, none, none => none
  | _, _ => none

/-- The names of members that most values have and that take a certain number of arguments. -/
def commonNames : List String :=
  Member.words ("__str__ __repr__ __format__ __bool__ __len__ __contains__ __getitem__ "
    ++ "__class_getitem__ __iter__ __next__ __reversed__ __abs__ __int__ __trunc__ __index__ "
    ++ "__float__ __complex__ __bytes__ __hash__ __getattribute__ __init_subclass__ "
    ++ "__subclasshook__ __getnewargs__ __setattr__ __delattr__ with_traceback add_note")

/-- Whether a name is that of a member that stands for an operator. -/
def isOperator (name : String) : Bool :=
  match innerName? name with
  | none => false
  | some s =>
    (signs.lookup s).isSome || (comparisons.lookup s).isSome || (operators.lookup s).isSome
      || s.startsWith "r" && (operators.lookup ((s.drop 1).toString)).isSome

/-- The items of a value from the last one to the first, where it can be gone through that way. -/
def reversed (v : Value) : Evaluation Value := do
  match ← opened v with
  | .object (.range start stop step) =>
    let n : Int := (Value.rangeLength start stop step : Nat)
    holdStream (.range (start + step * (n - 1)) (start - step) (-step))
  | .list items => holdReady "list_reverseiterator" items.reverse
  | .map es => holdReady "dict_reversekeyiterator" (es.map (·.1)).reverse
  | .object (.view part (.map es)) =>
    let kind := "dict_reverse" ++
      (match part with | .keys => "key" | .values => "value" | .items => "item") ++ "iterator"
    holdReady kind (Value.partItems part es).reverse
  | .tuple items => holdReady "reversed" items.reverse
  | .object (.bytes bs) | .object (.byteArray bs) =>
    holdReady "reversed" (bs.reverse.map fun (b : Nat) => .int b)
  | .builtin (.other "FieldType") => holdReady "generator" (FieldType.all.reverse.map .fieldType)
  | v =>
    match v.comparedText? with
    | some s => holdReady "reversed" (Value.characters s).reverse
    | none => throw .wrongKind

/-- What a member gives that most values have. -/
def ofAny? (m : Machine) (v : Value) (name : String) (placed : List Value) :
    Evaluation (Option Value) := do
  match name, placed with
  | "__str__", [] => return some (.text (← v.toDisplay))
  | "__repr__", [] => return some (.text (← v.toQuoted))
  | "__format__", [w] =>
    match w.comparedText? with
    | some s => return some (.text (← Layout.format v s))
    | none => throw .wrongKind
  | "__bool__", [] => return some (.bool v.truthy)
  | "__len__", [] => return some (.int (← v.count))
  | "__contains__", [w] => return some (.bool (← Evaluation.compared m .isIn w v))
  | "__getitem__", [w] | "__class_getitem__", [w] => return some (← v.item w)
  | "__reversed__", [] => return some (← reversed v)
  | "__abs__", [] => return some (← v.magnitude)
  | "__complex__", [] => return some v
  | "__bytes__", [] => return some v
  | "__int__", [] | "__trunc__", [] => return some (.int (← v.toInteger))
  | "__index__", [] =>
    match v.index? with
    | some n => return some (.int n)
    | none => throw .wrongKind
  | "__float__", [] => return some (.float (← v.toReal))
  | "__hash__", [] => if v.isKey then return some v.hash else throw .wrongKind
  | "__init_subclass__", [] | "__init__", [] => return some .null
  | "__subclasshook__", [_] => return some (.object .notOffered)
  | "__getnewargs__", [] => return some (.tuple [v])
  | "__setattr__", [_, _] | "__delattr__", [_] => throw .missingMember
  | "with_traceback", [_] => return some v
  | "add_note", [w] => if w.comparedText?.isSome then return some .null else throw .wrongKind
  | "__getattribute__", [w] =>
    match w.comparedText? with
    | some s => return some (← Evaluation.memberOf v s)
    | none => throw .wrongKind
  | name, placed =>
    match ofOperator? v name placed with
    | some result => return some (← result)
    | none =>
      let isPower := name == "__pow__" && placed.length == 2
      if commonNames.contains name || isOperator name && !isPower then throw .wrongKind
      else return none

/-! ## Rows, maps, sets and numbers -/

/-- The place of the first item of a row that equals a value. -/
def placeOf (items : List Value) (v : Value) : Except Failure Value :=
  match items.findIdx? v.same with
  | some i => .ok (.int i)
  | none => .error .unreadable

/-- What the members of rows give. -/
def ofRow? (items : List Value) (v : Value) (name : String) (placed : List Value) :
    Except Failure (Option Value) := do
  match name, placed with
  | "index", [w] => return some (← placeOf items w)
  | "index", w :: ends =>
    let s ← Slice.make (ends[0]?.getD .null) (ends[1]?.getD .null) .null
    let (first, last) := s.ends items.length
    let i ← placeOf ((items.take last.toNat).drop first.toNat) w
    return some (← i.binary .add (.int first))
  | "count", [w] => return some (.int (items.countP w.same))
  | "copy", [] => return some v
  | name, _ => if ["index", "count", "copy"].contains name then throw .wrongKind else return none

/-- What the members of maps give, apart from the parts of maps. -/
def ofMap? (es : Entries) (name : String) (placed : List Value) :
    Except Failure (Option Value) := do
  let found (key : Value) : Except Failure (Option Value) :=
    if key.isKey then return es.lookup? key else throw .wrongKind
  match name, placed with
  | "get", [key] => return some ((← found key).getD .null)
  | "get", [key, v] => return some ((← found key).getD v)
  | "copy", [] => return some (.map es)
  | name, _ => if ["get", "copy"].contains name then throw .wrongKind else return none

/-- The parts of maps by the names of members. -/
def mapParts : List (String × MapPart) :=
  [("keys", .keys), ("values", .values), ("items", .items)]

/-- The operators on sets by the names of members. -/
def setOperators : List (String × BinaryOperator) :=
  [("union", .bitOr), ("intersection", .bitAnd), ("difference", .subtract),
    ("symmetric_difference", .bitXor)]

/-- What the members of sets give. -/
def ofSet? (m : Machine) (isFrozen : Bool) (items : List Value) (places : SetPlaces) (name : String)
    (placed : List Value) : Evaluation (Option Value) := do
  let isPart (xs ys : List Value) := xs.all fun x => ys.any x.same
  let t := Table.ofSet items places
  match setOperators.lookup name, name, placed with
  | some _, _, [] => return some (t.copy.toSet isFrozen)
  | some op, _, first :: rest =>
    let first ← operandOf m first
    let rest ← rest.mapM (operandOf m)
    return (t.combine? op first).map fun t =>
      (rest.foldl (Change.combineNext op) t).toSet isFrozen
  | none, "issubset", [v] => return some (.bool (isPart items (← Change.settledItems m v)))
  | none, "issuperset", [v] => return some (.bool (isPart (← Change.settledItems m v) items))
  | none, "isdisjoint", [v] =>
    return some (.bool !((← Change.settledItems m v).any fun w => items.any w.same))
  | none, "copy", [] => return some ((if isFrozen then t else t.copy).toSet isFrozen)
  | none, name, _ =>
    if ["issubset", "issuperset", "isdisjoint", "copy"].contains name then throw .wrongKind
    else return none

/-- The order of bytes that a text names, big-endian by default. -/
def orderOf (v : Option Value) : Except Failure ByteOrder := do
  match v with
  | none => return .big
  | some v =>
    match String.ofList (← TextMember.textOf v) with
    | "big" => return .big
    | "little" => return .little
    | _ => throw .unreadable

/-- An integer in a number of bytes, in two's complement if it has a sign. -/
def toBytes (n : Int) (length order signed : Option Value) : Except Failure Value := do
  let size ← TextMember.placeOf length 1
  let order ← orderOf order
  if size < 0 then throw .unreadable
  let size ← Value.itemCount size.toNat
  let limit : Int := Int.pow 256 size
  let isSigned := (signed.getD .null).truthy
  let isHeld := if isSigned then -limit ≤ 2 * n && 2 * n < limit else 0 ≤ n && n < limit
  if isHeld then return .object (.bytes (order.bytes size (n.fmod limit).toNat))
  else throw .numberTooLarge

/-- The integer that bytes say. -/
def ofBytesIn (bs : List Nat) (order signed : Option Value) : Except Failure Value := do
  let n : Int := (← orderOf order).number bs
  let limit : Int := Int.pow 256 bs.length
  let isNegative := (signed.getD .null).truthy && limit ≤ 2 * n
  return .int (if isNegative then n - limit else n)

/-- A number as the quotient of two integers without a common divisor. -/
def ratioOf (x : Binary64) : Except Failure Value :=
  match x with
  | .nan => .error .unreadable
  | .infinite _ => .error .numberTooLarge
  | .finite negative units =>
    let d := Nat.gcd units Binary64.one
    let n : Int := (units / d : Nat)
    .ok (.tuple [.int (if negative then -n else n), .int (Binary64.one / d : Nat)])

/-- The greatest integer not greater than a number. -/
def floorOf (n : Numeric) : Except Failure Value :=
  match n with
  | .int n => .ok (.int n)
  | .float .nan => .error .unreadable
  | .float x =>
    match x.floor.truncate? with
    | some n => .ok (.int n)
    | none => .error .numberTooLarge
  | .complex _ => .error .wrongKind

/-- A power of an integer without the multiples of another one, by squares. -/
def powerIn (k : Int) (fuel : Nat) (m result : Int) (n : Nat) : Int :=
  match fuel with
  | 0 => result
  | fuel + 1 =>
    if n = 0 then result
    else
      let result := if n % 2 == 1 then (result * m).fmod k else result
      powerIn k fuel ((m * m).fmod k) result (n / 2)

/-- The integer that another one times gives one, up to multiples of a third. -/
def inverse? (m k : Int) : Option Int :=
  let rec go (fuel : Nat) (r r' x x' : Int) : Option Int :=
    match fuel with
    | 0 => none
    | fuel + 1 =>
      if r' = 0 then (if r = 1 then some (x.fmod k) else none)
      else go fuel r' (r - r / r' * r') x' (x - r / r' * x')
  go (2 * k.natAbs.log2 + 4) (m.fmod k.natAbs) k.natAbs 1 0

/-- A power, perhaps without the multiples of a third number. -/
def powerOf (placed : List Value) : Except Failure Value :=
  match placed with
  | [v, w] | [v, w, .null] => v.binary .power w
  | [v, w, u] =>
    match v.index?, w.index?, u.index? with
    | some m, some n, some k =>
      if k = 0 then .error .unreadable
      else
        let start : Option Int := if 0 ≤ n then some m else inverse? m k
        match start with
        | some m => .ok (.int (powerIn k (n.natAbs.log2 + 1) (m.fmod k) (Int.fmod 1 k) n.natAbs))
        | none => .error .unreadable
    | _, _, _ => .error .wrongKind
  | _ => .error .wrongKind

/-- Hexadecimal digits of a floating-point number, with the power of two that they are multiples
of. -/
def hexReal (x : Binary64) : String :=
  match x with
  | .nan => "nan"
  | .infinite negative => if negative then "-inf" else "inf"
  | .finite negative units =>
    let sign := if negative then "-" else ""
    if units = 0 then sign ++ "0x0.0p+0"
    else
      -- The first digit is one, unless the number is too small for that.
      let shift := max units.log2 52
      let (head, rest) := (units / Nat.pow 2 shift,
        if 52 ≤ shift then units * Nat.pow 2 52 / Nat.pow 2 shift % Nat.pow 2 52 else 0)
      let power : Int := (shift : Int) - 1074
      sign ++ "0x" ++ toString head ++ "." ++ String.ofList (Text.hex 13 rest) ++ "p"
        ++ (if 0 ≤ power then "+" else "") ++ toString power

/-- The members of numbers that take no arguments. -/
def plainNumberMembers : List String :=
  ["conjugate", "bit_length", "bit_count", "as_integer_ratio", "is_integer", "hex", "__floor__",
    "__ceil__"]

/-- The quotient and the remainder of two numbers, of which the first one's type offers them. -/
def divided (v w : Value) : Except Failure Value :=
  ifOffered do return .tuple [← v.binary .floorDivide w, ← v.binary .remainder w]

/-- How the numbers of a type with a fraction are kept. -/
def formatOf (v : Value) : Except Failure Value := do
  let name := String.ofList (← TextMember.textOf v)
  if name == "double" || name == "float" then return .text "IEEE, little-endian"
  else throw .unreadable

/-- What the members of numbers give. -/
def ofNumber? (n : Numeric) (name : String) (placed : List Value) (named : List (String × Value)) :
    Except Failure (Option Value) := do
  match name, placed, n with
  | "conjugate", [], .complex z => return some (.object (.complex ⟨z.re, z.im.neg⟩))
  | "conjugate", [], n => return some n.toValue
  | "bit_length", [], .int n =>
    return some (.int (if n = 0 then 0 else n.natAbs.log2 + 1 : Nat))
  | "bit_count", [], .int n => return some (.int ((Nat.toDigits 2 n.natAbs).count '1' : Nat))
  | "as_integer_ratio", [], .int n => return some (.tuple [.int n, .int 1])
  | "as_integer_ratio", [], .float x => return some (← ratioOf x)
  | "is_integer", [], .float x => return some (.bool x.isWhole)
  | "hex", [], .float x => return some (.text (hexReal x))
  | "__pow__", [w, .null], n => return some (← ifOffered (operate .power n.toValue w))
  | "__pow__", [w, u], .int n =>
    match w.index?, u.index? with
    | some _, some _ => return some (← powerOf [.int n, w, u])
    | _, _ => return some (.object .notOffered)
  | "__pow__", [_, _], .float _ => throw .wrongKind
  | "__rpow__", [w, u], .int n =>
    match w.index?, u.index? with
    | some _, some _ => return some (← powerOf [w, .int n, u])
    | _, _ => return some (.object .notOffered)
  | "__rpow__", [_, _], .float _ => throw .wrongKind
  | "__pow__", [w, _], .complex _ | "__rpow__", [w, _], .complex _ =>
    if (Numeric.ofValue? w).isSome then throw .unreadable else return some (.object .notOffered)
  | "__getformat__", [w], .float _ => return some (← formatOf w)
  | "__floor__", [], n => return some (← floorOf n)
  | "__ceil__", [], n => do
    let below ← floorOf (← match n with
      | .int n => pure (Numeric.int (-n))
      | .float x => pure (Numeric.float x.neg)
      | .complex _ => throw .wrongKind)
    return some (← below.unary .minus)
  | "__round__", [], n => return some (← (Numeric.rounded n none))
  | "__round__", [v], n => return some (← (Numeric.rounded n (some v)))
  | "__divmod__", [w], n =>
    if knows n.toValue w then return some (← divided n.toValue w)
    else return some (.object .notOffered)
  | "__rdivmod__", [w], n =>
    if knows n.toValue w then return some (← divided w n.toValue)
    else return some (.object .notOffered)
  | "to_bytes", placed, .int n =>
    match ← TextMember.bind ["length", "byteorder", "signed"] placed named with
    | [length, order, signed] => return some (← toBytes n length order signed)
    | _ => throw .wrongKind
  | name, placed, _ =>
    if !placed.isEmpty && plainNumberMembers.contains name then throw .wrongKind
    else return none

/-! ## Texts -/

/-- The texts of a row behind each other with a text between them. -/
def joined (m : Machine) (between : String) (v : Value) : Evaluation Value := do
  let texts ← (← Change.settledItems m v).mapM fun v =>
    match v.comparedText? with
    | some s => pure s
    | none => throw .wrongKind
  return .text (between.intercalate texts)

/-- What stands between a brace and the one that closes it, and what is behind. -/
def spanBraces : Nat → List Char → Option (List Char × List Char)
  | _, [] => none
  | 0, '}' :: cs => some ([], cs)
  | depth, c :: cs => do
    let depth := if c == '{' then depth + 1 else if c == '}' then depth - 1 else depth
    let (inner, rest) ← spanBraces depth cs
    return (c :: inner, rest)

/-- How the places in braces have been numbered so far: by themselves up to a number, or by their
names. -/
inductive Numbering
  | open
  | counted (next : Nat)
  | named

/-- The value of a place in a text with braces: an argument by name or by number, where a place
without either takes the next one. There may be none by number. -/
def placeValue (placed : Option (List Value)) (named : String → Except Failure Value)
    (numbering : Numbering) (name : List Char) : Except Failure (Value × Numbering) :=
  let at? (i : Nat) (numbering : Numbering) : Except Failure (Value × Numbering) :=
    match placed.map (·[i]?) with
    | some (some v) => .ok (v, numbering)
    | some none => .error .missingItem
    | none => .error .unreadable
  match name.isEmpty, name.all Numeral.isDigit, numbering with
  | true, _, .open => at? 0 (.counted 1)
  | true, _, .counted next => at? next (.counted (next + 1))
  | true, _, .named => .error .unreadable
  | false, true, .counted _ => .error .unreadable
  | false, true, _ => at? (Numeral.digitsValue name) .named
  | false, false, numbering => do return (← named (String.ofList name), numbering)

/-- Whether a character begins a further step of the name of a place. -/
def beginsStep (c : Char) : Bool := c == '.' || c == '['

/-- What a place in braces leads to from a value, over members and items. -/
def along : Nat → Value → List Char → Except Failure Value
  | 0, v, _ | _, v, [] => .ok v
  | fuel + 1, v, '.' :: cs => do
    if (cs.takeWhile (!beginsStep ·)).isEmpty then throw .unreadable
    along fuel (← v.member (String.ofList (cs.takeWhile (!beginsStep ·))))
      (cs.dropWhile (!beginsStep ·))
  | fuel + 1, v, '[' :: cs => do
    let key := cs.takeWhile (· != ']')
    if key.isEmpty then throw .unreadable
    let index : Value := if key.all Numeral.isDigit then .int (Numeral.digitsValue key)
      else .text (String.ofList key)
    along fuel (← v.item index) ((cs.dropWhile (· != ']')).drop 1)
  | _, _, _ => .error .unreadable

/-- A text with arguments in the places in braces. A place may say how its value is written, and the
layout may have places in turn, up to a depth. -/
def filledBraces (placed : Option (List Value)) (named : String → Except Failure Value) :
    Nat → Numbering → List Char → Except Failure (List Char × Numbering)
  | 0, numbering, _ | _, numbering, [] => .ok ([], numbering)
  | fuel + 1, numbering, '{' :: '{' :: cs => do
    let (rest, numbering) ← filledBraces placed named fuel numbering cs
    return ('{' :: rest, numbering)
  | fuel + 1, numbering, '}' :: '}' :: cs => do
    let (rest, numbering) ← filledBraces placed named fuel numbering cs
    return ('}' :: rest, numbering)
  | _, _, '}' :: _ => .error .unreadable
  | fuel + 1, numbering, '{' :: cs =>
    match spanBraces 0 cs with
    | none => .error .unreadable
    | some (inner, rest) => do
      let (head, layout) := (inner.takeWhile (· != ':'), (inner.dropWhile (· != ':')).drop 1)
      let (path, conversion) := (head.takeWhile (· != '!'), (head.dropWhile (· != '!')).drop 1)
      let conversion ← match conversion with
        | [] => pure none
        | ['s'] => pure (some Conversion.display)
        | ['r'] => pure (some Conversion.quoted)
        | ['a'] => pure (some Conversion.ascii)
        | _ => throw .unreadable
      let (v, numbering) ← placeValue placed named numbering (path.takeWhile (!beginsStep ·))
      let v ← along path.length v (path.dropWhile (!beginsStep ·))
      let (layout, numbering) ← filledBraces placed named fuel numbering layout
      let text ← Layout.format (← Evaluation.converted v conversion) (String.ofList layout)
      let (rest, numbering) ← filledBraces placed named fuel numbering rest
      return (text.toList ++ rest, numbering)
  | fuel + 1, numbering, c :: cs => do
    let (rest, numbering) ← filledBraces placed named fuel numbering cs
    return (c :: rest, numbering)

/-- A text with arguments in the places in braces. -/
def filledText (s : String) (placed : Option (List Value))
    (named : String → Except Failure Value) : Except Failure Value := do
  let (text, _) ← filledBraces placed named (s.length + 1) .open s.toList
  return TextMember.ofChars text

/-- What the members of texts give. -/
def ofText? (m : Machine) (s : String) (name : String) (placed : List Value)
    (named : List (String × Value)) : Evaluation (Option Value) := do
  match name, placed with
  | "join", [v] => if named.isEmpty then return some (← joined m s v) else throw .wrongKind
  | "format", placed =>
    return some (← filledText s (some placed) fun name =>
      match named.lookup name with
      | some v => .ok v
      | none => .error .missingEntry)
  | "format_map", [source] =>
    return some (← filledText s none fun name => source.item (.text name))
  | name, placed =>
    if name.startsWith "__" then return none else TextMember.call? name s.toList placed named

/-- A result about bytes that change in place, where bytes come out as such. -/
def inPlace : Value → Value
  | .object (.bytes bs) => .object (.byteArray bs)
  | .list vs => .list (allInPlace vs)
  | .tuple vs => .tuple (allInPlace vs)
  | v => v
where
  /-- The same for the values of a row. -/
  allInPlace : List Value → List Value
    | [] => []
    | v :: vs => inPlace v :: allInPlace vs

/-- What the members of bytes give. -/
def ofBytes? (m : Machine) (bs : List Nat) (name : String) (placed : List Value)
    (named : List (String × Value)) : Evaluation (Option Value) := do
  match name, placed with
  | "join", [v] =>
    if !named.isEmpty then throw .wrongKind
    let rows ← (← m.items v).mapM fun v => do
      match Layout.bytesOf? (← opened v) with
      | some bs => pure bs
      | none => throw .wrongKind
    return some (.object (.bytes (List.intercalate bs rows)))
  | name, placed =>
    if name.startsWith "__" then return none else BytesMember.call? name bs placed named

/-- What the members of bytes that change in place give. -/
def ofByteArray? (m : Machine) (bs : List Nat) (name : String) (placed : List Value)
    (named : List (String × Value)) : Evaluation (Option Value) := do
  match name, placed with
  | "copy", [] => return some (.object (.byteArray bs))
  | name, placed => return (← ofBytes? m bs name placed named).map inPlace

/-! ## Types -/

/-- The digits of a number to the base 16, in front of a point and behind it, with the power of two
that it is multiplied by. -/
def hexParts? (cs : List Char) : Option (List Nat × List Nat × Int) := do
  let cs := if (cs.take 2).map Char.toLower == ['0', 'x'] then cs.drop 2 else cs
  let isDigit (c : Char) := (Quotation.hexDigit? c).isSome
  let front := cs.takeWhile isDigit
  let (back, cs) := match cs.dropWhile isDigit with
    | '.' :: rest => (rest.takeWhile isDigit, rest.dropWhile isDigit)
    | rest => ([], rest)
  if front.isEmpty && back.isEmpty then none
  let power ← match cs with
    | [] => some 0
    | c :: rest =>
      let (isNegative, ds) := Numeral.takeSign rest
      if (c == 'p' || c == 'P') && !ds.isEmpty && ds.all Numeral.isDigit then
        some (Numeral.signed isNegative (Numeral.digitsValue ds))
      else none
  return (← front.mapM Quotation.hexDigit?, ← back.mapM Quotation.hexDigit?, power)

/-- The floating-point number that a text writes to the base 16. -/
def realOfHex (s : String) : Except Failure Value := do
  let (isNegative, cs) := Numeral.takeSign (Text.trim s.toList)
  let sign (x : Binary64) : Value := .float (if isNegative then x.neg else x)
  match String.ofList (cs.map Char.toLower) with
  | "inf" | "infinity" => return sign (.infinite false)
  | "nan" => return .float .nan
  | _ =>
    match hexParts? cs with
    | none => throw .unreadable
    | some (front, back, power) =>
      let n := (front ++ back).foldl (16 * · + ·) 0
      let power := power - 4 * back.length
      if n = 0 || (n.log2 : Int) + power < -1080 then return sign .zero
      if 1030 < (n.log2 : Int) + power then throw .numberTooLarge
      match Binary64.ofRatio false (n * Nat.pow 2 power.toNat) (Nat.pow 2 (-power).toNat) with
      | .infinite _ => throw .numberTooLarge
      | x => return sign x

/-- What the members of a type give. -/
def ofType? (m : Machine) (t : BuiltinType) (name : String) (placed : List Value)
    (named : List (String × Value)) : Evaluation (Option Value) := do
  match name, placed with
  | "maketrans", placed =>
    if t == .bytes || t == .other "bytearray" then BytesMember.call? name [] placed named
    else TextMember.call? name [] placed named
  | "fromhex", [v] =>
    match t with
    | .bytes => BytesMember.call? name [] [v] named
    | .other _ => return (← BytesMember.call? name [] [v] named).map inPlace
    | _ => return some (← realOfHex (String.ofList (← TextMember.textOf v)))
  | "from_bytes", placed =>
    match ← TextMember.bind ["bytes", "byteorder", "signed"] placed named with
    | [some v, order, signed] =>
      let n ← ofBytesIn (← Change.bytesFrom m v) order signed
      return some (if t == .bool then .bool n.truthy else n)
    | _ => throw .wrongKind
  | "mro", [] => return some (.list ((t :: t.above).map .builtin))
  | "mro", _ => throw .wrongKind
  | "__class_getitem__", [v] => return some (← (Value.builtin t).item v)
  | "__or__", [v] => return some (← ifOffered ((Value.builtin t).bar v))
  | "__ror__", [v] => return some (← ifOffered (v.bar (.builtin t)))
  | "__instancecheck__", [v] => return some (.bool (v.isOf t))
  | "__subclasscheck__", [.builtin s] => return some (.bool (s.isBelow t))
  | "fromkeys", placed =>
    let (v, value) ← match named, placed with
      | [], [v] => pure (v, Value.null)
      | [], [v, value] => pure (v, value)
      | _, _ => throw .wrongKind
    let keys ← (← m.items v).mapM settled
    return some (.map (← Entries.ofPairs? (keys.map (·, value))))
  | "fromhex", _ => throw .wrongKind
  | "__prepare__", _ => return some (.map [])
  | "__getformat__", [v] => return some (← formatOf v)
  | "__getformat__", _ => throw .wrongKind
  | _, _ => return none

/-! ## Calls -/

/-- What the members of a slice and of a range give. -/
def ofPlaces? (v : Value) (name : String) (placed : List Value) :
    Except Failure (Option Value) := do
  match v, name, placed with
  | .object (.slice start stop step), "indices", [n] =>
    let n ← TextMember.indexOf (some n) 0
    if n < 0 then throw .unreadable
    let s ← Slice.make start stop step
    let (first, last) := s.ends n.toNat
    return some (.tuple [.int first, .int last, .int s.step])
  | .object (.range ..), "index", [_] | .object (.range ..), "count", [_] =>
    ofRow? (← v.countedItems) v name placed
  | _, _, _ => return none

/-- What a member of a value gives for arguments, if it is followed up. -/
def call? (m : Machine) (v : Value) (name : String) (placed : List Value)
    (named : List (String × Value)) : Evaluation (Option Value) := do
  let own ← match v with
    | .text s => ofText? m s name placed named
    | .fieldType t => ofText? m t.name name placed named
    | .object (.bytes bs) => ofBytes? m bs name placed named
    | .object (.byteArray bs) => ofByteArray? m bs name placed named
    | .builtin t => ofType? m t name placed named
    | v =>
      match v, Numeric.ofValue? v with
      | _, some n => ofNumber? n name placed named
      | v, none =>
        if !named.isEmpty then throw .wrongKind
        match v with
        | .list items | .tuple items => ofRow? items v name placed
        | .map es => ofMap? es name placed
        | .object (.set isFrozen items places) => ofSet? m isFrozen items places name placed
        | .object (.view _ (.map _)) =>
          match name, placed with
          | "isdisjoint", [w] =>
            let items ← (← v.items).mapM settled
            return some (.bool !((← Change.settledItems m w).any fun w => items.any w.same))
          | _, _ => pure none
        | v => ofPlaces? v name placed
  match own with
  | some w => return some w
  | none => if named.isEmpty then ofAny? m v name placed else throw .wrongKind

/-- The members that hand on what lies in a list or a map as it is. -/
def handingOn : List String :=
  Member.words "get copy __getitem__ __reversed__ fromkeys __add__ __mul__ __rmul__"

/-- What a member of a value gives that needs what refers to the value. -/
def ofReference? (m : Machine) (v : Value) (name : String) (placed : List Value)
    (named : List (String × Value)) : Evaluation (Option Value) := do
  match v, name with
  | v, "__call__" => return some (← m.call v placed named)
  | v, "__iter__" =>
    if placed.isEmpty && named.isEmpty then return some (← streamOf v) else throw .wrongKind
  | .object (.held cell), name =>
    match ← opened v, mapParts.lookup name with
    | .map _, some part =>
      if placed.isEmpty && named.isEmpty then return some (.object (.view part v))
      else throw .wrongKind
    | _, _ => Change.call? m v cell name placed named
  | _, _ => return none

/-- What a member of a value gives for arguments. -/
def call (m : Machine) (v : Value) (name : String) (placed : List Value)
    (named : List (String × Value)) : Evaluation Value := do
  match ← opened v with
  | .builtin _ => pure ()
  | seen =>
    if !Member.mayTake seen.typeOf name placed.length named.length then throw .wrongKind
  match ← ofReference? m v name placed named, placed with
  | some w, _ => return w
  | none, placed => do
    let found ←
      if handingOn.contains name then
        let placed ← match placed with
          | [] => pure []
          | v :: more => do pure ((← settled v) :: more)
        call? m (← opened v) name placed named
      else
        let named ← named.mapM fun (s, v) => do return (s, ← settled v)
        call? m (← settled v) name (← placed.mapM settled) named
    hold (found.getD Numeric.unknown)

end Method

end PromptContract
