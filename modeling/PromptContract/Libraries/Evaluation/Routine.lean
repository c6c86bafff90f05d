import PromptContract.Libraries.Evaluation.Construction

/-!
# Calls of functions with names

What comes out when a function with a name is called (`Routine.call`). A function that is not
followed up gives an object of which nothing is known. The functions that a type offers for its
values have the name of the type in front of their own, and take the value first.
-/

namespace PromptContract.Routine

open Evaluation

/-- The functions that are known everywhere. -/
def names : List String :=
  ["__build_class__", "__import__", "abs", "aiter", "all", "anext", "any", "ascii", "bin",
    "breakpoint", "callable", "chr", "compile", "delattr", "dir", "divmod", "eval", "exec",
    "format", "getattr", "globals", "hasattr", "hash", "hex", "id", "input", "isinstance",
    "issubclass", "iter", "len", "locals", "max", "min", "next", "oct", "open", "ord", "pow",
    "print", "repr", "round", "setattr", "sorted", "sum", "vars"]

/-- Whether a value can be called. -/
def isCallable : Value → Bool
  | .builtin _ | .anyType | .record .. | .itself _ | .generic .. | .typeName .. | .annotated ..
  | .union .named _ => true
  | .object (.function ..) | .object (.routine _) | .object (.method ..) | .object (.given ..)
  | .object (.foreign true) => true
  | _ => false

/-- The first of the items for which a function gives the least or the greatest value. -/
def extreme (m : Machine) (r : Relation) (placed : List Value) (named : List (String × Value)) :
    Evaluation Value := do
  if named.any fun n => n.1 != "key" && n.1 != "default" then throw .wrongKind
  if 1 < placed.length && (named.lookup "default").isSome then throw .wrongKind
  let items ← match placed with
    | [] => throw .wrongKind
    | [v] => m.items v
    | vs => pure vs
  match ← Change.keyed m items named with
  | [] =>
    match named.lookup "default" with
    | some v => return v
    | none => throw .unreadable
  | first :: rest =>
    let best ← rest.foldlM (fun best v => do
      if ← Value.ordered r v.1 best.1 then return v else return best) first
    return best.2

/-- Whether a value has an item that counts as true, or as false. It is gone through until one comes
up. -/
def hasItem (m : Machine) (counts : Bool) (v : Value) : Evaluation Bool := do
  if ← isStream v then go v Value.itemLimit
  else (← m.items v).anyM fun v => do return (← isTrue v) == counts
where
  /-- Whether a stream has such an item. -/
  go (stream : Value) : Nat → Evaluation Bool
    | 0 => throw .tooManyItems
    | fuel + 1 => do
      match ← m.next stream with
      | none => return false
      | some v => if (← isTrue v) == counts then return true else go stream fuel

/-- Items added up behind a value. -/
def sum (m : Machine) (v start : Value) : Evaluation Value := do
  if start.plainText?.isSome then throw .wrongKind
  (← Change.settledItems m v).foldlM (fun s v => s.binary .add v) start

/-- A number rounded to an integer or to some places. -/
def round (v : Value) (places : Option Value) : Except Failure Value :=
  match Numeric.ofValue? v with
  | some n => n.rounded places
  | none => if v.isUnknown then .ok Numeric.unknown else .error .wrongKind

/-- An integer to a base, with the mark of the base behind its sign. -/
def toBase (base : Nat) (mark : String) (v : Value) : Except Failure Value :=
  match v.index? with
  | some n =>
    let ds := String.ofList (Nat.toDigits base n.natAbs)
    .ok (.text ((if n < 0 then "-" else "") ++ mark ++ ds))
  | none => .error .wrongKind

/-- The character of a number. What is no character by itself is not followed up. -/
def character (v : Value) : Except Failure Value :=
  match v.index? with
  | some n =>
    if n < 0 || 0x110000 ≤ n then .error .unreadable
    else if 0xD800 ≤ n && n < 0xE000 then .ok Numeric.unknown
    else .ok (.text (String.singleton (Char.ofNat n.toNat)))
  | none => .error .wrongKind

/-- The number of the only character of a text. -/
def code (v : Value) : Except Failure Value :=
  match v, v.comparedText?.map String.toList with
  | .object (.bytes [b]), _ => .ok (.int b)
  | _, some [c] => .ok (.int c.toNat)
  | _, _ => .error .wrongKind

/-- A text that must be one. -/
def textOf (v : Value) : Except Failure String :=
  match v.comparedText? with
  | some s => .ok s
  | none => .error .wrongKind

/-- What a member of a value is, or another value where it has none of the name. -/
def memberOr (v name : Value) (otherwise : Option Value) : Evaluation Value := do
  let s ← textOf name
  if let some w ← madeMember? v s then return w
  match (← opened v).member s, otherwise with
  | .error .missingMember, some w => return w
  | _, _ => memberOf v s

/-- The type that is asked about, which must be one. -/
def classOf (v : Value) : Except Failure BuiltinType :=
  match v with
  | .builtin t => .ok t
  | .anyType => .ok (.other "Any")
  | .record name _ | .itself name => .ok (.other name)
  | _ => .error .wrongKind

/-- Whether a type is below one of the types that a value stands for. -/
def isBelowAny (s : BuiltinType) (t : Value) : Except Failure Bool :=
  match t with
  | .record name _ | .itself name => .ok (s == .other name || name == "BaseModel" && isRecord)
  | t => t.anyType? s.isBelow
where
  /-- Whether the type is no other than one of records. -/
  isRecord : Bool :=
    match s with
    | .other name => !BuiltinType.failures.contains name
    | _ => false

/-- The failure of setting a member of a value. -/
def notSettable : Value → Failure
  | .field _ | .contract _ => .raised "FrozenInstanceError"
  | .builtin _ => .wrongKind
  | _ => .missingMember

/-- The names that a value offers something under, in order. -/
def offeredNames (v : Value) : List String :=
  let parts : List (String × Value) := (Member.partsOf? v).getD []
  let names := match v with
    | .builtin t => Member.shared ++ Member.own t
    | v => Member.shared ++ Member.own v.typeOf ++ parts.map Prod.fst
  names.eraseDups.mergeSort fun s t => s ≤ t

/-- What a function says of values that it does not change, if it is followed up. -/
def ofValues? (name : String) (placed : List Value) : Except Failure (Option Value) := do
  match name, placed with
  | "abs", [v] => return some (← v.magnitude)
  | "ascii", [v] => return some (.text (Layout.asciiForm (← v.toQuoted)))
  | "repr", [v] => return some (.text (← v.toQuoted))
  | "bin", [v] => return some (← toBase 2 "0b" v)
  | "oct", [v] => return some (← toBase 8 "0o" v)
  | "hex", [v] => return some (← toBase 16 "0x" v)
  | "callable", [v] => return some (.bool (isCallable v))
  | "chr", [v] => return some (← character v)
  | "ord", [v] => return some (← code v)
  | "divmod", [v, w] => return some (.tuple [← v.binary .floorDivide w, ← v.binary .remainder w])
  | "format", [v] => return some (.text (← Layout.format v ""))
  | "format", [v, w] => return some (.text (← Layout.format v (← textOf w)))
  | "hash", [v] => if v.isKey then return some v.hash else throw .wrongKind
  | "isinstance", [v, t] => return some (.bool (← t.anyType? v.isOf))
  | "issubclass", [s, t] => return some (.bool (← isBelowAny (← classOf s) t))
  | "len", [v] => return some (.int (← v.count))
  | "pow", placed => return some (← Method.powerOf placed)
  | "round", [v] => return some (← round v none)
  | "round", [v, n] => return some (← round v (some n))
  | "setattr", [.object (.function ..), _, _] => return some .null
  | "setattr", [v, _, _] | "delattr", [v, _] => throw (notSettable v)
  | "aiter", [_] | "anext", _ => throw .wrongKind
  | name, _ =>
    let isFollowed := ["abs", "ascii", "repr", "bin", "oct", "hex", "callable", "chr", "ord",
      "divmod", "format", "hash", "isinstance", "issubclass", "len", "setattr", "delattr",
      "round", "aiter"].contains name
    if isFollowed then throw .wrongKind else return none

/-- What a function gives that needs what refers to its arguments, if it is followed up. -/
def ofReferences? (m : Machine) (name : String) (placed : List Value) :
    Evaluation (Option Value) := do
  match name, placed with
  | "all", [v] => return some (.bool !(← hasItem m false v))
  | "any", [v] => return some (.bool (← hasItem m true v))
  | "getattr", [v, name] => return some (← memberOr v name none)
  | "getattr", [v, name, w] => return some (← memberOr v name (some w))
  | "hasattr", [v, name] =>
    let s ← textOf name
    if (← madeMember? v s).isSome then return some (.bool true)
    match (← opened v).member s with
    | .ok _ => return some (.bool true)
    | .error _ => return some (.bool false)
  | "id", [v] => return some (.object (.hash (.tuple [.text "id", v])))
  | "iter", [v] => return some (← streamOf v)
  | "iter", [f, last] =>
    if isCallable f then return some (← holdStream (.called f last)) else throw .wrongKind
  | "next", [v] => return some (← Change.next m v)
  | "next", [v, w] => do
    if !(← isStream v) then throw .wrongKind
    return some ((← m.next v).getD w)
  | "vars", [v] =>
    match (← opened v).member "__dict__" with
    | .ok w => return some (← hold w)
    | .error _ => throw .wrongKind
  | "dir", [v] => return some (.list ((offeredNames (← opened v)).map .text))
  | "isinstance", [v, t] => ofValues? "isinstance" [← opened v, t]
  | "len", [v] => ofValues? "len" [← opened v]
  | name, _ =>
    let isFollowed := ["all", "any", "getattr", "hasattr", "id", "iter", "next", "isinstance",
      "len"].contains name
    if isFollowed then throw .wrongKind else return none

/-- What a function gives, if it is followed up. -/
def call? (m : Machine) (name : String) (placed : List Value) (named : List (String × Value)) :
    Evaluation (Option Value) := do
  let plain (placed : List Value) : Evaluation (Option Value) := do
    match ← ofReferences? m name placed with
    | some v => return some v
    | none => ofValues? name (← placed.mapM settled)
  match name, placed with
  | "min", placed => return some (← extreme m .less placed named)
  | "max", placed => return some (← extreme m .greater placed named)
  | "sorted", [v] => do return some (.list (← Change.sorted m (← m.items v) named))
  | "sorted", _ => throw .wrongKind
  | "sum", [v] => return some (← sum m v (← settled ((named.lookup "start").getD (.int 0))))
  | "sum", [v, start] =>
    if named.isEmpty then return some (← sum m v (← settled start)) else throw .wrongKind
  | "sum", _ => throw .wrongKind
  | "print", _ => return some .null
  | "round", placed => plain ((← TextMember.bind ["number", "ndigits"] placed named).filterMap id)
  | "pow", placed => plain ((← TextMember.bind ["base", "exp", "mod"] placed named).filterMap id)
  | name, placed =>
    if named.isEmpty then plain placed
    else if ["compile", "open", "__import__"].contains name then return none
    else if names.contains name then throw .wrongKind
    else return none

/-- The type and the name of a function that a type offers for its values. -/
def ofType? (name : String) : Option (BuiltinType × String) :=
  match name.splitOn "." with
  | [t, s] => some (.ofName t, s)
  | _ => none

/-- What a function with a name gives for arguments. -/
def call (m : Machine) (name : String) (placed : List Value) (named : List (String × Value)) :
    Evaluation Value := do
  match ofType? name, placed with
  | some (t, s), v :: placed =>
    if s == "__new__" then Construction.call m t placed named
    else if Member.parts.contains s then throw .wrongKind
    else if (← opened v).isOf t then Method.call m v s placed named
    else throw .wrongKind
  | some _, [] => throw .wrongKind
  | none, placed => return (← call? m name placed named).getD Numeric.unknown

end PromptContract.Routine
