import PromptContract.Libraries.Evaluation.Arithmetic
import PromptContract.Libraries.Value.Order

/-!
# Places in rows

The items of lists, tuples, texts, bytes and ranges have places, which may be counted from the end.
A slice takes the items from a place on, each some steps further, in front of another place; places
beyond the ends count as the ends (`Slice.places`). Maps have values under keys, and some types take
parameters.
-/

namespace PromptContract

/-- The ends and the step of a slice. -/
structure Slice where
  start : Option Int
  stop : Option Int
  step : Int

namespace Slice

/-- A place of a row of a given length: counted from the end if negative, and one of the ends if
beyond them. Going backwards, the ends are one place further down. -/
def clamp (length : Nat) (backwards : Bool) (place : Int) : Int :=
  let place := if place < 0 then place + length else place
  if backwards then max (-1) (min place (length - 1)) else max 0 (min place length)

/-- The first place of a slice of a row of a given length, and where it stops. -/
def ends (s : Slice) (length : Nat) : Int × Int :=
  let backwards := s.step < 0
  let first : Int := if backwards then length - 1 else 0
  let last : Int := if backwards then -1 else length
  let place (given : Option Int) (usual : Int) := (given.map (clamp length backwards)).getD usual
  (place s.start first, place s.stop last)

/-- The places of a slice of a row of a given length. -/
def places (s : Slice) (length : Nat) : List Int :=
  let (first, last) := s.ends length
  Value.rangeItems first last s.step

/-- The items of a row at the places of a slice. -/
def of {α : Type} (s : Slice) (items : List α) : List α :=
  let row := items.toArray
  (s.places items.length).filterMap fun i => row[i.toNat]?

/-- The end of a slice, if one is given. -/
def end? : Value → Except Failure (Option Int)
  | .null => .ok none
  | v =>
    match v.index? with
    | some n => .ok (some n)
    | none => .error .wrongKind

/-- The slice with the given ends and step, which must not be zero. -/
def make (start stop step : Value) : Except Failure Slice := do
  let step := (← end? step).getD 1
  if step = 0 then throw .unreadable
  return ⟨← end? start, ← end? stop, step⟩

end Slice

namespace Value

/-- The place of a row that an index means. -/
def placeOf? (length : Nat) (index : Int) : Option Nat :=
  let place := if index < 0 then index + length else index
  if place < 0 || (length : Int) ≤ place then none else some place.toNat

/-- The item of a row at a place, or those at the places of a slice. -/
def rowItem {α : Type} (toItem : α → Value) (toRow : List α → Value) (items : List α)
    (index : Value) : Except Failure Value :=
  match index with
  | .object (.slice start stop step) => do
    return toRow ((← Slice.make start stop step).of items)
  | index =>
    match index.index? with
    | none => .error .wrongKind
    | some n =>
      match (placeOf? items.length n).bind fun i => items[i]? with
      | some a => .ok (toItem a)
      | none => .error .missingItem

/-- The integer of a range at a place, or the range of those at the places of a slice. -/
def rangeItem (start stop step : Int) (index : Value) : Except Failure Value :=
  let length := rangeLength start stop step
  match index with
  | .object (.slice first last stride) => do
    let s ← Slice.make first last stride
    let (first, last) := s.ends length
    return .object (.range (start + step * first) (start + step * last) (step * s.step))
  | index =>
    match index.index? with
    | none => .error .wrongKind
    | some n =>
      match placeOf? length n with
      | some i => .ok (.int (start + step * (i : Int)))
      | none => .error .missingItem

/-- Whether an integer is in a range. -/
def isInRange (start stop step n : Int) : Bool :=
  let (low, high) := if 0 < step then (start, stop) else (stop + 1, start + 1)
  low ≤ n && n < high && (n - start) % step == 0

/-- The values of a key in a map, which must be there. -/
def entryOf (es : Entries) (key : Value) : Except Failure Value :=
  if !key.isKey then .error .wrongKind
  else match es.lookup? key with
    | some v => .ok v
    | none => .error .missingEntry

/-- The parameters that are given to a type. -/
def parameters : Value → List Value
  | .tuple vs => vs
  | v => [v]

/-- The types that take parameters under their own names. -/
def takesParameters : BuiltinType → Bool
  | .list | .dict | .tuple | .set | .frozenset | .type => true
  | .other name => name == "enumerate"
  | _ => false

/-- The type of tuples with given types of items, which may be none or any number of one type. -/
def tupleType (given : Value) : Except Failure Value := do
  match given with
  | .tuple [] => return .generic (some "Tuple") .tuple []
  | .tuple [v, .object .ellipsis] =>
    return .generic (some "Tuple") .tuple [← v.asArgument, .object .ellipsis]
  | given => return .generic (some "Tuple") .tuple (← given.parameters.mapM asArgument)

/-- The type that the name of an annotation and its parameters stand for. -/
def annotated? (name : String) (origin : BuiltinType) (given : Value) : Except Failure Value :=
  match name with
  | "Tuple" => tupleType given
  | name => annotation name origin (if origin == .dict then 2 else 1) given

/-- What stands under an index of a value: an item of a row, a value of a map, or a type with
parameters. -/
def item (v index : Value) : Except Failure Value :=
  match v with
  | .list items => rowItem id .list items index
  | .tuple items => rowItem id .tuple items index
  | .map es => entryOf es index
  | .object (.bytes bs) =>
    rowItem (fun (b : Nat) => .int b) (fun bs => .object (.bytes bs)) bs index
  | .object (.byteArray bs) =>
    rowItem (fun (b : Nat) => .int b) (fun bs => .object (.byteArray bs)) bs index
  | .object (.range start stop step) => rangeItem start stop step index
  | .object (.routine "Optional") =>
    match index with
    | .tuple [v] => v.optional
    | v => v.optional
  | .object (.foreign false) => .ok Numeric.unknown
  | .builtin (.other "FieldType") =>
    match FieldType.all.find? fun t => index.isText t.name.toUpper with
    | some t => .ok (.fieldType t)
    | none => .error .missingEntry
  | .builtin t =>
    if takesParameters t then .ok (.generic none t index.parameters) else .error .wrongKind
  | .typeName name origin => annotated? name origin index
  | v =>
    match v.comparedText? with
    | some s =>
      rowItem (fun c => .text (String.singleton c)) (fun cs => .text (String.ofList cs)) s.toList
        index
    | none => .error .wrongKind

/-- Whether a text occurs in another, or one row of bytes in another. -/
def occurs {α : Type} [BEq α] (part : List α) : List α → Bool
  | [] => part.isEmpty
  | a :: rest => part.isPrefixOf (a :: rest) || occurs part rest

/-- What is looked for in a set for a value: for a set the one with its items that does not
change. -/
def asElement : Value → Value
  | .object (.set _ items places) => .object (.set true items places)
  | v => v

/-- Whether a value is among the items of another. -/
def contains (v item : Value) : Except Failure Bool :=
  match v with
  | .map es => if item.isKey then .ok (Entries.has es item) else .error .wrongKind
  | .object (.set _ items _) =>
    let item := item.asElement
    if item.isKey then .ok (items.any item.same) else .error .wrongKind
  | .object (.view .keys (.map es)) =>
    if item.isKey then .ok (Entries.has es item) else .error .wrongKind
  | .object (.view .items (.map es)) =>
    match item with
    | .tuple [k, w] => .ok (((Entries.lookup? es k).map w.same).getD false)
    | _ => .ok false
  | .object (.range start stop step) =>
    match item.index? with
    | some n => .ok (isInRange start stop step n)
    | none => .ok ((rangeItems start stop step).any fun (n : Int) => item.same (.int n))
  | .object (.bytes bs) | .object (.byteArray bs) =>
    match item with
    | .object (.bytes part) | .object (.byteArray part) => .ok (occurs part bs)
    | item =>
      match item.index? with
      | some n => if 0 ≤ n && n < 256 then .ok (bs.contains n.toNat) else .error .unreadable
      | none => .error .wrongKind
  | v =>
    match v.comparedText? with
    | some s =>
      match item.comparedText? with
      | some part => .ok (occurs part.toList s.toList)
      | none => .error .wrongKind
    | none => do return (← v.items).any item.same

/-- Whether two values are the same thing. Values that cannot change are if they are equal and of
one kind, and those that can change if they are in one cell. -/
def identical : Value → Value → Bool
  | .null, .null => true
  | .bool a, .bool b => a == b
  | .int m, .int n => m == n
  | .float x, .float y => x == y
  | .text s, .text t => s == t
  | .tuple [], .tuple [] => true
  | .builtin s, .builtin t => s == t
  | .anyType, .anyType => true
  | .typeName a _, .typeName b _ => a == b
  | .fieldType s, .fieldType t => s == t
  | .object .ellipsis, .object .ellipsis | .object .notOffered, .object .notOffered => true
  | .object (.routine s), .object (.routine t) => s == t
  | .object (.given s _ none), .object (.given t _ none) => s == t
  | .object (.bytes a), .object (.bytes b) => a == b
  | .object (.nan m), .object (.nan n) => m == n
  | .object (.held a), .object (.held b) => a == b
  | v@(.object (.made ..)), w@(.object (.made ..)) => v.same w
  | .field f, .field g => (Value.field f).same (.field g)
  | _, _ => false

/-- Whether two values stand in a relation, which they must have an order for. -/
def ordered (r : Relation) (v w : Value) : Except Failure Bool :=
  if v.isUnknown || w.isUnknown then .ok true
  else match v.stands? r w with
  | some b => .ok b
  | none => .error .wrongKind

/-- Whether a value is no number, and so equal to nothing. -/
def isNan : Value → Bool
  | .float .nan | .object (.nan _) => true
  | _ => false

/-- Whether two values are equal. -/
def equal (v w : Value) : Bool := !v.isNan && (v.same w || v.identical w)

/-- What a comparison of two values says. -/
def comparison (c : Comparison) (v w : Value) : Except Failure Bool :=
  match c with
  | .equal => .ok (v.equal w)
  | .notEqual => .ok !(v.equal w)
  | .less => ordered .less v w
  | .atMost => ordered .atMost v w
  | .greater => ordered .greater v w
  | .atLeast => ordered .atLeast v w
  | .is => .ok (v.identical w)
  | .isNot => .ok !v.identical w
  | .isIn => w.contains v
  | .isNotIn => do return !(← w.contains v)

end Value

end PromptContract
