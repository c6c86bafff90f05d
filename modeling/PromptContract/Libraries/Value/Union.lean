import PromptContract.Libraries.Expression.Rules
import PromptContract.Value.Conversion

/-!
# Types made of types

A union never holds a union, nor a member twice, and a union of one member is that member
(`Value.unionOf`). Types may also be joined by bars (`Value.bar`), which makes a union too, and be
given notes (`Value.withNotes`). What stands inside a type need not be one: null stands for its
type, and a text for the type of that name, which is looked up only where the type is used.
-/

namespace PromptContract

/-- An operator on the binary digits of two integers. Digits enough to hold both with their signs
are taken. -/
def bitwise (op : {w : Nat} → BitVec w → BitVec w → BitVec w) (m n : Int) : Int :=
  let width := max m.natAbs.log2 n.natAbs.log2 + 2
  (op (BitVec.ofInt width m) (BitVec.ofInt width n)).toInt

/-- The integer whose binary digits are set where those of one of two integers are. -/
def bitwiseOr (m n : Int) : Int := bitwise (· ||| ·) m n

/-- The expression in a text that gives a type, or why there is none. -/
def typeExpression (s : String) : Except Failure Expression :=
  if s.isEmpty then .error .missingItem
  else if s.toList.contains '\x00' then .error .unreadable
  else match Expression.soundOfText? s with
    | some e => .ok e
    | none => .error .badExpression

namespace Value

/-- A value as it stands for a type: null for its type, and a name for the type it refers to. The
name must be an expression. -/
def asAnnotation : Value → Except Failure Value
  | .null => .ok (.builtin .none)
  | .text s => do
    let _ ← typeExpression s
    return .reference (.given s)
  | .fieldType t => .ok (.reference (.ofType t))
  | v => .ok v

/-- The name for types that may be null, which is no type without another. -/
def optionalName : Value := .object (.routine "Optional")

/-- A value as it stands inside a type, where a tuple cannot stand. -/
def asArgument : Value → Except Failure Value
  | .tuple _ => .error .wrongKind
  | .object (.routine "Optional") => .error .wrongKind
  | v => v.asAnnotation

/-- The members that a type brings to a union. -/
def unionMembers : Value → List Value
  | .null => [.builtin .none]
  | .union _ members => members
  | v => [v]

/-- Leaves out the members that equal an earlier one. -/
def withoutRepeats (members : List Value) : List Value :=
  members.foldl (fun kept v => if kept.any v.same then kept else kept ++ [v]) []

/-- The union of types; a single one stands for itself. -/
def ofMembers (style : UnionStyle) (types : List Value) : Value :=
  match withoutRepeats (types.flatMap unionMembers) with
  | [one] => one
  | members => .union style members

/-- The union of values that stand for types, of which there must be one. The members must be fit
for a set. -/
def unionOf (types : List Value) : Except Failure Value := do
  let types ← types.mapM asArgument
  if types.isEmpty || !(types.flatMap unionMembers).all isKey then throw .wrongKind
  return ofMembers .named types

/-- The type of a value or null. -/
def optional (type : Value) : Except Failure Value := unionOf [type, .null]

/-- The type under the name of an annotation that takes a number of parameters. They are given by a
tuple, or by a single value. -/
def annotation (name : String) (origin : BuiltinType) (count : Nat) (given : Value) :
    Except Failure Value := do
  let arguments ← match given with
    | .tuple vs => vs.mapM asArgument
    | v => do pure [← v.asArgument]
  if arguments.length == count then return .generic (some name) origin arguments
  else throw .wrongKind

/-- The type of the lists of items of a type, which may stand alone in a tuple. -/
def listType (item : Value) : Except Failure Value := annotation "List" .list 1 item

/-- Whether a value is a type that is made of others and written with a name. -/
def isNamedType : Value → Bool
  | .union .named _ | .generic (some _) .. | .typeName .. | .annotated .. | .reference _
  | .unpacked _ | .object (.routine "Optional") => true
  | _ => false

/-- Whether a value is null, a type of its own, or a union of these with bars. -/
def isPlainType : Value → Bool
  | .null | .builtin _ | .anyType | .record .. | .itself _ | .union .bars _
  | .generic none .. => true
  | _ => false

/-- What two values with a bar between them are. Types make a union, truth values and integers are
combined digit by digit, and of two maps the second adds to the first. -/
def bar (v w : Value) : Except Failure Value :=
  if v.isNamedType || w.isNamedType then unionOf [v, w]
  else match v, w with
    | .null, .null => .error .wrongKind
    | .bool a, .bool b => .ok (.bool (a || b))
    | .bool a, .int n => .ok (.int (bitwiseOr (boolInt a) n))
    | .int m, .bool b => .ok (.int (bitwiseOr m (boolInt b)))
    | .int m, .int n => .ok (.int (bitwiseOr m n))
    | .map es, .map fs => .ok (.map (fs.foldl (fun es e => Entries.put es e.1 e.2) es))
    | v, w =>
      if v.isPlainType && w.isPlainType then .ok (ofMembers .bars [v, w]) else .error .wrongKind

/-- Values with bars between them. -/
def joined : List Value → Except Failure Value
  | [] => .error .wrongKind
  | v :: vs => vs.foldlM bar v

/-- Whether a value says where it was defined, as types and contract objects do and plain data does
not. -/
def hasHome : Value → Bool
  | .bool _ | .int _ | .float _ | .text _ | .list _ | .tuple _ | .map _ | .thing => false
  | .object (.function ..) | .object (.routine _) | .object (.foreign true) => true
  | .object _ => false
  | _ => true

/-- A type with notes, of which there must be one; the notes of a type that has some already are put
in front of them. -/
def withNotes (type : Value) (notes : List Value) : Except Failure Value := do
  if notes.isEmpty then throw .wrongKind
  match ← type.asArgument with
  | .annotated base earlier => return .annotated base (earlier ++ notes)
  | base => if base.hasHome then return .annotated base notes else throw .missingMember

end Value

end PromptContract
