import PromptContract.Failure
import PromptContract.Number.Numeral

/-!
# Reading values

What a value counts as where a truth, a row of items, a map or an integer is expected.
-/

namespace PromptContract

namespace Value

/-- The integer that a value stands for as a count or a place, if it does. -/
def index? : Value → Option Int
  | .bool b => some (boolInt b)
  | .int n => some n
  | _ => none

/-- Empty and zero objects of expressions count as false, and all others as true. -/
def truthyObject : ObjectOf Value → Bool
  | .bytes bs | .byteArray bs => !bs.isEmpty
  | .view _ (.map es) => !es.isEmpty
  | .complex z => z.isNonzero
  | .set _ items _ => !items.isEmpty
  | .range start stop step => rangeLength start stop step != 0
  | _ => true

/-- Empty and zero values count as false, and all others as true. -/
def truthy : Value → Bool
  | .null => false
  | .bool b => b
  | .int n => n != 0
  | .float x => x.isNonzero
  | .text s => !s.isEmpty
  | .list items | .tuple items => !items.isEmpty
  | .map entries => !entries.isEmpty
  | .object o => truthyObject o
  | _ => true

/-- The first of two values that counts as true, else the second. -/
def orElse (v w : Value) : Value := if v.truthy then v else w

/-- A value that counts as true is taken. -/
theorem orElse_of_truthy {v : Value} (h : v.truthy = true) (w : Value) : v.orElse w = v := if_pos h

/-- For one that counts as false the second is taken. -/
theorem orElse_of_not_truthy {v : Value} (h : v.truthy = false) (w : Value) : v.orElse w = w :=
  if_neg (Bool.eq_false_iff.mp h)

/-- A text is taken unless it is empty. -/
theorem orElse_text (s : String) (w : Value) :
    (text s).orElse w = if s.isEmpty then w else .text s := by
  cases hempty : s.isEmpty <;> simp [orElse, truthy, hempty]

/-- The characters of a text. -/
def characters (s : String) : List Value := s.toList.map fun c => .text (String.singleton c)

/-- What of a map is gone through, item by item. -/
def partItems (part : MapPart) (es : List (Value × Value)) : List Value :=
  match part with
  | .keys => es.map (·.1)
  | .values => es.map (·.2)
  | .items => es.map fun e => .tuple [e.1, e.2]

/-- The items of the objects of expressions that can be gone through. -/
def objectItems : ObjectOf Value → Except Failure (List Value)
  | .bytes bs | .byteArray bs => .ok (bs.map fun (b : Nat) => .int b)
  | .set _ items _ | .stream (.ready _ items) => .ok items
  | .view part (.map es) => .ok (partItems part es)
  | .range start stop step => .ok ((rangeItems start stop step).map .int)
  | _ => .error .wrongKind

/-- The items of a value that can be gone through: those of a list or a tuple, the keys of a map,
the characters of a text. A type with parameters gives one item, itself unpacked. -/
def items : Value → Except Failure (List Value)
  | .list vs | .tuple vs => .ok vs
  | .map es => .ok (es.map (·.1))
  | .text s => .ok (characters s)
  | .fieldType t => .ok (characters t.name)
  | v@(.generic ..) | v@(.unpacked _) => .ok [.unpacked v]
  | .object o => objectItems o
  | _ => .error .wrongKind

/-- Whether an object of expressions may be a key. -/
def isKeyObject : ObjectOf Value → Bool
  | .set isFrozen .. => isFrozen
  | .slice .. | .byteArray _ | .around .. => false
  | .view part _ => part == .values
  | _ => true

mutual
/-- Whether a value may be the key of a map: it must not be one that changes in place, nor hold one.
-/
def isKey : Value → Bool
  | .list _ | .map _ | .declaration _ | .options _ => false
  | .tuple vs => areKeys vs
  | .generic _ _ arguments => areKeys arguments
  | .unpacked v => isKey v
  | .object o => isKeyObject o
  | .annotated base notes => isKey base && areKeyNotes notes
  | .field f => isKeyField f
  | .contract ⟨inputs, outputs, instructions, _, _⟩ =>
    areKeyFields inputs && areKeyFields outputs && isKeyIfAny instructions
  | _ => true
termination_by structural v => v

/-- Whether all values of a row may be keys. -/
def areKeys : List Value → Bool
  | [] => true
  | v :: vs => isKey v && areKeys vs
termination_by structural vs => vs

/-- Whether all notes of a type may stand in a key. A note that sets bounds may. -/
def areKeyNotes : List Value → Bool
  | [] => true
  | .map _ :: vs => areKeyNotes vs
  | v :: vs => isKey v && areKeyNotes vs
termination_by structural vs => vs

/-- Whether all members of a field may stand in a key. -/
def isKeyField : FieldOf Value → Bool
  | ⟨_, _, description, required, spec⟩ => isKey description && isKey required && isKeyIfAny spec
termination_by structural f => f

/-- Whether all fields of a row may stand in a key. -/
def areKeyFields : List (FieldOf Value) → Bool
  | [] => true
  | f :: fs => isKeyField f && areKeyFields fs
termination_by structural fs => fs

/-- Whether a value may be a key if there is one. -/
def isKeyIfAny : Option Value → Bool
  | none => true
  | some v => isKey v
termination_by structural v => v
end

mutual
/-- How deep rows and maps are nested in a value. -/
def depth : Value → Nat
  | .list vs | .tuple vs => depthOfAll vs + 1
  | .map es => depthOfEntries es + 1
  | _ => 0
termination_by structural v => v

/-- How deep they are nested in the values of a row. -/
def depthOfAll : List Value → Nat
  | [] => 0
  | v :: vs => max (depth v) (depthOfAll vs)
termination_by structural vs => vs

/-- How deep they are nested in the entries of a map. -/
def depthOfEntries : List (Value × Value) → Nat
  | [] => 0
  | (k, v) :: es => max (max (depth k) (depth v)) (depthOfEntries es)
termination_by structural es => es
end

/-- Why a value has none of the operations to offer that the values of some types have. The types
themselves have them, but not without a value, and a type with notes passes on what its type has. -/
def notOf (types : List BuiltinType) : Value → Failure
  | .builtin t | .generic _ t _ => if types.contains t then .wrongKind else .missingMember
  | .annotated base _ => notOf types base
  | _ => .missingMember
termination_by structural v => v

/-- Why a value that is no map has none of a map's operations to offer. -/
def notMap : Value → Failure := notOf [.dict]

/-- One entry of a map from a row of two. -/
def pair (v : Value) : Except Failure (Value × Value) := do
  match ← v.items with
  | [key, value] => if key.isKey then .ok (key, value) else .error .wrongKind
  | _ => .error .unreadable

/-- The entries of a value that stands for a map: a map's own, those of a row of pairs, and none for
a value that counts as false. -/
def entries (v : Value) : Except Failure Entries :=
  if !v.truthy then .ok []
  else match v with
    | .map es => .ok es
    | v => do return Entries.ofPairs (← (← v.items).mapM pair)

/-- The entries of a value that must be a map. -/
def entriesOfMap : Value → Except Failure Entries
  | .map es => .ok es
  | v => .error v.notMap

/-- The entries of a value that must be a map; none for a value that counts as false. -/
def mapEntries (v : Value) : Except Failure Entries :=
  if v.truthy then v.entriesOfMap else .ok []

/-- A value as an integer (`int`): floating-point numbers lose their fraction, and texts and bytes
are read as loosely written integers. -/
def toInteger : Value → Except Failure Int
  | .bool b => .ok (boolInt b)
  | .int n => .ok n
  | .float .nan | .object (.nan _) => .error .unreadable
  | .float x => match x.truncate? with
    | some n => .ok n
    | none => .error .numberTooLarge
  | .text s => match Numeral.looseInteger? s.toList with
    | some n => .ok n
    | none => .error .unreadable
  | .object (.bytes bs) | .object (.byteArray bs) => match Numeral.bytesInteger? bs with
    | some n => .ok n
    | none => .error .unreadable
  | .fieldType _ => .error .unreadable
  | _ => .error .wrongKind

/-- Whether a value, which must be a number, is below a bound. -/
def isBelow (v : Value) (bound : Int) : Except Failure Bool :=
  match v.number? with
  | some m => .ok (m.compare? (.int bound) == some .lt)
  | none => .error .wrongKind

/-- An integer is below a bound as integers are. -/
@[simp] theorem isBelow_int (n bound : Int) :
    (Value.int n).isBelow bound = .ok (decide (n < bound)) := by
  have hcompare : (some (compare n bound) == some .lt) = decide (n < bound) := by
    rw [Bool.eq_iff_iff, beq_iff_eq, Option.some.injEq, Int.compare_eq_lt, decide_eq_true_iff]
  exact congrArg Except.ok hcompare

end Value

/-- The map of a row of entries whose keys must be fit for a map. -/
def Entries.ofPairs? (pairs : List (Value × Value)) : Except Failure Entries :=
  if pairs.all fun e => e.1.isKey then .ok (Entries.ofPairs pairs) else .error .wrongKind

end PromptContract
