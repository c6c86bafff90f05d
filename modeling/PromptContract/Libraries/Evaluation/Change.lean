import PromptContract.Libraries.Evaluation.Stream
import PromptContract.Libraries.Evaluation.TextMember
import PromptContract.Libraries.Value.Sorting

/-!
# Changes in place

The members of lists, rows of bytes, maps, sets and streams that change them (`Change.call?`). A
change has a result and a new content for the cell of the store.
-/

namespace PromptContract

/-- What a member that changes something gives, and what it makes of it. -/
structure Change where
  result : Value
  content : Value

namespace Change

open Evaluation

/-- The items of a value without references inside. -/
def settledItems (m : Machine) (v : Value) : Evaluation (List Value) := do
  (← m.items v).mapM settled

/-- The order in which one of two values is less than the other. -/
def isLess? (v w : Value) : Option Bool := (Value.ordered .less v w).toOption

/-- Items with what a function gives for them, or with what they are. -/
def keyed (m : Machine) (items : List Value) (named : List (String × Value)) :
    Evaluation (List (Value × Value)) :=
  items.mapM fun v => do
    match (named.lookup "key").bind Value.present? with
    | some f => return (← settled (← m.call f [v] []), v)
    | none => return (← settled v, v)

/-- Items in the order of what a function gives for them. -/
def sorted (m : Machine) (items : List Value) (named : List (String × Value)) :
    Evaluation (List Value) := do
  if named.any fun n => n.1 != "key" && n.1 != "reverse" then throw .wrongKind
  let row ← keyed m items named
  let falls ← match named.lookup "reverse" with
    | none => pure false
    | some v =>
      match v.index? with
      | some n => pure (n != 0)
      | none => throw .wrongKind
  let row := if falls then row.reverse else row
  match Sorting.sorted? (fun v w => isLess? v.1 w.1) row with
  | some row => return (if falls then row.reverse else row).map (·.2)
  | none => throw .wrongKind

/-! ## Lists -/

/-- A row with another row in the place of what a slice takes. -/
def withSlice (s : Slice) (items new : List Value) : Except Failure (List Value) :=
  let (first, last) := s.ends items.length
  if s.step == 1 then
    .ok (items.take first.toNat ++ new ++ items.drop (max first last).toNat)
  else
    let places := s.places items.length
    if places.length != new.length then .error .unreadable
    else
      let changed := (places.map Int.toNat).zip new
      .ok (items.zipIdx.map fun (v, i) => (changed.lookup i).getD v)

/-- A row with a value at a place, or with the items of one at those of a slice. -/
def withItem (m : Machine) (items : List Value) (index v : Value) : Evaluation (List Value) := do
  match ← settled index with
  | .object (.slice start stop step) => do
    let s ← Slice.make start stop step
    withSlice s items (← m.items v)
  | index =>
    match index.index? with
    | none => throw .wrongKind
    | some n =>
      match Value.placeOf? items.length n with
      | some i => return items.set i v
      | none => throw .missingItem

/-- A row without the items at a place or at those of a slice. -/
def withoutItem (items : List Value) (index : Value) : Except Failure (List Value) := do
  match index with
  | .object (.slice start stop step) => do
    let places := ((← Slice.make start stop step).places items.length).map Int.toNat
    return (items.zipIdx.filter fun e => !places.contains e.2).map (·.1)
  | index =>
    match index.index? with
    | none => throw .wrongKind
    | some n =>
      match Value.placeOf? items.length n with
      | some i => return items.eraseIdx i
      | none => throw .missingItem

/-- The place of the first item that equals a value. -/
def placeOf (items : List Value) (v : Value) : Evaluation Nat := do
  let v ← settled v
  match (← items.mapM settled).findIdx? v.same with
  | some i => return i
  | none => throw .unreadable

/-- The item of a row at a place, which may be counted from the end, and the other items. -/
def popped {α : Type} (items : List α) (i : Int) : Except Failure (α × List α) :=
  match (Value.placeOf? items.length i).bind fun i => (items[i]?).map (i, ·) with
  | some (i, a) => .ok (a, items.eraseIdx i)
  | none => .error .missingItem

/-- The members that change lists. -/
def listMembers : List String :=
  Member.words ("append extend insert pop remove clear reverse sort __setitem__ __delitem__ "
    ++ "__iadd__ __imul__ __init__")

/-- What a member does to a list. -/
def ofList (m : Machine) (self : Value) (items : List Value) (name : String) (placed : List Value)
    (named : List (String × Value)) : Evaluation Change := do
  let change (items : List Value) (result : Value := .null) : Evaluation Change :=
    return ⟨result, .list items⟩
  if name != "sort" && !named.isEmpty then throw .wrongKind
  match name, placed with
  | "append", [v] => change (items ++ [v])
  | "extend", [v] => do change (items ++ (← m.items v))
  | "__iadd__", [v] => do change (items ++ (← m.items v)) self
  | "__init__", [] => change []
  | "__init__", [v] => do change (← m.items v)
  | "insert", [i, v] => do
    let place := (Slice.clamp items.length false (← TextMember.placeOf (some i) 0)).toNat
    change (items.take place ++ v :: items.drop place)
  | "pop", [] => do
    let (v, items) ← popped items (-1)
    change items v
  | "pop", [i] => do
    let (v, items) ← popped items (← TextMember.placeOf (some i) 0)
    change items v
  | "remove", [v] => do change (items.eraseIdx (← placeOf items v))
  | "clear", [] => change []
  | "reverse", [] => change items.reverse
  | "sort", [] => do change (← sorted m items named)
  | "__setitem__", [i, v] => do change (← withItem m items i v)
  | "__delitem__", [i] => do change (← withoutItem items (← settled i))
  | "__imul__", [n] =>
    match n.index? with
    | some n => do change (← Value.repeated items n) self
    | none => throw .wrongKind
  | _, _ => throw .wrongKind

/-! ## Bytes -/

/-- The byte of a number. -/
def byteOf (v : Value) : Except Failure Nat :=
  match v.index? with
  | some n => if 0 ≤ n && n < 256 then .ok n.toNat else .error .unreadable
  | none => .error .wrongKind

/-- The bytes that a value holds or lists. -/
def bytesFrom (m : Machine) (v : Value) : Evaluation (List Nat) := do
  match Layout.bytesOf? (← opened v) with
  | some bs => return bs
  | none => (← m.items v).mapM fun v => byteOf v

/-- What a member does to a row of bytes. It does what it does to a list of numbers, of which each
must be a byte. -/
def ofBytes (m : Machine) (self : Value) (bs : List Nat) (name : String) (placed : List Value) :
    Evaluation Change := do
  let change (bs : List Nat) (result : Value := .null) : Evaluation Change :=
    return ⟨result, .object (.byteArray bs)⟩
  match name, placed with
  | "append", [v] => do change (bs ++ [← byteOf v])
  | "extend", [v] => do change (bs ++ (← bytesFrom m v))
  | "__iadd__", [v] => do
    match Layout.bytesOf? (← opened v) with
    | some more => change (bs ++ more) self
    | none => throw .wrongKind
  | "insert", [i, v] => do
    let place := (Slice.clamp bs.length false (← TextMember.placeOf (some i) 0)).toNat
    change (bs.take place ++ (← byteOf v) :: bs.drop place)
  | "pop", [] => do
    let (b, bs) ← popped bs (-1)
    change bs (.int b)
  | "pop", [i] => do
    let (b, bs) ← popped bs (← TextMember.placeOf (some i) 0)
    change bs (.int b)
  | "remove", [v] => do
    let b ← byteOf v
    if bs.contains b then change (bs.erase b) else throw .unreadable
  | "clear", [] => change []
  | "reverse", [] => change bs.reverse
  | "__setitem__", [i, v] => do
    let v ← match i with
      | .object (.slice ..) => do pure (Value.list ((← bytesFrom m v).map fun (b : Nat) => .int b))
      | _ => do pure (.int (← byteOf v))
    let items ← withItem m (bs.map fun (b : Nat) => .int b) i (← hold v)
    change (← items.mapM fun v => byteOf v)
  | "__delitem__", [i] => do
    let items ← withoutItem (bs.map fun (b : Nat) => .int b) (← settled i)
    change (← items.mapM fun v => byteOf v)
  | "__imul__", [n] =>
    match n.index? with
    | some n => do change (← Value.repeated bs n) self
    | none => throw .wrongKind
  | _, _ => throw .wrongKind

/-! ## Maps -/

/-- The entries that arguments bring to a map: those of a map or of a row of pairs, and the named
ones. -/
def broughtEntries (m : Machine) (placed : List Value) (named : List (String × Value)) :
    Evaluation Entries := do
  let first ← match placed with
    | [] => pure []
    | [v] =>
      match ← opened v with
      | .map es => pure es
      | _ => do
        let pairs ← (← m.items v).mapM fun v => do
          match ← m.items v with
          | [key, value] => do
            let key ← settled key
            if key.isKey then pure (key, value) else throw .wrongKind
          | _ => throw .unreadable
        pure (Entries.ofPairs pairs)
    | _ => throw .wrongKind
  return named.foldl (fun es n => es.put (.text n.1) n.2) first

/-- The members that change maps. -/
def mapMembers : List String :=
  Member.words "update setdefault pop popitem clear __setitem__ __delitem__ __ior__ __init__"

/-- What a member does to a map. -/
def ofMap (m : Machine) (self : Value) (es : Entries) (name : String) (placed : List Value)
    (named : List (String × Value)) : Evaluation Change := do
  let change (es : Entries) (result : Value := .null) : Evaluation Change :=
    return ⟨result, .map es⟩
  let key (v : Value) : Evaluation Value := do
    let v ← settled v
    if v.isKey then return v else throw .wrongKind
  let without (key : Value) : Entries := es.filter fun e => !e.1.same key
  let merged (more : Entries) : Entries := more.foldl (fun es e => es.put e.1 e.2) es
  if name != "update" && name != "__init__" && !named.isEmpty then throw .wrongKind
  match name, placed with
  | "update", placed | "__init__", placed => do change (merged (← broughtEntries m placed named))
  | "__ior__", [v] => do change (merged (← broughtEntries m [v] [])) self
  | "setdefault", k :: more => do
    let k ← key k
    match es.lookup? k, more with
    | some v, _ => change es v
    | none, [] => change (es.put k .null)
    | none, [v] => change (es.put k v) v
    | none, _ => throw .wrongKind
  | "pop", k :: more => do
    -- In a map without entries nothing is looked for.
    let k ← if es.isEmpty then pure .null else key k
    match es.lookup? k, more with
    | some v, _ => change (without k) v
    | none, [] => throw .missingEntry
    | none, [v] => change es v
    | none, _ => throw .wrongKind
  | "popitem", [] =>
    match es.getLast? with
    | some (k, v) => change es.dropLast (.tuple [k, v])
    | none => throw .missingEntry
  | "clear", [] => change []
  | "__setitem__", [k, v] => do change (es.put (← key k) v)
  | "__delitem__", [k] => do
    let k ← key k
    if es.has k then change (without k) else throw .missingEntry
  | _, _ => throw .wrongKind

/-! ## Sets -/

/-- The members that change sets by other sets, with the operators that say how. -/
def setOperators : List (String × BinaryOperator) :=
  [("update", .bitOr), ("intersection_update", .bitAnd), ("difference_update", .subtract),
    ("symmetric_difference_update", .bitXor), ("__ior__", .bitOr), ("__iand__", .bitAnd),
    ("__isub__", .subtract), ("__ixor__", .bitXor)]

/-- The members that change sets. -/
def setMembers : List String :=
  setOperators.map (·.1) ++ ["add", "discard", "remove", "pop", "clear", "__init__"]

/-- Whether a value is a set. -/
def isSet : Value → Bool
  | .object (.set ..) => true
  | _ => false

/-- What an operator on sets makes of a set and that set itself. -/
def combineSelf (op : BinaryOperator) (t : Table) : Table :=
  match op with
  | .bitOr => t
  | .bitAnd => t.replacing t.copy
  | _ => t.replacing .empty

/-- What an operator on sets makes of a set that is its own result, with a further operand. -/
def combineNext (op : BinaryOperator) (t : Table) (o : Table.Operand) : Table :=
  match op with
  | .bitOr => t.update o
  | .bitAnd => t.replacing (t.intersection o)
  | .subtract => t.subtract o
  | .bitXor => t.exchange o
  | _ => t

/-- What a member does to a set. -/
def ofSet (m : Machine) (self : Value) (t : Table) (name : String) (placed : List Value) :
    Evaluation Change := do
  let change (t : Table) (result : Value := .null) : Evaluation Change :=
    return ⟨result, t.toSet false⟩
  let key (v : Value) : Evaluation Value := do
    let v ← settled v
    if v.isKey then return v else throw .wrongKind
  let wanted (v : Value) : Evaluation Value := do key (← settled v).asElement
  match setOperators.lookup name, name, placed with
  | some op, name, placed => do
    if name.startsWith "__" && !(← placed.mapM opened).all isSet then
      return ⟨.object .notOffered, t.toSet false⟩
    let others ← placed.mapM fun v => do
      if v.identical self then return combineSelf op
      let o ← operandOf m v
      return (combineNext op · o)
    let result := if name.startsWith "__" then self else .null
    change (others.foldl (fun t combine => combine t) t) result
  | none, "add", [v] => do change (t.add (← key v))
  | none, "discard", [v] => do change ((t.erase? (← wanted v)).getD t)
  | none, "remove", [v] => do
    match t.erase? (← wanted v) with
    | some t => change t
    | none => throw .missingEntry
  | none, "pop", [] =>
    match t.pop? with
    | some (v, t) => change t v
    | none => throw .missingEntry
  | none, "clear", [] | none, "__init__", [] => change (t.replacing .empty)
  | none, "__init__", [v] => do change (t.replacing (Table.ofOperand (← operandOf m v)))
  | none, _, _ => throw .wrongKind

/-! ## Streams -/

/-- The next item of a stream, which must have one. -/
def next (m : Machine) (stream : Value) : Evaluation Value := do
  if !(← isStream stream) then throw .wrongKind
  match ← m.next stream with
  | some v => return v
  | none => throw .exhausted

/-- What goes wrong where a value is raised. -/
def failureOf : Value → Failure
  | .object (.made kind _) | .builtin (.other kind) =>
    if BuiltinType.failures.contains kind then .ofKind kind else .wrongKind
  | _ => .wrongKind

/-- The number of items that a stream is known to have left. -/
def leftOf : StreamOf Value → Option Nat
  | .ready _ items | .row _ _ _ items | .watched _ _ _ items => some items.length
  | .range start stop step => some (Value.rangeLength start stop step)
  | _ => none

/-- What a member does to a stream in a cell; nothing where it does nothing. -/
def ofStream? (m : Machine) (self : Value) (cell : Nat) (s : StreamOf Value) (name : String)
    (placed : List Value) : Evaluation (Option Value) := do
  let isGenerator := match s with
    | .generator .. => true
    | s => Value.streamKind s == "generator"
  match name, placed with
  | "__next__", [] => return some (← next m self)
  | "__iter__", [] => return some self
  | "__length_hint__", [] => return (leftOf s).map fun n => .int n
  | "send", [.null] => if isGenerator then return some (← next m self) else return none
  | "close", [] =>
    if !isGenerator then return none
    advance cell (.ready "generator" [])
    return some .null
  | "throw", v :: _ =>
    if !isGenerator then return none
    advance cell (.ready "generator" [])
    throw (failureOf (← opened v))
  | _, _ => return none

/-! ## Calls -/

/-- A content whose parts are references where they change in place. -/
def heldContent : Value → Evaluation Value
  | .list vs => do return .list (← holdAll vs)
  | .map es => do return .map (← holdEntries es)
  | v => return v

/-- Makes a change, if there is one, and gives what comes of it. -/
def made? (cell : Nat) : Option Change → Evaluation (Option Value)
  | none => return none
  | some c => do
    store cell (← heldContent c.content)
    return some (← hold c.result)

/-- What a member that changes something gives for arguments; nothing where it changes nothing. -/
def call? (m : Machine) (self : Value) (cell : Nat) (name : String) (placed : List Value)
    (named : List (String × Value)) : Evaluation (Option Value) := do
  let has (members : List String) := members.contains name
  let plain (c : Evaluation Change) : Evaluation (Option Change) := do
    if named.isEmpty then return some (← c) else throw .wrongKind
  match ← opened self with
  | .list items =>
    if has listMembers then made? cell (some (← ofList m self items name placed named))
    else return none
  | .map es =>
    if has mapMembers then made? cell (some (← ofMap m self es name placed named)) else return none
  | .object (.set false items places) =>
    if has setMembers then
      made? cell (← plain (ofSet m self (Table.ofSet items places) name placed))
    else return none
  | .object (.byteArray bs) =>
    if has (listMembers.filter fun s => s != "sort" && s != "__init__") then
      made? cell (← plain (ofBytes m self bs name placed))
    else return none
  | .object (.stream s) => ofStream? m self cell s name placed
  | _ => return none

end Change

end PromptContract
