import PromptContract.Libraries.Evaluation.Hash

/-!
# Tables of sets

A set keeps its items in a table of places, whose number is a power of two, and is gone through in
the order of the places. What stands for an item says where it is looked for first: at the remainder
by the number of places and the nine places behind it, and then at places that follow from one
another. An item that leaves the set leaves a mark behind, which a later item may replace. A table
that three fifths of are in use is spread over a larger one.
-/

namespace PromptContract

/-- What is in a place of a table. -/
inductive Slot
  | free
  /-- An item was here. -/
  | gone
  | item (hash : Nat) (v : Value)
deriving Inhabited

/-- The places of a set. -/
structure Table where
  slots : Array Slot
  /-- How many places are not free. -/
  filled : Nat
  /-- How many items there are. -/
  count : Nat
  /-- The place at which an item to be taken out is looked for first. -/
  next : Nat

namespace Table

/-- A table of places that are free. -/
def ofSize (size : Nat) : Table := ⟨Array.replicate size .free, 0, 0, 0⟩

/-- A table without items. -/
def empty : Table := ofSize 8

/-- The table of a set that has been given the items of another. -/
def replacing (t new : Table) : Table := { new with next := t.next }

/-- What stands for a value in a table, in 64 bits. All values for which it differs from run to run
have the same here. -/
def hashOf (v : Value) : Nat := ((v.hash?.getD 0).emod (Nat.pow 2 64)).toNat

/-- The items in the order of their places. -/
def items (t : Table) : List Value :=
  t.slots.toList.filterMap fun
    | .item _ v => some v
    | _ => none

/-- A table of free places has no items. -/
@[simp] theorem items_ofSize (size : Nat) : (ofSize size).items = [] := by
  simp [items, ofSize]

/-- The empty table has no items. -/
@[simp] theorem items_empty : empty.items = [] := items_ofSize 8

/-! ## Looking for a place -/

/-- Where a search ends: at the item, or at a free place, with the last place on the way that an
item has left. -/
inductive Found
  | item (place : Nat)
  | free (place : Nat) (gone : Option Nat)

/-- A search over some places next to each other. -/
def searchRow (slots : Array Slot) (hash : Nat) (isIt : Value → Bool) :
    Nat → Nat → Option Nat → Except Found (Option Nat)
  | 0, _, gone => .ok gone
  | n + 1, place, gone =>
    match slots[place]? with
    | some (.item h v) =>
      if h == hash && isIt v then .error (.item place)
      else searchRow slots hash isIt n (place + 1) gone
    | some .gone => searchRow slots hash isIt n (place + 1) (some place)
    | some .free | none => .error (.free place gone)

/-- A search from a place on, where `rest` is what has not been used yet of what stands for the
item. -/
def searchFrom (slots : Array Slot) (hash : Nat) (isIt : Value → Bool) :
    Nat → Nat → Nat → Option Nat → Found
  | 0, _, place, gone => .free place gone
  | fuel + 1, rest, place, gone =>
    let length := if place + 9 < slots.size then 10 else 1
    match searchRow slots hash isIt length place gone with
    | .error found => found
    | .ok gone =>
      let rest := rest / 32
      searchFrom slots hash isIt fuel rest ((place * 5 + 1 + rest) % slots.size) gone

/-- A search for an item. Once nothing is left of what stands for it, all places come up. -/
def search (t : Table) (hash : Nat) (isIt : Value → Bool) : Found :=
  searchFrom t.slots hash isIt (t.slots.size + 16) hash (hash % t.slots.size) none

/-- Where an item is, if it is there. -/
def placeOf? (t : Table) (v : Value) : Option Nat :=
  match t.search (hashOf v) v.same with
  | .item place => some place
  | .free .. => none

/-- Whether an item is there. -/
def has (t : Table) (v : Value) : Bool := (t.placeOf? v).isSome

/-! ## Items that come and go -/

/-- Puts an item that is not there yet into the first free place. -/
def put (t : Table) (hash : Nat) (v : Value) : Table :=
  match t.search hash (fun _ => false) with
  | .item _ => t
  | .free place _ =>
    ⟨t.slots.setIfInBounds place (.item hash v), t.filled + 1, t.count + 1, t.next⟩

/-- Puts all items into a table, in the order of their places. -/
def putAll (t : Table) (slots : Array Slot) : Table :=
  slots.foldl (fun t s =>
    match s with
    | .item hash v => t.put hash v
    | _ => t) t

/-- The least number of places that is greater than a number. -/
def sizeAbove (n : Nat) : Nat := max 8 (Nat.pow 2 (n.log2 + 1))

/-- The same items in a table of more than some places. -/
def spread (t : Table) (least : Nat) : Table :=
  { (ofSize (sizeAbove least)).putAll t.slots with next := t.next }

/-- The same items in a larger table. -/
def grown (t : Table) : Table := t.spread (if 50000 < t.count then t.count * 2 else t.count * 4)

/-- A table that is made larger if three fifths of it are in use. -/
def relieved (t : Table) : Table := if t.filled * 5 < (t.slots.size - 1) * 3 then t else t.grown

/-- Adds an item, if it is not there. -/
def add (t : Table) (v : Value) : Table :=
  let hash := hashOf v
  match t.search hash v.same with
  | .item _ => t
  | .free _ (some place) =>
    { t with slots := t.slots.setIfInBounds place (.item hash v), count := t.count + 1 }
  | .free place none =>
    relieved ⟨t.slots.setIfInBounds place (.item hash v), t.filled + 1, t.count + 1, t.next⟩

/-- Adds items. -/
def addAll (t : Table) (vs : List Value) : Table := vs.foldl add t

/-- Takes the item out of a place. -/
def eraseAt (t : Table) (place : Nat) : Table :=
  { t with slots := t.slots.setIfInBounds place .gone, count := t.count - 1 }

/-- Takes an item out, if it is there. -/
def erase? (t : Table) (v : Value) : Option Table := (t.placeOf? v).map t.eraseAt

/-- Takes items out. -/
def eraseAll (t : Table) (vs : List Value) : Table := vs.foldl (fun t v => (t.erase? v).getD t) t

/-- Takes out the next item, where the places are gone through in turn. -/
def pop? (t : Table) : Option (Value × Table) :=
  let places := (List.range t.slots.size).map fun i => (t.next + i) % t.slots.size
  places.findSome? fun place =>
    match t.slots[place]? with
    | some (Slot.item _ v) => some (v, { t.eraseAt place with next := place + 1 })
    | _ => none

/-! ## Operations on sets -/

/-- Makes room for more items all at once. -/
def withRoom (t : Table) (more : Nat) : Table :=
  if (t.slots.size - 1) * 3 ≤ (t.filled + more) * 5 then t.spread ((t.count + more) * 2) else t

/-- Adds the items of another set. -/
def merge (t other : Table) : Table :=
  if other.count = 0 then t
  else
    let t := t.withRoom other.count
    if 0 < t.filled then t.addAll other.items
    else if t.slots.size = other.slots.size && other.filled = other.count then
      { other with next := t.next }
    else t.putAll other.slots

/-- A copy of a set. -/
def copy (t : Table) : Table := empty.merge t

/-- A set that does not change, of items that are known before. They are sorted into a table twice.
-/
def ofConstants (vs : List Value) : Table := empty.addAll (empty.addAll vs).items

/-- A set of items that are known before. More than two of them come from one that does not
change. -/
def ofFixed (vs : List Value) : Table :=
  if vs.length ≤ 2 then empty.addAll vs else empty.merge (ofConstants vs)

/-- What the other operand of an operation on sets is. -/
inductive Operand
  | set (t : Table)
  | keys (vs : List Value)
  | row (vs : List Value)

/-- The items of an operand. -/
def Operand.items : Operand → List Value
  | .set t => t.items
  | .keys vs | .row vs => vs

/-- Adds the items of an operand. -/
def update (t : Table) : Operand → Table
  | .set other => t.merge other
  | .keys vs => (t.withRoom vs.length).addAll vs
  | .row vs => t.addAll vs

/-- The set of the items of an operand. -/
def ofOperand (o : Operand) : Table := empty.update o

/-- The items of both. Of two sets the one that is not larger is gone through. -/
def intersection (t : Table) (o : Operand) : Table :=
  match o with
  | .set other =>
    if t.count < other.count then empty.addAll (t.items.filter other.has)
    else empty.addAll (other.items.filter t.has)
  | o => empty.addAll (o.items.filter t.has)

/-- Takes out the items of an operand. Where many have gone, the others are spread anew. -/
def subtract (t : Table) (o : Operand) : Table :=
  let vs := match o with
    | .set other =>
      if t.count < other.count / 8 then (t.intersection (.set other)).items else other.items
    | o => o.items
  let t := t.eraseAll vs
  if t.filled - t.count ≤ (t.slots.size - 1) / 4 then t else t.grown

/-- The items that an operand does not have. They are added one by one, unless the operand has few
items. -/
def difference (t : Table) (o : Operand) : Table :=
  match o with
  | .row _ => t.copy.subtract o
  | o =>
    if o.items.length < t.count / 4 then t.copy.subtract o
    else
      let other := ofOperand o
      empty.addAll (t.items.filter fun v => !other.has v)

/-- Adds the items of an operand that are not there, and takes out those that are. -/
def exchange (t : Table) (o : Operand) : Table :=
  let vs := match o with
    | .row vs => (ofOperand (.row vs)).items
    | o => o.items
  vs.foldl (fun t v => (t.erase? v).getD (t.add v)) t

/-- The items that are on one side only. -/
def symmetricDifference (t : Table) (o : Operand) : Table := (ofOperand o).exchange (.set t)

/-- What an operator makes of two sets, if it is one on sets. -/
def combine? (op : BinaryOperator) (t : Table) (o : Operand) : Option Table :=
  match op with
  | .bitOr => some (t.copy.update o)
  | .bitAnd => some (t.intersection o)
  | .subtract => some (t.difference o)
  | .bitXor => some (t.symmetricDifference o)
  | _ => none

/-! ## Sets as values -/

/-- The table of a set. Where it is not known how the items stand, they are added one by one. -/
def ofSet (items : List Value) (places : SetPlaces) : Table :=
  if places.taken.length == items.length then
    let slots := places.gone.foldl (fun slots place => slots.setIfInBounds place Slot.gone)
      (Array.replicate places.size Slot.free)
    let slots := (places.taken.zip items).foldl (fun slots (place, v) =>
      slots.setIfInBounds place (.item (hashOf v) v)) slots
    ⟨slots, items.length + places.gone.length, items.length, places.next⟩
  else empty.addAll items

/-- How the items of a table stand. -/
def places (t : Table) : SetPlaces where
  size := t.slots.size
  taken := t.slots.toList.zipIdx.filterMap fun
    | (.item .., place) => some place
    | _ => none
  gone := t.slots.toList.zipIdx.filterMap fun
    | (.gone, place) => some place
    | _ => none
  next := t.next

/-- The set of the items of a table. -/
def toSet (t : Table) (isFrozen : Bool) : Value := .object (.set isFrozen t.items t.places)

end Table

end PromptContract
