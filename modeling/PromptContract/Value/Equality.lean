import PromptContract.Value.Basic

/-!
# Equality of values, and maps

`Value.same` is the equality that look-ups and change detection use: numbers of different kinds are
equal when their values are, truth values count as 0 and 1, maps are equal whatever the order of
their entries, and the value that is no number differs from everything, itself included. Contract
objects are equal when their members are; the schemas that a contract keeps do not count. A value
that is no number and has a mark is itself wherever it stands. On top of the equality stand the
operations on the entries of a map.
-/

namespace PromptContract

/-- The integer that a truth value counts as. -/
def boolInt (b : Bool) : Int := if b then 1 else 0

namespace Value

/-- A value that is a number, truth values included. -/
inductive Number
  | int (n : Int)
  | float (x : Binary64)

/-- The number that a value is, if it is one. -/
def number? : Value → Option Number
  | .bool b => some (.int (boolInt b))
  | .int n => some (.int n)
  | .float x => some (.float x)
  | .object (.nan _) => some (.float .nan)
  | _ => none

/-- Order of two numbers, exact for integers of any size; nothing where one is no number. -/
def Number.compare? : Number → Number → Option Ordering
  | .int m, .int n => some (Ord.compare m n)
  | .float x, .float y => x.compare? y
  | .float x, .int n => x.compareInt? n
  | .int m, .float y => (y.compareInt? m).map Ordering.swap

/-- How many integers a range has. -/
def rangeLength (start stop step : Int) : Nat :=
  if 0 < step then ((stop - start + step - 1) / step).toNat
  else ((start - stop - step - 1) / (-step)).toNat

/-- The integers of a range. -/
def rangeItems (start stop step : Int) : List Int :=
  (List.range (rangeLength start stop step)).map fun (i : Nat) => start + step * (i : Int)

/-- Whether two ranges have the same integers in the same order. -/
def sameRange (start stop step start' stop' step' : Int) : Bool :=
  let length := rangeLength start stop step
  length == rangeLength start' stop' step'
    && (length == 0 || start == start' && (length == 1 || step == step'))

/-- The text that a value counts as in comparisons. -/
def comparedText? (v : Value) : Option String := v.name?.map Name.text

/-- Whether a value equals a text. -/
def isText (v : Value) (s : String) : Bool := v.comparedText? == some s

mutual
/-- Equality of values. -/
def same : Value → Value → Bool
  | .null, .null => true
  | .list xs, .list ys => sameItems xs ys
  | .tuple xs, .tuple ys => sameItems xs ys
  | .map es, .map fs => es.length == fs.length && sameEntries es fs
  | .builtin s, .builtin t => s == t
  | .anyType, .anyType => true
  | .union _ xs, .union _ ys => xs.length == ys.length && sameMembers xs ys
  | .generic none s xs, .generic none t ys => s == t && sameItems xs ys
  | .generic (some a) s xs, .generic (some b) t ys => a == b && s == t && sameItems xs ys
  | .typeName a _, .typeName b _ => a == b
  | .itself a, .itself b => a == b
  | .annotated x ms, .annotated y ns => same x y && sameNotes ms ns
  | .reference m, .reference n => m.text == n.text
  | .unpacked x, .unpacked y => same x y
  | .field f, .field g => sameField f g
  | .declaration ⟨inputs, outputs, instructions, inputSchema, outputSchema⟩, .declaration d =>
    sameFieldsIfAny inputs d.inputs && sameFieldsIfAny outputs d.outputs
      && sameIfAny instructions d.instructions && sameIfAny inputSchema d.inputSchema
      && sameIfAny outputSchema d.outputSchema
  | .contract ⟨inputs, outputs, instructions, _, _⟩, .contract c =>
    sameFields inputs c.inputs && sameFields outputs c.outputs
      && sameIfAny instructions c.instructions
  | .options ⟨model, validate, debounceMs, apiKey, providerOptions⟩, .options o =>
    same model o.model && same validate o.validate && same debounceMs o.debounceMs
      && same apiKey o.apiKey && same providerOptions o.providerOptions
  | .object o, .object p => sameObject o p
  | v, w =>
    match v.comparedText?, w.comparedText? with
    | some s, some t => s == t
    | _, _ =>
      match v.number?, w.number? with
      | some m, some n => m.compare? n == some .eq
      | _, _ => false
termination_by structural v => v

/-- Equality of the objects of expressions. Functions without names equal nothing. -/
def sameObject : ObjectOf Value → ObjectOf Value → Bool
  | .ellipsis, .ellipsis => true
  | .notOffered, .notOffered => true
  | .bytes bs, .bytes cs | .bytes bs, .byteArray cs | .byteArray bs, .bytes cs
  | .byteArray bs, .byteArray cs => bs == cs
  | .nan m, .nan n => m == n
  | .complex w, .complex z => w.same z
  | .set _ xs _, .set _ ys _ => xs.length == ys.length && sameMembers xs ys
  | .range a b c, .range d e f => sameRange a b c d e f
  | .slice a b c, .slice d e f => same a d && same b e && same c f
  | .routine s, .routine t => s == t
  | .given s _ v, .given t _ w => s == t && sameIfAny v w
  | .method v s, .method w t => s == t && same v w
  | .held c, .held d | .around c _, .around d _ => c == d
  | .hash v, .hash w => same v w
  | .made s ps, .made t qs => s == t && sameParts ps qs
  | _, _ => false
termination_by structural o => o

/-- Equality of rows of values, place by place. -/
def sameItems : List Value → List Value → Bool
  | [], [] => true
  | x :: xs, y :: ys => same x y && sameItems xs ys
  | _, _ => false
termination_by structural xs => xs

/-- Equality of the parts of objects, place by place. -/
def sameParts : List (String × Value) → List (String × Value) → Bool
  | [], [] => true
  | (s, v) :: ps, (t, w) :: qs => s == t && same v w && sameParts ps qs
  | _, _ => false
termination_by structural ps => ps

/-- Whether each entry of the first map has an equal one in the second. -/
def sameEntries : List (Value × Value) → List (Value × Value) → Bool
  | [], _ => true
  | (k, v) :: es, fs => (fs.any fun e => same k e.1 && same v e.2) && sameEntries es fs
termination_by structural es => es

/-- Whether each member of the first union is one of the second. -/
def sameMembers : List Value → List Value → Bool
  | [], _ => true
  | x :: xs, ys => (ys.any fun y => same x y) && sameMembers xs ys
termination_by structural xs => xs

/-- Equality of the notes of two types. A note that sets bounds equals no other. -/
def sameNotes : List Value → List Value → Bool
  | [], [] => true
  | .map _ :: _, _ :: _ => false
  | x :: xs, y :: ys => same x y && sameNotes xs ys
  | _, _ => false
termination_by structural xs => xs

/-- Equality of fields, member by member. -/
def sameField : FieldOf Value → FieldOf Value → Bool
  | ⟨name, type, description, required, spec⟩, g =>
    name.text == g.name.text && type == g.type && same description g.description
      && same required g.required && sameIfAny spec g.spec
termination_by structural f => f

/-- Equality of rows of fields, place by place. -/
def sameFields : List (FieldOf Value) → List (FieldOf Value) → Bool
  | [], [] => true
  | f :: fs, g :: gs => sameField f g && sameFields fs gs
  | _, _ => false
termination_by structural fs => fs

/-- Equality of rows of fields that may be absent. -/
def sameFieldsIfAny : Option (List (FieldOf Value)) → Option (List (FieldOf Value)) → Bool
  | none, none => true
  | some fs, some gs => sameFields fs gs
  | _, _ => false
termination_by structural fs => fs

/-- Equality of values that may be absent. -/
def sameIfAny : Option Value → Option Value → Bool
  | none, none => true
  | some x, some y => same x y
  | _, _ => false
termination_by structural v => v
end

end Value

namespace Entries

/-- The value of a key, if it stands in the map. -/
def get? (es : Entries) (key : String) : Option Value :=
  (es.find? fun e => e.1.isText key).map (·.2)

/-- The value of a key, and null where the key is missing. -/
def getD (es : Entries) (key : String) : Value := (es.get? key).getD .null

/-- Whether a key stands in the map. -/
def has (es : Entries) (key : Value) : Bool := es.any fun e => e.1.same key

/-- The value of a key of any kind, if it stands in the map. -/
def lookup? (es : Entries) (key : Value) : Option Value :=
  (es.find? fun e => e.1.same key).map (·.2)

/-- Sets the value of a key: in the place of the entry that has the key, else at the end. -/
def put (es : Entries) (key value : Value) : Entries :=
  if es.has key then es.map fun e => if e.1.same key then (e.1, value) else e
  else es ++ [(key, value)]

/-- The map of a row of entries, of which a later one replaces the value of an earlier one. -/
def ofPairs (pairs : List (Value × Value)) : Entries :=
  pairs.foldl (fun es e => es.put e.1 e.2) []

/-- The entries that are not null. -/
def present (es : Entries) : Entries :=
  es.filter fun e => match e.2 with | .null => false | _ => true

end Entries

end PromptContract
