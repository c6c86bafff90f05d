import PromptContract.Libraries.Evaluation.Filling
import PromptContract.Libraries.Evaluation.Member
import PromptContract.Libraries.Evaluation.Memory
import PromptContract.Libraries.Evaluation.Row

/-!
# Evaluating expressions

The value of an expression (`Evaluation.evaluate`) depends on what is remembered: the values of
names and the contents of what changes in place. What calls of values give, and what items they
have, is asked of a `Machine`, whose calls may nest up to a depth.
-/

namespace PromptContract

/-- What calls of values give, and what items values have. -/
structure Machine where
  /-- What a value gives for arguments by place and by name. -/
  call : Value → List Value → List (String × Value) → Evaluation Value
  /-- The items of a value. A stream has none behind that. -/
  items : Value → Evaluation (List Value)
  /-- The next item of a stream, if it has one left. -/
  next : Value → Evaluation (Option Value)
  /-- What a function of a name that a place knows gives for the value that it belongs to, if it
  belongs to one, and for arguments; nothing where it is not followed up. -/
  tell : String → Option Value → List (String × Value) → Evaluation (Option Value)
  /-- Where the rules for the texts of complex numbers are written down. -/
  complexRules : String

/-- What is made of the items of a stream one by one, up to a number, behind what was made before,
which stands last first. -/
def Machine.eachNext {α : Type} (m : Machine) (stream : Value) (f : Value → Evaluation α)
    (found : List α) : Nat → Evaluation (List α)
  | 0 => throw .tooManyItems
  | fuel + 1 => do
    match ← m.next stream with
    | none => return found.reverse
    | some v => do
      let a ← f v
      eachNext m stream f (a :: found) fuel

/-- A constant as a value. -/
def Constant.toValue : Constant → Value
  | .null => .null
  | .bool b => .bool b
  | .int n => .int n
  | .float x => .float x
  | .imaginary x => .object (.complex (.imaginary x))
  | .text s => .text s
  | .bytes bs => .object (.bytes bs)
  | .ellipsis => .object .ellipsis

namespace Evaluation

/-- The kind of the stream over the items of a value that does not change in place. -/
def streamKindOf (content : Value) : String :=
  match content with
  | .tuple _ => "tuple_iterator"
  | .object (.bytes _) => "bytes_iterator"
  | .object (.byteArray _) => "bytearray_iterator"
  | .object (.set ..) => "set_iterator"
  | .generic .. | .unpacked _ => "generator"
  | v =>
    match v.comparedText? with
    | some s => if s.toList.all (·.toNat < 0x80) then "str_ascii_iterator" else "str_iterator"
    | none => "iterator"

/-- The items of a value as a stream, if it is none already. -/
def streamOf (v : Value) : Evaluation Value := do
  if ← isStream v then return v
  match v, ← opened v with
  | .object (.held _), .list items => holdStream (.row v 0 (← get).changes items)
  | _, .map es => holdStream (.watched "dict_keyiterator" v es.length (es.map (·.1)))
  | .object (.held _), .object (.set _ items _) =>
    holdStream (.watched "set_iterator" v items.length items)
  | .object (.view _ map), .object (.view part (.map es)) =>
    let kind := match part with | .keys => "key" | .values => "value" | .items => "item"
    holdStream
      (.watched ("dict_" ++ kind ++ "iterator") map es.length (Value.partItems part es))
  | _, .object (.range start stop step) => holdStream (.range start stop step)
  | _, content => holdReady (streamKindOf content) (← content.items)

end Evaluation

/-- What is made of the items of a value one by one. -/
def Machine.each {α : Type} (m : Machine) (v : Value) (f : Value → Evaluation α) :
    Evaluation (List α) := do
  m.eachNext (← Evaluation.streamOf v) f [] Value.itemLimit

namespace Evaluation

/-- A value as a conversion writes it. -/
def converted (v : Value) : Option Conversion → Except Failure Value
  | none => .ok v
  | some .display => .text <$> v.toDisplay
  | some .quoted => .text <$> v.toQuoted
  | some .ascii => do return .text (Layout.asciiForm (← v.toQuoted))

/-- The texts of values behind each other. -/
def joinedText (vs : List Value) : Value := .text (String.join (vs.map Value.display))

/-- The entries of a value that must be a map. -/
def entriesOf (v : Value) : Evaluation Entries := do
  match ← opened v with
  | .map es => return es
  | _ => throw .wrongKind

/-- Whether a value counts as true at the moment. -/
def isTrue (v : Value) : Evaluation Bool := do return (← opened v).truthy

/-- Adds an argument by name, which must not be there yet. -/
def addNamed (named : List (String × Value)) (s : String) (v : Value) :
    Except Failure (List (String × Value)) :=
  if (named.lookup s).isSome then .error .wrongKind else .ok (named ++ [(s, v)])

/-- Adds the entries of a map as arguments by name. -/
def addEntries (named : List (String × Value)) (es : Entries) :
    Except Failure (List (String × Value)) :=
  es.foldlM (fun named (key, v) =>
    match key.comparedText? with
    | some s => addNamed named s v
    | none => .error .wrongKind) named

/-- The items of a row for targets in a row, of which one may take all that the others leave. -/
def distribute (targets : List Expression) (vs : List Value) : Except Failure (List Value) :=
  match targets.findIdx? Expression.isStarred with
  | none => if targets.length == vs.length then .ok vs else .error .unreadable
  | some i =>
    let behind := targets.length - i - 1
    if vs.length < i + behind then .error .unreadable
    else
      let all := vs.length - behind
      .ok (vs.take i ++ [.list ((vs.take all).drop i)] ++ vs.drop all)

mutual
/-- Gives the names of a target to a value or to its items. -/
def take (m : Machine) (scope : Scope) : Expression → Value → Evaluation Unit
  | .name s, v => scope.put s v
  | .starred e, v => do take m scope e (← hold v)
  | .list targets, v | .tuple targets, v => do
    takeAll m scope targets (← distribute targets (← m.items v))
  | _, _ => throw .wrongKind
termination_by structural e => e

/-- Gives the names of targets in a row to values. -/
def takeAll (m : Machine) (scope : Scope) : List Expression → List Value → Evaluation Unit
  | e :: es, v :: vs => do
    take m scope e v
    takeAll m scope es vs
  | _, _ => return
termination_by structural es => es
end

/-- What a comprehension of a kind makes of its elements. -/
def collected (kind : ComprehensionKind) (elements : List Value) : Evaluation Value :=
  match kind with
  | .list | .stream => hold (.list elements)
  | .set => do
    let elements ← elements.mapM settled
    if elements.all Value.isKey then hold ((Table.empty.addAll elements).toSet false)
    else throw .wrongKind
  | .map => do
    let pairs ← elements.mapM fun
      | .tuple [key, v] => do return (← settled key, v)
      | _ => throw .wrongKind
    hold (.map (← Entries.ofPairs? pairs))

/-- The set that is the source of a comprehension. If its elements are known before, it is one that
does not change. -/
def setSource (items : List Expression) (elements : List Value) : Evaluation Value :=
  if Expression.areFixed items then return (Table.ofConstants elements).toSet true
  else collected .set elements

/-- The name of the cell that holds the source of a comprehension that is evaluated later. -/
def sourceName : String := ".source"

/-- The name of the cell that holds the item of that source that is at hand. -/
def rowName : String := ".row"

/-- The comprehension over the item at hand in the place of the first source. -/
def fromRow (element : Expression) : List (ClauseOf Expression) → Expression
  | [] => .comprehension .list element []
  | first :: rest =>
    .comprehension .list element ({ first with source := .list [.name rowName] } :: rest)

/-- Items that are made later, from the items of a source, which is gone through as they are asked
for. -/
def later (scope : Scope) (source : Value) (items : Expression) : Evaluation Value := do
  let inner ← scope.inside [sourceName, rowName]
  inner.put sourceName source
  holdStream (.generator [] items inner.cells)

/-- The items of what of a map is like a set, if a value is that. -/
def partItems? : Value → Option (List Value)
  | .object (.view .values _) => none
  | .object (.view part (.map es)) => some (Value.partItems part es)
  | _ => none

/-- What a value is as the operand of an operation on sets. -/
def operandOf (m : Machine) (v : Value) : Evaluation Table.Operand := do
  match ← opened v with
  | .object (.set _ items places) => return .set (Table.ofSet (← items.mapM settled) places)
  | seen => do
    let items ← (← m.items v).mapM settled
    if !items.all Value.isKey then throw .wrongKind
    match seen with
    | .map _ => return .keys items
    | _ => return .row items

/-- The items that a part of a map shares with another value. They are those of the part if the
other value is a set, or a part of a map, that is not smaller. -/
def sharedItems (part : Table.Operand) (other : Value) (o : Table.Operand) : List Value :=
  let (n, k) := (part.items.length, o.items.length)
  let isOfPart : Bool := match other with
    | .object (.set false ..) => n ≤ k
    | .object (.view .values _) => false
    | .object (.view ..) => n < k
    | _ => false
  if isOfPart then part.items.filter (Table.ofOperand o).has
  else o.items.filter (Table.ofOperand part).has

/-- What an operator makes of the parts of maps as sets, with anything that has items. -/
def combinedParts (m : Machine) (op : BinaryOperator) (v w : Value) : Evaluation Value := do
  let left ← operandOf m v
  let right ← operandOf m w
  -- The keys of a map come into a set as the map does.
  let (isPart, left) : Bool × Table.Operand ← match ← opened v with
    | .object (.view .keys _) => pure (true, .keys left.items)
    | .object (.view ..) => pure (true, left)
    | _ => pure (false, left)
  let vSeen ← opened v
  let wSeen ← opened w
  let result := match op with
    | .subtract => some ((Table.ofOperand left).subtract right)
    | .bitXor => some ((Table.ofOperand left).exchange right)
    | .bitOr => some ((Table.ofOperand left).update right)
    | .bitAnd =>
      some (Table.empty.addAll
        (if isPart then sharedItems left wSeen right else sharedItems right vSeen left))
    | _ => none
  match result with
  | some t => hold (t.toSet false)
  | none => throw .wrongKind

/-- What an operator makes of two values. -/
def combined (m : Machine) (op : BinaryOperator) (v w : Value) : Evaluation Value := do
  match partItems? (← opened v), partItems? (← opened w) with
  | some _, _ | _, some _ => combinedParts m op v w
  | none, none =>
    match op with
    | .add | .multiply | .bitOr => hold (← (← opened v).binary op (← opened w))
    | op => do
      let v ← settled v
      let w ← settled w
      match op, v, v.comparedText? with
      | .remainder, _, some s => return .text (← Layout.filled s w)
      | .remainder, .object (.bytes bs), none =>
        return .object (.bytes (← Layout.filledBytes bs w))
      | .remainder, .object (.byteArray bs), none =>
        hold (.object (.byteArray (← Layout.filledBytes bs w)))
      | op, _, _ => hold (← v.binary op w)

/-- Whether an item comes up in a stream, which is gone through until it does. -/
def comesUp (m : Machine) (stream item : Value) : Nat → Evaluation Bool
  | 0 => throw .tooManyItems
  | fuel + 1 => do
    match ← m.next stream with
    | none => return false
    | some v => if (← settled v).same item then return true else comesUp m stream item fuel

/-- What comes into a comparison for a value: a part of a map that is like a set counts as one
beside another or beside a set. -/
def asCompared (v w : Value) : Value :=
  match v, w with
  | .object (.view _ _), .object (.set ..) | .object (.view _ _), .object (.view _ _) =>
    ((partItems? v).map fun items => .object (.set false items .unsettled)).getD v
  | v, _ => v

/-- What a comparison of two values says. -/
def compared (m : Machine) (c : Comparison) (v w : Value) : Evaluation Bool := do
  match c with
  | .is => return v.identical w
  | .isNot => return !v.identical w
  | c =>
    match c, ← isStream w with
    | .isIn, true => comesUp m w (← settled v) Value.itemLimit
    | .isNotIn, true => return !(← comesUp m w (← settled v) Value.itemLimit)
    | .isIn, _ | .isNotIn, _ => (← settled v).comparison c (← settled w)
    | c, _ => do
      let v ← settled v
      let w ← settled w
      (asCompared v w).comparison c (asCompared w v)

/-- A type that has been made, by its name. -/
def madeType? (name : String) : Evaluation (Option MadeType) := do
  return (← get).made.find? (·.name == name)

/-- A function that takes a value first, where it has taken it. -/
def takenUp (self : Value) : Value → Value
  | .object (.function (⟨.placed, name, _⟩ :: parameters) body cells known)
  | .object (.function (⟨.ordinary, name, _⟩ :: parameters) body cells known) =>
    .object (.function parameters body cells (known ++ [(name, self)]))
  | v => v

/-- What a value has under a name since its type, or itself, has been made so. -/
def madeMember? (v : Value) (s : String) : Evaluation (Option Value) := do
  match v with
  | .builtin (.other name) =>
    match ← madeType? name with
    | none => return none
    | some t =>
      match t.members.lookup s, t.base with
      | some w, _ => return some w
      | none, some base => return ((Value.builtin base).member s).toOption
      | none, none => return none
  | .object (.made name _) =>
    return ((← madeType? name).bind (·.members.lookup s)).map (takenUp v)
  | _ => return none

/-- What a value offers under a name. -/
def memberOf (v : Value) (s : String) : Evaluation Value := do
  if let some w ← madeMember? v s then return w
  match v, (← (← opened v).member s) with
  | _, w@(.object (.method (.builtin _) _)) => return w
  | .object (.held _), .object (.method _ name) | .object (.view ..), .object (.method _ name) =>
    return .object (.method v name)
  | _, w => hold w

/-- Adds values to those that a function has handed out. -/
def handOut (scope : Scope) (vs : List Value) : Evaluation Unit := do
  match ← scope.lookup Expression.yieldedName with
  | .object (.held cell) =>
    match ← opened (.object (.held cell)) with
    | .list earlier => store cell (.list (earlier ++ vs))
    | _ => throw .wrongKind
  | _ => throw .wrongKind

mutual
/-- The value of an expression. -/
def evaluate (m : Machine) (scope : Scope) : Expression → Evaluation Value
  | .constant c => return c.toValue
  | .name s => scope.lookup s
  | .formatted pieces => do return joinedText (← evaluateAll m scope pieces)
  | .shown e conversion layout => do
    let v ← converted (← settled (← evaluate m scope e)) conversion
    let layout := (← evaluateIfAny m scope layout).comparedText?
    return .text (← Layout.format v (layout.getD ""))
  | .list items => do hold (.list (← evaluateAll m scope items))
  | .tuple items => do return .tuple (← evaluateAll m scope items)
  | .set items => do
    let elements ← evaluateAll m scope items
    if Expression.areFixed items then hold ((Table.ofFixed elements).toSet false)
    else collected .set elements
  | .map entries => do hold (.map (← evaluateEntries m scope [] entries))
  | .starred _ => throw .wrongKind
  | .unary .not e => do return .bool !(← isTrue (← evaluate m scope e))
  | .unary op e => do hold (← (← opened (← evaluate m scope e)).unary op)
  | .binary op left right => do
    let v ← evaluate m scope left
    combined m op v (← evaluate m scope right)
  | .both left right => do
    let v ← evaluate m scope left
    if ← isTrue v then evaluate m scope right else return v
  | .either left right => do
    let v ← evaluate m scope left
    if ← isTrue v then return v else evaluate m scope right
  | .comparison first rest => do
    compareAll m scope (← evaluate m scope first) rest
  | .choice condition positive negative => do
    if ← isTrue (← evaluate m scope condition) then evaluate m scope positive
    else evaluate m scope negative
  | .member e s => do memberOf (← evaluate m scope e) s
  | .item e index => do
    let v ← evaluate m scope e
    let index ← settled (← evaluate m scope index)
    hold (← (← opened v).item index)
  | .slice start stop step => do
    let start ← evaluateIfAny m scope start
    let stop ← evaluateIfAny m scope stop
    return .object (.slice start stop (← evaluateIfAny m scope step))
  | .call e arguments => do
    let v ← evaluate m scope e
    let (placed, named) ← evaluateArguments m scope [] [] arguments
    m.call v placed named
  | .function parameters body => do
    return .object (.function (← evaluateParameters m scope parameters) body scope.cells [])
  | .assigned s e => do
    let v ← evaluate m scope e
    scope.put s v
    return v
  | .comprehension .stream element clauses => do
    later scope (← evaluateSource m scope clauses) (fromRow element clauses)
  | .comprehension kind element clauses => do
    let inner ← scope.inside (Expression.clauseNames clauses)
    collected kind (← evaluateClauses m scope inner (evaluate m inner element) clauses)
  | .yielded none => do
    handOut scope [.null]
    return .null
  | .yielded (some (.starred e)) => do
    handOut scope (← m.items (← evaluate m scope e))
    return .null
  | .yielded (some e) => do
    handOut scope [← evaluate m scope e]
    return .null
termination_by structural e => e

/-- The value of an expression, if there is one, and null else. -/
def evaluateIfAny (m : Machine) (scope : Scope) : Option Expression → Evaluation Value
  | none => return .null
  | some e => evaluate m scope e
termination_by structural e => e

/-- The values of expressions in a row. -/
def evaluateAll (m : Machine) (scope : Scope) : List Expression → Evaluation (List Value)
  | [] => return []
  | .starred e :: es => do
    let vs ← m.items (← evaluate m scope e)
    return vs ++ (← evaluateAll m scope es)
  | e :: es => do
    let v ← evaluate m scope e
    return v :: (← evaluateAll m scope es)
termination_by structural es => es

/-- The entries of a map, behind others. -/
def evaluateEntries (m : Machine) (scope : Scope) (found : Entries) :
    List (Option Expression × Expression) → Evaluation Entries
  | [] => return found
  | (none, e) :: rest => do
    let es ← entriesOf (← evaluate m scope e)
    evaluateEntries m scope (es.foldl (fun found e => found.put e.1 e.2) found) rest
  | (some key, e) :: rest => do
    let key ← settled (← evaluate m scope key)
    let v ← evaluate m scope e
    if key.isKey then evaluateEntries m scope (found.put key v) rest else throw .wrongKind
termination_by structural es => es

/-- What comparisons in a row say, of which each goes on with its second operand. -/
def compareAll (m : Machine) (scope : Scope) (v : Value) :
    List (Comparison × Expression) → Evaluation Value
  | [] => return .bool true
  | (c, e) :: rest => do
    let w ← evaluate m scope e
    if ← compared m c v w then compareAll m scope w rest else return .bool false
termination_by structural es => es

/-- The arguments of a call by place and by name, behind others. -/
def evaluateArguments (m : Machine) (scope : Scope) (placed : List Value)
    (named : List (String × Value)) :
    List (ArgumentOf Expression) → Evaluation (List Value × List (String × Value))
  | [] => return (placed, named)
  | .placed e :: rest => do
    let v ← evaluate m scope e
    evaluateArguments m scope (placed ++ [v]) named rest
  | .spread e :: rest => do
    let vs ← m.items (← evaluate m scope e)
    evaluateArguments m scope (placed ++ vs) named rest
  | .named s e :: rest => do
    let v ← evaluate m scope e
    evaluateArguments m scope placed (← addNamed named s v) rest
  | .spreadNames e :: rest => do
    let es ← entriesOf (← evaluate m scope e)
    evaluateArguments m scope placed (← addEntries named es) rest
termination_by structural es => es

/-- The parameters of a function with the values of their defaults. -/
def evaluateParameters (m : Machine) (scope : Scope) :
    List (ParameterOf Expression) → Evaluation (List (ParameterOf Value))
  | [] => return []
  | ⟨kind, name, none⟩ :: rest => do
    return ⟨kind, name, none⟩ :: (← evaluateParameters m scope rest)
  | ⟨kind, name, some e⟩ :: rest => do
    let v ← evaluate m scope e
    return ⟨kind, name, some v⟩ :: (← evaluateParameters m scope rest)
termination_by structural ps => ps

/-- The first source of a comprehension that is evaluated later. It must have items. -/
def evaluateSource (m : Machine) (scope : Scope) : List (ClauseOf Expression) → Evaluation Value
  | [] => throw .wrongKind
  | ⟨isAwaited, _, source, _⟩ :: _ => do
    let v ← match source with
      | .set items => do setSource items (← evaluateAll m scope items)
      | source => evaluate m scope source
    if isAwaited then throw .wrongKind
    streamOf v
termination_by structural cs => cs

/-- The elements that the clauses of a comprehension lead to, where `emit` makes one of them. The
first source is evaluated outside the comprehension. -/
def evaluateClauses (m : Machine) (outer inner : Scope) (emit : Evaluation Value) :
    List (ClauseOf Expression) → Evaluation (List Value)
  | [] => do return [← emit]
  | ⟨_, target, source, conditions⟩ :: rest => do
    let v ← match source with
      | .set items => do setSource items (← evaluateAll m outer items)
      | source => evaluate m outer source
    let parts ← m.each v fun v => do
      take m inner target v
      if ← areMet m inner conditions then evaluateClauses m inner inner emit rest else return []
    return parts.flatten
termination_by structural cs => cs

/-- Whether all conditions of a clause hold. -/
def areMet (m : Machine) (scope : Scope) : List Expression → Evaluation Bool
  | [] => return true
  | e :: es => do
    if ← isTrue (← evaluate m scope e) then areMet m scope es else return false
termination_by structural es => es
end

end Evaluation

end PromptContract
