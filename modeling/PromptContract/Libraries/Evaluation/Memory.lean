import PromptContract.Value.Conversion

/-!
# What is remembered while expressions are evaluated

Names stand for values. Names that a function or a comprehension gives stand for cells, so a
function sees what its names are when it is called; other names are local to the whole expression or
known everywhere, and functions see only the latter (`Scope.lookup`).

Lists, maps, sets and streams change in place, so those that expressions make lie in a store: `hold`
puts a value there and gives what refers to it, `opened` gives the content that a value refers to at
the moment, and `settled` puts contents in the places of what refers to them. What is remembered
stays so where something goes wrong, since an expression may go on from there.

Rows have a limit here: what would have more items is not made (`Value.itemCount`).
-/

namespace PromptContract

/-! ## Counted items -/

namespace Value

/-- The greatest number of items that a row is given. -/
def itemLimit : Nat := 20000000

/-- A number of items, if a row is given as many. -/
def itemCount (n : Nat) : Except Failure Nat :=
  if itemLimit < n then .error .tooManyItems else .ok n

/-- The items of a value that can be gone through, unless it counts to more than a row is given. -/
def countedItems : Value → Except Failure (List Value)
  | .object (.range start stop step) => do
    let _ ← itemCount (rangeLength start stop step)
    (object (.range start stop step)).items
  | v => v.items

end Value

/-! ## Names and the store -/

/-- A type that an expression made. -/
structure MadeType where
  name : String
  /-- The type that its values are of besides, if it is one whose values are made of something. -/
  base : Option BuiltinType
  members : List (String × Value)

/-- What names and references stand for while an expression is evaluated. -/
structure Memory where
  /-- The names that are known in every place. -/
  common : List (String × Value)
  /-- The names that are known in a place. -/
  globals : List (String × Value)
  /-- The names that are known outside functions. -/
  locals : List (String × Value)
  /-- Whether names may be given outside functions. -/
  takesNames : Bool
  /-- The values of the names of functions and comprehensions; nothing where one has none yet. -/
  cells : Array (Option Value) := #[]
  /-- What the references stand for. -/
  contents : Array Value := #[]
  /-- How many values that are no numbers have been told from others. -/
  marks : Nat := 0
  /-- How often contents have been changed. -/
  changes : Nat := 0
  /-- The types that have been made, the latest first. -/
  made : List MadeType := []

/-- A computation that looks up names and gives them, and changes contents. -/
abbrev Evaluation := ExceptT Failure (StateM Memory)

/-- Sets the value of a name in a list of names. -/
def putName (names : List (String × Value)) (s : String) (v : Value) : List (String × Value) :=
  (s, v) :: names.filter fun n => n.1 != s

/-! ## Names -/

/-- The names that an expression can use at a place. -/
structure Scope where
  /-- The cells of the names of functions and comprehensions around the place. -/
  cells : List (String × Nat)
  isFunction : Bool
  /-- The names that are known inside functions too. -/
  wide : List String := []

namespace Scope

/-- The scope of a whole expression. A name that is given within one of its comprehensions is the
same everywhere in it. -/
def ofWhole (e : Expression) : Scope := ⟨[], false, e.assignedNames false⟩

/-- Whether a name without a cell is one of those that are known inside functions. -/
def isWide (scope : Scope) (s : String) : Bool := scope.isFunction || scope.wide.contains s

/-- What a name stands for. -/
def lookup (scope : Scope) (s : String) : Evaluation Value := do
  let memory ← get
  let found := match scope.cells.lookup s with
    | some cell => (memory.cells[cell]?).join
    | none =>
      ((if scope.isWide s then none else memory.locals.lookup s).or (memory.globals.lookup s)).or
        (memory.common.lookup s)
  match found with
  | some v => return v
  | none => throw .undefinedType

/-- Gives a name to a value. A name without a cell is given outside functions, and from within
functions to all. -/
def put (scope : Scope) (s : String) (v : Value) : Evaluation Unit := do
  let memory ← get
  match scope.cells.lookup s with
  | some cell => set { memory with cells := memory.cells.setIfInBounds cell (some v) }
  | none =>
    if scope.isWide s then set { memory with globals := putName memory.globals s v }
    else if memory.takesNames then set { memory with locals := putName memory.locals s v }
    else throw .wrongKind

/-- The scope inside a function or a comprehension that gives some names. -/
def inside (scope : Scope) (names : List String) : Evaluation Scope := do
  let memory ← get
  let places := names.zipIdx.map fun (s, i) => (s, memory.cells.size + i)
  set { memory with cells := memory.cells ++ Array.replicate names.length none }
  return { cells := places ++ scope.cells, isFunction := true }

end Scope

/-! ## Contents -/

namespace Evaluation

/-- Puts a content into the store. -/
def allocate (content : Value) : Evaluation Value :=
  modifyGet fun memory =>
    let cell := memory.contents.size
    (.object (.held cell), { memory with contents := memory.contents.push content })

/-- Changes what a reference stands for. -/
def store (cell : Nat) (content : Value) : Evaluation Unit :=
  modify fun memory =>
    { memory with contents := memory.contents.setIfInBounds cell content
                  changes := memory.changes + 1 }

/-- Moves on a stream. -/
def advance (cell : Nat) (s : StreamOf Value) : Evaluation Unit :=
  modify fun memory =>
    { memory with contents := memory.contents.setIfInBounds cell (.object (.stream s)) }

/-- A value that is no number, told from the others. -/
def marked : Evaluation Value := do
  let memory ← get
  set { memory with marks := memory.marks + 1 }
  return .object (.nan memory.marks)

mutual
/-- A value with references in the places of all that changes in place. -/
def hold : Value → Evaluation Value
  | .list vs => do allocate (.list (← holdAll vs))
  | .tuple vs => do return .tuple (← holdAll vs)
  | .map es => do allocate (.map (← holdEntries es))
  | .float .nan => marked
  | .object o => holdObject o
  | v => return v
termination_by structural v => v

/-- The same for an object of expressions. -/
def holdObject : ObjectOf Value → Evaluation Value
  | .set isFrozen items places => do
    let content : Value := .object (.set isFrozen (← holdAll items) places)
    if isFrozen then return content else allocate content
  | .byteArray bs => allocate (.object (.byteArray bs))
  | .stream s => allocate (.object (.stream s))
  | .view part map => do return .object (.view part (← hold map))
  | .made kind parts => do return .object (.made kind (← holdParts parts))
  | .around cell _ => return .object (.held cell)
  | o => return .object o
termination_by structural o => o

/-- The same for the values of a row. -/
def holdAll : List Value → Evaluation (List Value)
  | [] => return []
  | v :: vs => do
    let v ← hold v
    return v :: (← holdAll vs)
termination_by structural vs => vs

/-- The same for the parts of an object. -/
def holdParts : List (String × Value) → Evaluation (List (String × Value))
  | [] => return []
  | (s, v) :: ps => do
    let v ← hold v
    return (s, v) :: (← holdParts ps)
termination_by structural ps => ps

/-- The same for the entries of a map. -/
def holdEntries : List (Value × Value) → Evaluation (List (Value × Value))
  | [] => return []
  | (k, v) :: es => do
    let k ← hold k
    let v ← hold v
    return (k, v) :: (← holdEntries es)
termination_by structural es => es
end

/-- A stream in the store. -/
def holdStream (s : StreamOf Value) : Evaluation Value := allocate (.object (.stream s))

/-- A stream of items that are at hand. -/
def holdReady (kind : String) (items : List Value) : Evaluation Value := do
  holdStream (.ready kind (← holdAll items))

/-- What a value stands for at the moment: a content, or the value itself. -/
def opened (v : Value) : Evaluation Value := do
  match v with
  | .object (.held cell) => return ((← get).contents[cell]?).getD v
  | .object (.view part (.object (.held cell))) =>
    return .object (.view part (((← get).contents[cell]?).getD (.map [])))
  | v => return v

/-- The cell of a stream and what it is at the moment, if a value is one. -/
def stream? (v : Value) : Evaluation (Option (Nat × StreamOf Value)) := do
  match v with
  | .object (.held cell) =>
    match (← get).contents[cell]? with
    | some (.object (.stream s)) => return some (cell, s)
    | _ => return none
  | _ => return none

/-- Whether a value hands out its items once. -/
def isStream (v : Value) : Evaluation Bool := do return (← stream? v).isSome

end Evaluation

/-- How deep contents may lie in each other. -/
def nestingLimit : Nat := 2000

/-- How deep functions that are left behind may have others among the names around them. -/
def capturingLimit : Nat := 3

namespace Memory

mutual
/-- A value inside the contents of some cells, with contents in the places of references, but for
those to streams and to these cells. Outside, no marks are needed, and functions have values in the
places of cells. -/
def settledIn (memory : Memory) (isOutside : Bool) (capturing : Nat) :
    Nat → List Nat → Value → Except Failure Value
  | 0, _, _ => .error .tooDeep
  | depth + 1, within, v =>
    let go (v : Value) := settledIn memory isOutside capturing depth within v
    match v with
    | .list vs => .list <$> vs.mapM go
    | .tuple vs => .tuple <$> vs.mapM go
    | .map es => .map <$> es.mapM fun (k, v) => do return (← go k, ← go v)
    | .object (.nan mark) => .ok (if isOutside then .float .nan else .object (.nan mark))
    | .object (.set isFrozen items places) => do
      return .object (.set isFrozen (← items.mapM go) places)
    | .object (.view part map) => do return .object (.view part (← go map))
    | .object (.slice start stop step) => do
      return .object (.slice (← go start) (← go stop) (← go step))
    | .object (.method self name) => do return .object (.method (← go self) name)
    | .object (.made kind parts) => do
      return .object (.made kind (← parts.mapM fun (s, v) => do return (s, ← go v)))
    | .object (.function parameters body cells known) =>
      if isOutside then leftBehind memory capturing depth parameters body cells known else .ok v
    | .object (.held cell) =>
      match memory.contents[cell]? with
      | some (.object (.stream _)) | none => .ok v
      | some content =>
        if !within.contains cell then
          settledIn memory isOutside capturing depth (cell :: within) content
        else if isOutside then .error .tooDeep
        else .ok (.object (.around cell content.kind))
    | v => .ok v

/-- A function without cells. -/
def leftBehind (memory : Memory) (capturing depth : Nat) (parameters : List (ParameterOf Value))
    (body : Expression) (cells : List (String × Nat)) (known : List (String × Value)) :
    Except Failure Value :=
  match capturing with
  | 0 => .ok (.object (.foreign true))
  | capturing + 1 => do
    let values := cells.filterMap fun (s, cell) => ((memory.cells[cell]?).join).map (s, ·)
    let known ← (values ++ known).mapM fun (s, v) => do
      return (s, ← settledIn memory true capturing depth [] v)
    let parameters ← parameters.mapM fun p => do
      match p.default with
      | none => return p
      | some v => return { p with default := some (← settledIn memory true capturing depth [] v) }
    return .object (.function parameters body [] known)
end

/-- A value with contents in the places of references, but for those to streams. -/
def settled (memory : Memory) (v : Value) : Except Failure Value :=
  memory.settledIn false capturingLimit nestingLimit [] v

/-- A value as it is outside, without references and marks. -/
def left (memory : Memory) (v : Value) : Except Failure Value :=
  memory.settledIn true capturingLimit nestingLimit [] v

end Memory

namespace Evaluation

/-- A value with contents in the places of references, but for those to streams. -/
def settled (v : Value) : Evaluation Value := do (← get).settled v

/-- A value as it is outside, without references and marks. -/
def left (v : Value) : Evaluation Value := do (← get).left v

/-- What comes out, or something else where a failure of some kind comes up. -/
def recovered {α : Type} (x : Evaluation α) (other : Failure → Option α) : Evaluation α :=
  ExceptT.mk do
    match ← x.run with
    | .ok a => return .ok a
    | .error why => return match other why with | some a => .ok a | none => .error why

end Evaluation

end PromptContract
