import PromptContract.Libraries.Evaluation.Routine

/-!
# Calls

What comes out when a value is called (`Machine.callBy`). A function without a name takes arguments
for its parameters (`Closure.bind`) and is evaluated among the names around it; one that hands out
values gives a stream of them. Calls that nest too deep are refused (`Machine.ofDepth`).
-/

namespace PromptContract

namespace Closure

/-- The values of parameters for arguments: in the order of the parameters, from those by place,
from those by name, and from the defaults. All arguments have to be taken. -/
def bind : List (ParameterOf Value) → List Value → List (String × Value) →
    Except Failure (List (String × Value))
  | [], [], [] => .ok []
  | [], _, _ => .error .wrongKind
  | ⟨.places, name, _⟩ :: ps, placed, named => do
    return (name, .tuple placed) :: (← bind ps [] named)
  | ⟨.names, name, _⟩ :: ps, placed, named => do
    let entries := named.map fun n => (Value.text n.1, n.2)
    return (name, .map entries) :: (← bind ps placed [])
  | ⟨kind, name, default⟩ :: ps, placed, named =>
    let takesPlace := kind == .placed || kind == .ordinary
    let byPlace := if takesPlace then placed.head? else none
    let byName := if kind == .placed then none else named.lookup name
    match byPlace, byName with
    | some _, some _ => .error .wrongKind
    | some v, none => do return (name, v) :: (← bind ps placed.tail named)
    | none, some v => do return (name, v) :: (← bind ps placed (named.filter fun n => n.1 != name))
    | none, none =>
      match default with
      | some v => do return (name, v) :: (← bind ps placed named)
      | none => .error .wrongKind

/-- The expression for what a function has handed out when it is evaluated. -/
def handedOut (body : Expression) : Expression :=
  .item (.tuple [body, .name Expression.yieldedName]) (.constant (.int 1))

/-- What a function without a name gives for arguments: a value, or a stream of those that it hands
out. -/
def call (m : Machine) (parameters : List (ParameterOf Value)) (body : Expression)
    (cells : List (String × Nat)) (known : List (String × Value)) (placed : List Value)
    (named : List (String × Value)) : Evaluation Value := do
  let given ← bind parameters placed named
  let around ← Scope.inside { cells, isFunction := true } (known.map (·.1))
  let names := body.assignedNames true
  let scope ← around.inside (given.map (·.1) ++ names)
  (known ++ given).forM fun (name, v) => do scope.put name (← Evaluation.hold v)
  if names.contains Expression.yieldedName then
    scope.put Expression.yieldedName (← Evaluation.hold (.list []))
    Evaluation.later scope (← Evaluation.holdReady "tuple_iterator" [.null]) (handedOut body)
  else Evaluation.evaluate m scope body

end Closure

namespace Machine

open Evaluation

/-- Names and what they stand for, as a map. -/
def asMap (names : List (String × Value)) : Value :=
  .map (names.map fun (s, v) => (.text s, v))

/-- The names in their order, as a list. -/
def asNames (names : List (String × Value)) : Value :=
  .list (((names.map (·.1)).mergeSort fun s t => s ≤ t).map .text)

/-- What a function that tells the known names gives, if it is one. -/
def names? (name : String) : Evaluation (Option Value) := do
  let memory ← get
  match name with
  | "globals" => return some (asMap memory.globals)
  | "locals" | "vars" => return some (asMap memory.locals)
  | "dir" => return some (asNames memory.locals)
  | _ => return none

/-! ## Evaluating texts -/

/-- Names and what they stand for in a map that must be one. -/
def namesIn (v : Value) : Evaluation (List (String × Value)) := do
  match ← opened v with
  | .map es => return es.filterMap fun (k, v) => k.comparedText?.map (·, v)
  | _ => throw .wrongKind

/-- What comes out among the names of maps, and among those of the place where none are given. -/
def among {α : Type} (names : List Value) (x : Evaluation α) : Evaluation α := do
  match names with
  | [] | [.null] | [.null, .null] => x
  | globals :: locals => do
    let given ← match globals with
      | .null => pure (← get).globals
      | v => namesIn v
    let inner ← match locals with
      | [] | [.null] => pure []
      | [v] => namesIn v
      | _ => throw .wrongKind
    let memory ← get
    set { memory with globals := given, locals := inner, takesNames := true }
    let a ← x
    modify fun behind =>
      { behind with globals := memory.globals, locals := memory.locals,
                    takesNames := memory.takesNames }
    return a

/-- A text without the blanks in front of it that stand in one line. -/
def withoutIndent (s : String) : String :=
  String.ofList (s.toList.dropWhile fun c => c == ' ' || c == '\t')

/-- The text of an expression that is to be evaluated: a text itself, bytes that spell it, or what
was made of it. -/
def sourceOf : Value → Except Failure String
  | .object (.made "code" [("source", .text s)]) => .ok s
  | v =>
    match v.comparedText?, Layout.bytesOf? v with
    | some s, _ => .ok (withoutIndent s)
    | none, some bs =>
      match String.fromUTF8? (bs.map UInt8.ofNat).toByteArray with
      | some s => .ok (withoutIndent s)
      | none => .error .badExpression
    | none, none => .error .wrongKind

/-- The expression in a text. -/
def expressionIn (s : String) : Except Failure Expression :=
  if s.isEmpty then .error .badExpression else typeExpression s

/-- The value of the expression in a text, perhaps among other names than those of the place. -/
def evaluateText (m : Machine) (source : Value) (names : List Value) : Evaluation Value := do
  let e ← expressionIn (← sourceOf (← opened source))
  among names (evaluate m (.ofWhole e) e)

/-- The name that a line gives to the value of an expression, with the expression. -/
def naming? (s : String) : Option (String × Expression) :=
  let (name, rest) := (s.toList.takeWhile (· != '='), (s.toList.dropWhile (· != '=')).drop 1)
  let name := Text.trim name
  if Text.isIdentifier name then
    ((expressionIn (withoutIndent (String.ofList rest))).toOption).map (String.ofList name, ·)
  else none

/-- Evaluates the expression in a text, to whose value the text may give a name. A text of another
form is not followed up. -/
def perform (m : Machine) (source : Value) (names : List Value) : Evaluation Value := do
  let s ← sourceOf (← opened source)
  match expressionIn s, naming? s with
  | .ok e, _ => do
    let _ ← among names (evaluate m (.ofWhole e) e)
    return .null
  | .error _, some (name, e) => do
    among names (do (Scope.ofWhole e).put name (← evaluate m (.ofWhole e) e))
    return .null
  | .error _, none => return .null

/-- What a text of code is made into. Only expressions are read. -/
def compiled (placed : List Value) : Evaluation Value := do
  match placed with
  | source :: _ :: mode :: _ => do
    let s ← sourceOf (← opened source)
    match mode.comparedText? with
    | some "eval" => do
      let _ ← expressionIn s
      return .object (.made "code" [("source", .text s)])
    | some _ => return .object (.made "code" [])
    | none => throw .wrongKind
  | _ => throw .wrongKind

/-! ## Calls of values -/

/-- What a function with a name gives for arguments. -/
def callNamed (m : Machine) (name : String) (placed : List Value) (named : List (String × Value)) :
    Evaluation Value := do
  match name, placed with
  | "Optional", _ => throw .wrongKind
  | "eval", source :: names =>
    if named.isEmpty && names.length < 3 then evaluateText m source names else throw .wrongKind
  | "exec", source :: names => if named.isEmpty then perform m source names else throw .wrongKind
  | "eval", [] | "exec", [] => throw .wrongKind
  | "compile", placed => compiled placed
  | name, placed => do
    let told ← if placed.isEmpty && named.isEmpty then names? name else pure none
    match told with
    | some v => hold v
    | none => do hold (← Routine.call m name placed named)

/-- A value of a type that has been made. -/
def made (m : Machine) (t : MadeType) (placed : List Value) (named : List (String × Value)) :
    Evaluation Value := do
  let new ← match t.members.lookup "__init__", t.base with
    | none, some base => m.call (.builtin base) placed named
    | some _, _ => pure (.object (.made t.name []))
    | none, none =>
      if placed.isEmpty && named.isEmpty then pure (.object (.made t.name [])) else throw .wrongKind
  match t.members.lookup "__init__" with
  | none => return new
  | some start =>
    match ← m.call start (new :: placed) named with
    | .null => return new
    | _ => throw .wrongKind

/-- What a value gives for arguments. -/
def callBy (m : Machine) (v : Value) (placed : List Value) (named : List (String × Value)) :
    Evaluation Value := do
  match v with
  | .object (.function parameters body cells known) =>
    Closure.call m parameters body cells known placed named
  | .object (.given name parameters self) => do
    hold ((← m.tell name self (← Closure.bind parameters placed named)).getD Numeric.unknown)
  | .object (.routine name) => callNamed m name placed named
  | .object (.method self name) => Method.call m self name placed named
  | .object (.foreign _) | .record .. | .itself _ => return Numeric.unknown
  | .object (.made ..) =>
    match ← madeMember? v "__call__" with
    | some f => m.call f placed named
    | none => throw .wrongKind
  | .builtin t | .generic none t _ => do
    match ← madeType? t.name, t with
    | some made, .other _ => m.made made placed named
    | _, t => hold (← Construction.call m t placed named)
  | .annotated base _ => m.call base placed named
  | _ => throw .wrongKind

/-- The items of a value, where those of a stream are evaluated. -/
def itemsBy (m : Machine) (v : Value) : Evaluation (List Value) := do
  match ← stream? v with
  | some (cell, s) => Stream.rest m v cell s
  | none => do (← opened v).countedItems

/-- The next item of a stream, if it has one left. -/
def nextBy (m : Machine) (v : Value) : Evaluation (Option Value) := do
  match ← stream? v with
  | some (cell, s) => Stream.next m cell s
  | none => throw .wrongKind

/-- What functions that a place knows give, by the machine for what they call. -/
abbrev Telling := Machine → String → Option Value → List (String × Value) →
  Evaluation (Option Value)

/-- The machine for calls that nest up to a depth. -/
def ofDepth (complexRules : String) (tell : Telling) : Nat → Machine
  | 0 =>
    ⟨fun _ _ _ => throw .tooDeep, fun _ => throw .tooDeep, fun _ => throw .tooDeep,
      fun _ _ _ => throw .tooDeep, complexRules⟩
  | depth + 1 =>
    let m := ofDepth complexRules tell depth
    ⟨m.callBy, m.itemsBy, m.nextBy, tell m, complexRules⟩

/-- How deep calls may nest. -/
def depthLimit : Nat := 900

end Machine

end PromptContract
