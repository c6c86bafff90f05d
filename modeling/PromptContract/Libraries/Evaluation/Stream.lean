import PromptContract.Libraries.Evaluation.Basic

/-!
# Streams

How streams hand out their items (`Stream.next`), one after the other as they are asked for. A
stream over something that changes in place sees the changes; one over a map or a set ends in a
failure when the number of items has changed. A function that says that there is no item ends the
stream that its results make up, but not the stream of an expression, for which that is a failure.
-/

namespace PromptContract.Stream

open Evaluation

/-- The failure of a stream that cannot go on. -/
def broken : Failure := .raised "RuntimeError"

/-- What comes out, and nothing where there is no item. -/
def ifAny {α : Type} (x : Evaluation α) : Evaluation (Option α) :=
  recovered (some <$> x) fun
    | .exhausted => some none
    | _ => none

/-- What an expression of a stream comes to. If it fails the stream is at its end. -/
def guarded {α : Type} (cell : Nat) (x : Evaluation α) : Evaluation α :=
  tryCatch x fun why => do
    advance cell (.ready "generator" [])
    match why with
    | .exhausted => throw broken
    | why => throw why

/-- The next item of a stream whose items are made from those of a source: one that is ready, or the
first that the next items of the source lead to. -/
def made (m : Machine) (cell : Nat) (e : Expression) (cells : List (String × Nat)) :
    Nat → List Value → Evaluation (Option Value)
  | _, v :: rest => do
    advance cell (.generator rest e cells)
    return some v
  | 0, [] => throw .tooManyItems
  | fuel + 1, [] => do
    let scope : Scope := { cells, isFunction := true }
    match ← guarded cell (do m.next (← scope.lookup sourceName)) with
    | none => do
      advance cell (.ready "generator" [])
      return none
    | some v => do
      scope.put rowName v
      match ← opened (← guarded cell (evaluate m scope e)) with
      | .list items => made m cell e cells fuel items
      | _ => throw .wrongKind

/-- The next items of streams, as long as all have one. -/
def nextOfAll (m : Machine) : List Value → Evaluation (Option (List Value))
  | [] => return some []
  | stream :: streams => do
    match ← m.next stream with
    | none => return none
    | some v =>
      match ← nextOfAll m streams with
      | some vs => return some (v :: vs)
      | none => return none

/-- The next items of streams that must have equally many. -/
def nextOfEqual (m : Machine) (streams : List Value) : Evaluation (Option (List Value)) := do
  let items ← streams.mapM m.next
  match items.mapM id with
  | some vs => return some vs
  | none => if items.any Option.isSome then throw .unreadable else return none

/-- The next item of a stream for which a function gives something that counts as true. -/
def kept (m : Machine) (f source : Value) : Nat → Evaluation (Option Value)
  | 0 => throw .tooManyItems
  | fuel + 1 => do
    match ← m.next source with
    | none => return none
    | some v =>
      let told ← match f with
        | .null => pure v
        | f => m.call f [v] []
      if ← isTrue told then return some v else kept m f source fuel

/-- The number of items that a value has at the moment. -/
def sizeOf (v : Value) : Evaluation Nat := do
  match ← opened v with
  | .map es => return es.length
  | .object (.set _ items _) => return items.length
  | _ => return 0

/-- The items of a row that changes in place from a place on, at the moment. -/
def itemsFrom (source : Value) (place : Nat) : Evaluation (List Value) := do
  match ← opened source with
  | .list items => return items.drop place
  | _ => return []

/-- The next item of a stream in a cell, if it has one left. -/
def next (m : Machine) (cell : Nat) (s : StreamOf Value) : Evaluation (Option Value) := do
  match s with
  | .ready _ [] => return none
  | .ready kind (v :: rest) => do
    advance cell (.ready kind rest)
    return some v
  | .row source place changes left => do
    let now := (← get).changes
    let left ← if changes == now then pure left else itemsFrom source place
    match left with
    | [] => do
      advance cell (.ready "list_iterator" [])
      return none
    | v :: rest => do
      advance cell (.row source (place + 1) now rest)
      return some v
  | .watched kind source size items => do
    if (← sizeOf source) != size then throw broken
    match items with
    | [] => do
      advance cell (.ready kind [])
      return none
    | v :: rest => do
      advance cell (.watched kind source size rest)
      return some v
  | .range start stop step => do
    if Value.rangeLength start stop step = 0 then return none
    advance cell (.range (start + step) stop step)
    return some (.int start)
  | .generator ready e cells => made m cell e cells Value.itemLimit ready
  | .mapped f sources =>
    match ← nextOfAll m sources with
    | none => return none
    | some vs => ifAny (m.call f vs [])
  | .filtered f source => return (← ifAny (kept m f source Value.itemLimit)).join
  | .abreast _ [] => return none
  | .abreast isStrict sources =>
    return (← if isStrict then nextOfEqual m sources else nextOfAll m sources).map .tuple
  | .numbered n source =>
    match ← m.next source with
    | none => return none
    | some v => do
      advance cell (.numbered (n + 1) source)
      return some (.tuple [.int n, v])
  | .called f last => do
    match ← ifAny (m.call f [] []) with
    | none => return none
    | some v =>
      if (← settled v).equal (← settled last) then
        advance cell (.ready "callable_iterator" [])
        return none
      else return some v

/-- The items that a stream in a cell has left. It has none behind that. -/
def rest (m : Machine) (stream : Value) (cell : Nat) (s : StreamOf Value) :
    Evaluation (List Value) := do
  match s with
  | .ready kind items => do
    advance cell (.ready kind [])
    return items
  | .range start stop step => do
    advance cell (.ready "range_iterator" [])
    (Value.object (.range start stop step)).items
  | _ => m.eachNext stream pure [] Value.itemLimit

end PromptContract.Stream
