import PromptContract.Failure
import PromptContract.Number.Numeral

/-!
# What stands in the way of writing a value

A value cannot be written (`str`, `repr` and the texts that formats make of it) if it holds an
integer of more digits than are written, or parts that stand too deep in it. `Value.obstacle` goes
through a value as `Value.written` writes it, and finds what comes first. How deep is too deep
depends on the kinds of values around a part and on the place where the writing starts, of which a
`Reach` tells.
-/

namespace PromptContract

/-- What may stand in the way of writing a value. -/
inductive Obstacle
  /-- An integer has more digits than are written. -/
  | digits
  /-- A part of the value stands too deep in it. -/
  | depth
deriving DecidableEq

/-- How the writing fails for it. -/
def Obstacle.failure : Obstacle → Failure
  | .digits => .unreadable
  | .depth => .tooDeep

/-- Whether something can still be written inside values of given kinds, the innermost first, behind
the place where the writing starts. -/
abbrev Reach := List String → Bool

/-- Everything can be written, however deep it stands. -/
def Reach.unlimited : Reach := fun _ => true

namespace Value

/-- The first integer with more digits than an integer is written with. -/
def writtenLimit : Nat := Nat.pow 10 Numeral.digitLimit

/-- What stands in the way of writing an integer: too many digits. -/
def overLong (n : Int) : Option Obstacle :=
  if n.natAbs < writtenLimit then none else some .digits

/-- What stands in the way of writing what stands inside given values: that it stands too deep, else
what is found about it. -/
def entering (reach : Reach) (around : List String) (found : Option Obstacle) : Option Obstacle :=
  if reach around then found else some .depth

mutual
/-- The first thing that stands in the way of writing a value inside values of given kinds. -/
def obstacle (reach : Reach) (around : List String) : Value → Option Obstacle
  | .int n => entering reach around (overLong n)
  | .list vs => entering reach around (obstacleOfAll reach ("list" :: around) vs)
  | .tuple vs => entering reach around (obstacleOfAll reach ("tuple" :: around) vs)
  | .map es => entering reach around (obstacleOfEntries reach ("dict" :: around) es)
  | .union style members =>
    entering reach around (obstacleOfAll reach (kind (.union style []) :: around) members)
  | .generic label origin arguments =>
    entering reach around
      (obstacleOfAll reach (kind (.generic label origin []) :: around) arguments)
  | .annotated base notes =>
    let around' := "_AnnotatedAlias" :: around
    entering reach around
      ((obstacle reach around' base).or (obstacleOfNotes reach around' notes))
  | .unpacked type =>
    entering reach around (obstacle reach ("_UnpackGenericAlias" :: around) type)
  | .field f => obstacleOfField reach around f
  | .declaration ⟨inputs, outputs, instructions, inputSchema, outputSchema⟩ =>
    let around' := "Module" :: around
    entering reach around
      (((((obstacleOfFieldsIfAny reach ("list" :: around') inputs).or
        (obstacleOfFieldsIfAny reach ("list" :: around') outputs)).or
        (obstacleIfAny reach around' instructions)).or
        (obstacleIfAny reach around' inputSchema)).or
        (obstacleIfAny reach around' outputSchema))
  | .contract ⟨inputs, outputs, instructions, inputSchema, outputSchema⟩ =>
    let around' := "NormalizedModule" :: around
    entering reach around
      (((((obstacleOfFields reach ("tuple" :: around') inputs).or
        (obstacleOfFields reach ("tuple" :: around') outputs)).or
        (obstacleIfAny reach around' instructions)).or
        (obstacleIfAny reach around' inputSchema)).or
        (obstacleIfAny reach around' outputSchema))
  | .options ⟨model, validate, debounceMs, apiKey, providerOptions⟩ =>
    let around' := "PredictOptions" :: around
    entering reach around
      (((((obstacle reach around' model).or (obstacle reach around' validate)).or
        (obstacle reach around' debounceMs)).or (obstacle reach around' apiKey)).or
        (obstacle reach around' providerOptions))
  | .object o => obstacleOfObject reach around o
  | _ => entering reach around none
termination_by structural v => v

/-- The first thing in the way of writing an object of expressions. -/
def obstacleOfObject (reach : Reach) (around : List String) : ObjectOf Value → Option Obstacle
  | .set _ items _ => entering reach around (obstacleOfAll reach ("set" :: around) items)
  | .range start stop step =>
    entering reach around (((overLong start).or (overLong stop)).or (overLong step))
  | .slice start stop step =>
    let around' := "slice" :: around
    entering reach around
      (((obstacle reach around' start).or (obstacle reach around' stop)).or
        (obstacle reach around' step))
  | .view part (.map es) =>
    entering reach around (obstacleOfPart reach ("view" :: around) part es)
  | .made kind [("args", .tuple vs)] =>
    entering reach around (obstacleOfAll reach (kind :: around) vs)
  | .made kind parts =>
    entering reach around
      (if kind == "SchemaProperty" then obstacleOfParts reach (kind :: around) parts else none)
  | _ => entering reach around none
termination_by structural o => o

/-- The first thing in the way of writing the named parts of an object. -/
def obstacleOfParts (reach : Reach) (around : List String) :
    List (String × Value) → Option Obstacle
  | [] => none
  | (_, v) :: ps => (obstacle reach around v).or (obstacleOfParts reach around ps)
termination_by structural ps => ps

/-- The first thing in the way of writing what of a map is gone through. -/
def obstacleOfPart (reach : Reach) (around : List String) (part : MapPart) :
    List (Value × Value) → Option Obstacle
  | [] => none
  | (k, v) :: es =>
    let found := match part with
      | .keys => obstacle reach around k
      | .values => obstacle reach around v
      | .items => (obstacle reach ("tuple" :: around) k).or (obstacle reach ("tuple" :: around) v)
    found.or (obstacleOfPart reach around part es)
termination_by structural es => es

/-- The first thing in the way of writing the values of a row. -/
def obstacleOfAll (reach : Reach) (around : List String) : List Value → Option Obstacle
  | [] => none
  | v :: vs => (obstacle reach around v).or (obstacleOfAll reach around vs)
termination_by structural vs => vs

/-- The first thing in the way of writing the notes of a type. -/
def obstacleOfNotes (reach : Reach) (around : List String) : List Value → Option Obstacle
  | [] => none
  | .map es :: vs =>
    (obstacleOfLimits reach ("FieldInfo" :: around) es).or (obstacleOfNotes reach around vs)
  | v :: vs => (obstacle reach around v).or (obstacleOfNotes reach around vs)
termination_by structural vs => vs

/-- The first thing in the way of writing the limits that a note sets. -/
def obstacleOfLimits (reach : Reach) (around : List String) :
    List (Value × Value) → Option Obstacle
  | [] => none
  | (_, v) :: es => (obstacle reach around v).or (obstacleOfLimits reach around es)
termination_by structural es => es

/-- The first thing in the way of writing the entries of a map. -/
def obstacleOfEntries (reach : Reach) (around : List String) :
    List (Value × Value) → Option Obstacle
  | [] => none
  | (k, v) :: es =>
    ((obstacle reach around k).or (obstacle reach around v)).or (obstacleOfEntries reach around es)
termination_by structural es => es

/-- The first thing in the way of writing a value that may be absent. -/
def obstacleIfAny (reach : Reach) (around : List String) : Option Value → Option Obstacle
  | none => none
  | some v => obstacle reach around v
termination_by structural v => v

/-- The first thing in the way of writing a field with all its members. -/
def obstacleOfField (reach : Reach) (around : List String) : FieldOf Value → Option Obstacle
  | ⟨_, _, description, required, spec⟩ =>
    let around' := "Field" :: around
    entering reach around
      (((obstacle reach around' description).or (obstacle reach around' required)).or
        (obstacleIfAny reach around' spec))
termination_by structural f => f

/-- The first thing in the way of writing the fields of one side. -/
def obstacleOfFields (reach : Reach) (around : List String) :
    List (FieldOf Value) → Option Obstacle
  | [] => none
  | f :: fs => (obstacleOfField reach around f).or (obstacleOfFields reach around fs)
termination_by structural fs => fs

/-- The first thing in the way of writing a list of fields that may be absent. -/
def obstacleOfFieldsIfAny (reach : Reach) (around : List String) :
    Option (List (FieldOf Value)) → Option Obstacle
  | none => none
  | some fs => obstacleOfFields reach around fs
termination_by structural fs => fs
end

/-- What stands in the way of what a place shows of a value (`str`): texts stand there as they are.
-/
def displayObstacle (reach : Reach) (place : String) : Value → Option Obstacle
  | .null | .text _ | .fieldType _ => none
  | v => v.obstacle reach [place]

/-- Whether a value holds no integer that is too long to be written. -/
def isWritable (v : Value) : Bool := (v.obstacle .unlimited []).isNone

/-- What a prompt shows for a value, if that can be written. -/
def toDisplay (v : Value) : Except Failure String :=
  if v.isWritable then .ok v.display else .error .unreadable

/-- The written form of a value, if it can be written. -/
def toQuoted (v : Value) : Except Failure String :=
  if v.isWritable then .ok v.quoted else .error .unreadable

end Value

end PromptContract
