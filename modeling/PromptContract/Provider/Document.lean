import PromptContract.Provider.Usage
import PromptContract.Value.Conversion

/-!
# Reading what a provider sends back

A provider answers with a document: objects with named members, lists, texts and numbers. Objects
stand as maps here. Reading a member that an object lacks is a failure, and so is reading a member
of anything else.
-/

namespace PromptContract.Document

/-- Objects count as true, even without members; all else counts as values do. -/
def holds : Value → Bool
  | .map _ => true
  | v => v.truthy

/-- A member of an object. -/
def member (v : Value) (name : String) : Except Failure Value :=
  match v with
  | .map es =>
    match Entries.get? es name with
    | some v => .ok v
    | none => .error .missingMember
  | _ => .error .missingMember

/-- A member at the end of a path. -/
def path (v : Value) (names : List String) : Except Failure Value := names.foldlM member v

/-- A member that may be missing. -/
def memberIfAny (v : Value) (name : String) : Option Value :=
  match v with
  | .map es => Entries.get? es name
  | _ => none

/-- The items of a list; a text is a list of its characters. -/
def listed : Value → Except Failure (List Value)
  | .list vs => .ok vs
  | .text s => (Value.text s).items
  | _ => .error .wrongKind

/-- The first item of a list. -/
def first (v : Value) : Except Failure Value := do
  match ← listed v with
  | v :: _ => return v
  | [] => throw .wrongKind

/-- A count of tokens. -/
def count : Value → Except Failure Count
  | .bool b => .ok (.truth b)
  | .int n => .ok (.whole n)
  | .float x => .ok (.real x)
  | _ => .error .wrongKind

mutual
/-- A part of a document as it is passed on: nothing is told of an object but that it is one. -/
def passedOn : Value → Value
  | .map _ => .thing
  | .list vs => .list (allPassedOn vs)
  | v => v
termination_by structural v => v

/-- The items of a list as they are passed on. -/
def allPassedOn : List Value → List Value
  | [] => []
  | v :: vs => passedOn v :: allPassedOn vs
termination_by structural vs => vs
end

/-- A part of a document as it is passed on, or a text if the part counts as false. -/
def orText (v : Value) (s : String) : Value := if holds v then passedOn v else .text s

/-- The text of a part of a reply. -/
def text : Value → Except Failure String
  | .text s => .ok s
  | _ => .error .wrongKind

end PromptContract.Document
