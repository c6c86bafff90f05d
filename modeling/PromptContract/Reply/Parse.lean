import PromptContract.Contract
import PromptContract.Reply.Scalar
import PromptContract.Reply.Scanner

/-!
# Parsing a reply

A reply is parsed field by field: the text behind the field's marker, read as the field's type. A
field without a text is missing, which is an outcome and no failure. The output map has one entry
for each field name, in the order of the fields.
-/

namespace PromptContract.Reply

/-- How a field came out of a reply (`ParseOutcome`). -/
inductive Outcome
  | parsed
  /-- The text is no number of the field's type and stands for itself. -/
  | fallback
  /-- There is no marker of the field, or its line has no end yet. -/
  | missing
deriving DecidableEq, Repr

/-- The name of an outcome. -/
def Outcome.name : Outcome → String
  | .parsed => "parsed"
  | .fallback => "coercion_fallback"
  | .missing => "missing"

/-- One field of a reply. -/
structure ParsedField where
  name : Name
  type : FieldType
  raw : Option (List Char)
  value : Option Scalar
  outcome : Outcome
deriving DecidableEq

/-- A map of output fields to their values, of which missing ones have none. Names that count as the
same text are one name, and the first of them stays. -/
abbrev Outputs := List (Name × Option Scalar)

namespace Outputs

/-- The value of a field. -/
def get (m : Outputs) (name : Name) : Option Scalar :=
  (m.find? fun e => e.1.text == name.text).bind (·.2)

/-- Sets the value of a field: in its place if it has one, else at the end. -/
def put (m : Outputs) (name : Name) (value : Option Scalar) : Outputs :=
  if m.any (·.1.text == name.text) then
    m.map fun e => if e.1.text == name.text then (e.1, value) else e
  else m ++ [(name, value)]

/-- Setting a value keeps the names and their order, and a new name comes last. -/
theorem names_put (m : Outputs) (name : Name) (value : Option Scalar) :
    (m.put name value).map (·.1) =
      if name.text ∈ m.map (·.1.text) then m.map (·.1) else m.map (·.1) ++ [name] := by
  by_cases h : name.text ∈ m.map (·.1.text)
  · have hany : m.any (·.1.text == name.text) = true := by
      obtain ⟨e, he, hname⟩ := List.mem_map.mp h
      exact List.any_eq_true.mpr ⟨e, he, by simp [hname]⟩
    rw [put, if_pos hany, if_pos h, List.map_map]
    apply List.map_congr_left
    intro e _
    simp only [Function.comp]
    split <;> rfl
  · have hany : ¬m.any (·.1.text == name.text) = true := by
      intro hany
      obtain ⟨e, he, hname⟩ := List.any_eq_true.mp hany
      exact h (List.mem_map.mpr ⟨e, he, by simpa using hname⟩)
    rw [put, if_neg hany, if_neg h]
    simp

/-- The map as a value. -/
def toEntries (m : Outputs) : Entries :=
  m.map fun (name, value) => (name.toValue, (value.map Scalar.toValue).getD .null)

/-- Whether two values of a field are no change of one another (`_same_value`). -/
def sameValue : Option Scalar → Option Scalar → Bool
  | none, none => true
  | some a, some b => a.unchanged b
  | _, _ => false

/-- Whether two maps of the same fields are no change of one another (`_same_map`). -/
def unchanged (m n : Outputs) : Bool := m.all fun e => sameValue e.2 (get n e.1)

end Outputs

/-- Reads the text of one field, if there is one. -/
def resolveField (f : Field) (raw : Option (List Char)) : Except Failure ParsedField :=
  match raw with
  | none => .ok ⟨f.name, f.type, none, none, .missing⟩
  | some raw =>
    match Scalar.read? f.type raw with
    | some r =>
      .ok ⟨f.name, f.type, some raw, some r.value, if r.fellBack then .fallback else .parsed⟩
    | none => .error .unreadable

/-- Reads the texts that a scanner has for fields, in the order of the fields (`resolve_fields`). -/
def resolve (s : Scanner) (hold : Bool) (fields : List Field) : Except Failure (List ParsedField) :=
  fields.mapM fun f => resolveField f (s.value? hold f.name.text.toList)

/-- Parses a whole reply (`parse_fields`). -/
def parseFields (reply : List Char) (fields : List Field) : Except Failure (List ParsedField) :=
  resolve (Scanner.ofText reply) false fields

/-- The output map of parsed fields: a name that comes twice keeps its first place and its last
value. -/
def outputsOf (parsed : List ParsedField) : Outputs :=
  parsed.foldl (fun m p => m.put p.name p.value) []

/-- Parses a whole reply into an output map (`parse_output`). -/
def parse (reply : List Char) (fields : List Field) : Except Failure Outputs := do
  return outputsOf (← parseFields reply fields)

end PromptContract.Reply
