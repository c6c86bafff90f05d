import PromptContract.Tag
import PromptContract.Value.Conversion

/-!
# Fields

How a field comes about: from its members (`Field.make`), from named arguments
(`Field.ofArguments`), or from a map that describes it (`Field.ofDescription`). A field always has a
name of at least one character and one of the four types: the one given, else the one of its `spec`,
else text.
-/

namespace PromptContract.Field

/-- A field of the given members. -/
def make (name type description required spec : Value) : Except Failure Field :=
  match name.name? with
  | some n =>
    if n.text.isEmpty then .error (.badFieldName name)
    else
      let resolved := match type, spec with
        | .null, .null => FieldType.str
        | .null, spec => Tag.fieldType spec
        | type, _ => Tag.fieldType type
      .ok ⟨n, resolved, description.present?.getD (.text ""), required, spec.present?⟩
  | none => .error (.badFieldName name)

/-- The names of a field's arguments. -/
def arguments : List String := ["name", "type", "description", "required", "spec"]

/-- A field from a map of named arguments, of which only the name is needed. -/
def ofArguments (es : Entries) : Except Failure Field :=
  if es.all (fun e => arguments.any e.1.isText) then
    match es.get? "name" with
    | some name =>
      make name (es.getD "type") ((es.get? "description").getD (.text ""))
        ((es.get? "required").getD (.bool true)) (es.getD "spec")
    | none => .error .wrongKind
  else .error .wrongKind

/-- A field from a map that describes it (`Field.from_dict`); entries of other names are left aside.
-/
def ofEntries (es : Entries) : Except Failure Field :=
  match es.get? "name" with
  | some name =>
    make name (es.getD "type") ((es.get? "description").getD (.text ""))
      ((es.get? "required").getD (.bool true)) (es.getD "spec")
  | none => .error .missingEntry

/-- A field from a value that must be a map describing it. The type of lists takes a name as well,
but what it gives has no entries. -/
def ofDescription : Value → Except Failure Field
  | .map es => ofEntries es
  | .builtin .list => .error .missingMember
  | _ => .error .wrongKind

/-- A field that may be given as such or by its description. -/
def ofValue : Value → Except Failure Field
  | .field f => .ok f
  | v => ofDescription v

/-- The fields that a value lists. -/
def listOfValue (v : Value) : Except Failure (List Field) := do (← v.items).mapM ofValue

end PromptContract.Field
