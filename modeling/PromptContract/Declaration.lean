import PromptContract.Field

/-!
# Declaring a contract

A declaration gives each side of a contract by a list of fields or by a schema. The fields of a list
may be given as such or by maps that describe them, and no two fields of a list have one name. A
side that gives both is settled by its list (`Declaration.warnings` says so).
-/

namespace PromptContract.Declaration

/-- One entry of a field list. -/
def fieldOfEntry (side : Side) : Value → Except Failure Field
  | .field f => .ok f
  | .map es => Field.ofEntries es
  | v => .error (.badFieldEntry side v)

/-- A map describes a field. -/
theorem fieldOfEntry_map (side : Side) (es : Entries) :
    fieldOfEntry side (.map es) = Field.ofEntries es := rfl

/-- Reads the entries of a field list (`_coerce_fields`) behind fields whose names are taken. -/
def readFields (side : Side) (seen : List String) : List Value → Except Failure (List Field)
  | [] => .ok []
  | entry :: rest => do
    let f ← fieldOfEntry side entry
    if seen.contains f.name.text then throw (.duplicateField side f.name)
    return f :: (← readFields side (f.name.text :: seen) rest)

/-- The field list of a side, if the side has one. -/
def fieldsOfSide (side : Side) : Value → Except Failure (Option (List Field))
  | .null => .ok none
  | v => do return some (← readFields side [] (← v.items))

/-- A declaration of the given members. -/
def make (inputs outputs instructions inputSchema outputSchema : Value) :
    Except Failure Declaration := do
  return {
    inputs := ← fieldsOfSide .input inputs
    outputs := ← fieldsOfSide .output outputs
    instructions := instructions.present?
    inputSchema := inputSchema.present?
    outputSchema := outputSchema.present? }

/-- The names of a declaration's members. -/
def members : List String :=
  ["inputs", "outputs", "instructions", "input_schema", "output_schema"]

/-- A declaration from a map of its members (`Module.from_dict`); entries of other names are left
aside. -/
def ofEntries (es : Entries) : Except Failure Declaration :=
  make (es.getD "inputs") (es.getD "outputs") (es.getD "instructions") (es.getD "input_schema")
    (es.getD "output_schema")

/-- A declaration from a map of named arguments, which must all be members. -/
def ofArguments (es : Entries) : Except Failure Declaration :=
  if es.all fun e => members.any e.1.isText then ofEntries es else .error .wrongKind

/-- The note about a side that gives both a list of fields and a schema. -/
def sideWarning (side : Side) : Option (List Field) → Option Value → List String
  | some _, some _ =>
    ["Module declares both " ++ side.name ++ " fields and an " ++ side.name
      ++ " schema; using the explicit fields and ignoring the schema"]
  | _, _ => []

/-- The notes about the sides of a declaration whose schema is ignored. -/
def warnings (d : Declaration) : List String :=
  sideWarning .input d.inputs d.inputSchema ++ sideWarning .output d.outputs d.outputSchema

end PromptContract.Declaration
