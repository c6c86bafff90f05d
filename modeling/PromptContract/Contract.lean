import PromptContract.Declaration
import PromptContract.Schema.Shape

/-!
# Contracts

A contract is a declaration whose fields are settled on both sides: a list of fields is taken over
entry by entry, and a side with a schema alone gets one field for each property, in the order of the
schema. Only a side whose fields came from its schema keeps the schema, so that a list of fields
makes the schema beside it irrelevant.
-/

namespace PromptContract.Contract

/-- The fields of a side and the schema that it keeps (`_resolve_side`). -/
def settleSide : Option (List Field) → Option Value → Except Failure (List Field × Option Value)
  | some fields, _ => .ok (fields, none)
  | none, some schema => do
    let fields ← Schema.fields schema
    return (fields.getD [], some schema)
  | none, none => .ok ([], none)

/-- A side without a list of fields has those of its schema. -/
theorem settleSide_schema (schema : Value) : settleSide none (some schema) =
    (do return ((← Schema.fields schema).getD [], some schema)) := rfl

/-- Settles the fields of a declaration. -/
def ofDeclaration (d : Declaration) : Except Failure Contract := do
  let (inputs, inputSchema) ← settleSide d.inputs d.inputSchema
  let (outputs, outputSchema) ← settleSide d.outputs d.outputSchema
  return { inputs, outputs, instructions := d.instructions, inputSchema, outputSchema }

/-- A contract from a value that is one, declares one or describes one (`normalize_module`). -/
def ofValue : Value → Except Failure Contract
  | .contract c => .ok c
  | .declaration d => ofDeclaration d
  | .map es => do ofDeclaration (← Declaration.ofEntries es)
  | _ => .error .missingMember

/-- A map of members describes a declaration, and that the contract. -/
theorem ofValue_map (es : Entries) :
    ofValue (.map es) = (do ofDeclaration (← Declaration.ofEntries es)) := rfl

/-- The notes that come up while a value is read as a contract. -/
def warnings : Value → List String
  | .declaration d => Declaration.warnings d
  | .map es =>
    match Declaration.ofEntries es with
    | .ok d => Declaration.warnings d
    | .error _ => []
  | _ => []

/-- The fields of a side. -/
def fields (c : Contract) : Side → List Field
  | .input => c.inputs
  | .output => c.outputs

/-- The schema that a side keeps. -/
def schema (c : Contract) : Side → Option Value
  | .input => c.inputSchema
  | .output => c.outputSchema

/-- The output fields of a value that is or describes a contract, or lists the fields itself
(`output_fields`). -/
def outputsOfValue : Value → Except Failure (List Field)
  | v@(.contract _) | v@(.declaration _) | v@(.map _) => do return (← ofValue v).outputs
  | v => Field.listOfValue v

end PromptContract.Contract
