import PromptContract.Libraries.Schema.JsonSchema
import PromptContract.Libraries.Schema.Making
import PromptContract.Libraries.Value.Union
import PromptContract.Validation.Basic

/-!
# Engines over the store

Engines for schemas where a machine says what calls give (`Machine.engines`). A JSON Schema looks at
a value as it is outside, and the types at what it stands for at the moment, which they may change.
With them a map in the store is held against a schema (`Validation.againstSchemaBy`), against the
own types of fields (`againstFieldsBy`), or against both (`checkBy`).
-/

namespace PromptContract

open Evaluation Schema

/-- The names that the types of earlier fields gave. -/
def Evaluation.earlierNames : Evaluation (List (String × Value)) := do
  return (← get).locals.filter fun n => !Reference.passingNames.contains n.1

/-- The engines of a machine, where the own type of a field may use given names, and those that the
types of earlier fields gave. -/
def Machine.engines (m : Machine) (names : Field → List (String × Value)) :
    Engines Evaluation where
  optional type := type.optional
  makeRecord := RecordType.settledFields m
  recordIssues := RecordType.issues m
  jsonFits schema v := do (JsonSchema.findings (.map schema) (← left v)).isValid
  jsonIssues schema v := do (JsonSchema.findings (.map schema) (← left v)).toExcept
  typeIssues f spec read := do
    let names := names f ++ (← earlierNames)
    modify fun memory => { memory with locals := names }
    let ask : Evaluation (List Issue) := do
      let demand ← TypeCheck.Demand.ofType m spec
      demand.issues m (← read)
    recovered ask fun
      | .unfit issues => some issues
      | _ => none

namespace Validation

/-- The entries of what a value that must be a map stands for at the moment. -/
def entriesNow (value : Value) : Evaluation Entries := do (← opened value).entriesOfMap

/-- What is asked about a map in the store. The own type of a field may use names of the field and
the map. -/
def checkingBy (m : Machine) (side : Side) (fields : List Field) (value : Value) :
    Checking Evaluation :=
  (m.engines (Reference.ofField side fields value)).checking (fun es => hold (.map es))
    (entriesNow value) (do (← left value).entriesOfMap)

/-- Holds a map in the store against a schema. -/
def againstSchemaBy (m : Machine) (side : Side) (schema : Option Value) (value : Value) :
    Evaluation Unit := holdSchema (checkingBy m side [] value) side schema

/-- Holds a map in the store against the own types of fields. -/
def againstFieldsBy (m : Machine) (side : Side) (fields : List Field) (value : Value) :
    Evaluation Unit :=
  Reference.within Reference.besideField [] true
    (holdFields (checkingBy m side fields value) side fields)

/-- Validates a map in the store as the values of one side of a contract. -/
def checkBy (m : Machine) (c : Contract) (side : Side) (value : Value) : Evaluation Unit :=
  Reference.within Reference.besideField [] true
    (checkSide (checkingBy m side (c.fields side) value) side (c.schema side) (c.fields side))

end Validation

end PromptContract
