import PromptContract.Libraries
import PromptContract.Libraries.Offer
import PromptContract.Libraries.Provider.Address

/-!
# Libraries as far as they are followed

The functions that stand for those of the libraries in use, as far as these are followed: the
problems of a value with a schema (`Schema.Shape.issues`), the verdict on a value map, which comes
out as it is unless the types of the contract have changed it (`Validation.Checker.usual`), and what
is known of the libraries of the providers (`Sdk.usual`).
-/

namespace PromptContract

/-- Addresses that the libraries state. -/
structure Addresses where
  /-- Where OpenAI is reached unless another address is chosen. -/
  openai : String
  /-- Where the rules for the texts of complex numbers are written down. -/
  complexRules : String
deriving Inhabited

/-- What comes out where nothing has been evaluated before. -/
def Evaluation.outcome {α : Type} (x : Evaluation α) : Except Failure α :=
  (x.run Reference.blank).run.1

namespace Schema

open Evaluation

/-- The engines without fields that their types could use names of. -/
def Engines.stored (a : Addresses) : Engines Evaluation :=
  (Machine.full a.complexRules).engines fun _ => []

/-- The engines where nothing has been evaluated before any of their functions is used. -/
def Engines.usual (a : Addresses) : Engines (Except Failure) where
  optional type := type.optional
  makeRecord name fields := outcome ((Engines.stored a).makeRecord name fields)
  recordIssues name fields v := outcome do (Engines.stored a).recordIssues name fields (← hold v)
  jsonFits schema v := (JsonSchema.findings (.map schema) v).isValid
  jsonIssues schema v := (JsonSchema.findings (.map schema) v).toExcept
  typeIssues f spec read := outcome do (Engines.stored a).typeIssues f spec do hold (← read)

/-- Makes a record type of given fields. -/
def RecordType.make? (a : Addresses) (name : String) (fields : List RecordField) :
    Except Failure Value := do
  return .record name (← (Engines.usual a).makeRecord name fields)

/-- Every problem that a value has with a schema. -/
def Shape.issues (a : Addresses) (s : Shape) (v : Value) : Except Failure (List Issue) :=
  outcome do s.problems (Engines.stored a) (← hold v)

/-- Whether a value fits a schema. -/
def Shape.fits (a : Addresses) (s : Shape) (v : Value) : Except Failure Bool :=
  outcome do s.isValid (Engines.stored a) (← hold v)

end Schema

namespace Validation

/-- A value behind what is done with it in the store: itself unless something has been changed. -/
def behind (value : Value) (act : Value → Evaluation Unit) : Except Failure Value :=
  Evaluation.outcome do
    let held ← Evaluation.hold value
    act held
    if (← get).changes = 0 then return value else Evaluation.left held

/-- Holds a value map against a schema. -/
def againstSchema (a : Addresses) (schema : Option Value) (value : Value) (side : Side) :
    Except Failure Value :=
  behind value (againstSchemaBy (.full a.complexRules) side schema)

/-- The checker whose types may change a value map, and are evaluated in its place. -/
def Checker.usual (a : Addresses) : Checker where
  M := Evaluation
  asked c side held := checkingBy (.full a.complexRules) side (c.fields side) held
  run value act :=
    behind value fun held => Reference.within Reference.besideField [] true (act held)

end Validation

namespace Sdk

/-- The address at which OpenAI is reached. It may be chosen by an argument or in the environment,
and must then be a text that can be read as one. -/
def openaiAddress (a : Addresses) (env : Environment) (address : Value) :
    Except String String :=
  match (address.present?).or ((env.get? "OPENAI_BASE_URL").map Value.text) with
  | none => .ok a.openai
  | some v =>
    match v.comparedText? with
    | some s => (Address.base s).mapError fun _ => "InvalidURL"
    | none => .error "TypeError"

/-- Whether a value names a model of Google: a text does, and a row or a map that holds a slash. -/
def namesModel : Value → Bool
  | .text _ | .fieldType _ => true
  | .list vs | .tuple vs => vs.any (·.isText "/")
  | .map es => (Entries.get? es "/").isSome
  | _ => false

/-- The libraries of the providers as far as they are followed. -/
def usual (a : Addresses) : Sdk where
  connect env provider _ model address :=
    match provider with
    | .openai => openaiAddress a env address
    | .anthropic => .ok ""
    | .google => if namesModel model then .ok "" else .error "TypeError"
  extras :=
    { names := ["candidate_count", "response_mime_type", "response_schema", "presence_penalty",
        "frequency_penalty"]
      apart := by decide }

end Sdk

/-- The libraries as far as they are followed. -/
def Libraries.usual (a : Addresses) : Libraries := ⟨.usual a, .usual a⟩

end PromptContract
