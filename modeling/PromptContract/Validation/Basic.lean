import PromptContract.Contract
import PromptContract.Schema.Engines

/-!
# Validating value maps

A value map is held against the schema of its side (`validate_against`), and then each field's own
type against the field's value (`_check_field_specs`). Entries that are null count as absent in both
(`_present`), so an optional property that was never produced does not fail a schema that gives it a
type. A map that fails is reported with all its entries, those that are null included.

What is asked on the way is given by a `Checking`: the entries of the map, and the problems of
values. Engines answer it where they know the map (`Engines.checking`). A `Checker` is all that a
caller of `validate_inputs` and `validate_outputs` needs of libraries, and `check` stands for both.
-/

namespace PromptContract

namespace Validation

/-- What is asked while a value map is validated. -/
structure Checking (M : Type → Type) where
  /-- The entries of the map, which it must have. -/
  entries : M Entries
  /-- The entries of the map as they are reported. -/
  report : M Entries
  /-- The problems of a map under a schema that it does not satisfy. -/
  schemaRejects : Schema.Shape → Entries → M (Option (List Issue))
  /-- The problems of the value of a field that the given type of the field does not take. -/
  fieldRejects : Field → Value → M (Option (List Issue))

section Steps

variable {M : Type → Type} [Monad M] [MonadExceptOf Failure M]

/-- Refuses the map for the problems that were found, if it was rejected. -/
def refuse (c : Checking M) (side : Side) (field : Option Name) (found : Option (List Issue)) :
    M Unit := do
  match found with
  | none => return
  | some issues => throw (.rejected ⟨side, ← c.report, issues, field⟩)

/-- Holds the map against a schema (`validate_against`). -/
def holdSchema (c : Checking M) (side : Side) (schema : Option Value) : M Unit := do
  match schema with
  | none => return
  | some schema => do
    let shape ← MonadExcept.ofExcept (Schema.Shape.of schema)
    let es ← c.entries
    refuse c side none (← c.schemaRejects shape (Entries.present es))

/-- Holds the value of one of the fields against the field's own type. -/
def holdField (c : Checking M) (side : Side) (f : Field) : M Unit := do
  match f.spec with
  | none => return
  | some spec => do
    match ((← c.entries).get? f.name.text).bind Value.present? with
    | none => return
    | some _ => do
      let found ← c.fieldRejects f spec
      refuse c side (some f.name) (found.map fun own => own.map (Issue.within f.name.toValue))

/-- Holds the map against the own types of fields, in their order (`_check_field_specs`). -/
def holdFields (c : Checking M) (side : Side) (fields : List Field) : M Unit :=
  fields.forM (holdField c side)

/-- Holds the map against the schema of a side and then against the own types of its fields. -/
def checkSide (c : Checking M) (side : Side) (schema : Option Value) (fields : List Field) :
    M Unit := do
  holdSchema c side schema
  holdFields c side fields

variable (c : Checking M) (side : Side)

/-- Nothing is found. -/
@[simp] theorem refuse_none (field : Option Name) : refuse c side field none = pure () := rfl

/-- Where there is no schema there is nothing to hold a map against. -/
@[simp] theorem holdSchema_none : holdSchema c side none = pure () := rfl

/-- A value of a shape is held against as a schema of that shape. -/
theorem holdSchema_of_shape [LawfulMonad M] {schema : Value} {shape : Schema.Shape}
    (h : Schema.Shape.of schema = .ok shape) : holdSchema c side (some schema) = (do
      refuse c side none (← c.schemaRejects shape (← c.entries).present)) := by
  unfold holdSchema
  simp only [h, MonadExcept.ofExcept, pure_bind]

/-- A field without a type of its own asks for nothing. -/
theorem holdField_of_none {f : Field} (h : f.spec = none) : holdField c side f = pure () := by
  unfold holdField
  rw [h]

/-- The fields are gone through one by one. -/
theorem holdFields_cons (f : Field) (fields : List Field) : holdFields c side (f :: fields) =
    (do holdField c side f; holdFields c side fields) := List.forM_cons

end Steps

/-- What is known of libraries where a value map is validated: what is asked about the map of a side
of a contract, and what comes out of the map behind its check, which types may change on the way.
-/
structure Checker where
  /-- What the libraries keep in mind during a check. -/
  M : Type → Type
  [monad : Monad M]
  [except : MonadExceptOf Failure M]
  /-- What is asked about the map. -/
  asked : Contract → Side → Value → Checking M
  /-- The map behind what is done with it. -/
  run : Value → (Value → M Unit) → Except Failure Value

attribute [instance] Checker.monad Checker.except

/-- Validates the values of one side of a contract (`validate_inputs`, `validate_outputs`). -/
def check (k : Checker) (c : Contract) (side : Side) (value : Value) : Except Failure Value :=
  k.run value fun held => checkSide (k.asked c side held) side (c.schema side) (c.fields side)

/-- Validates the values of one side of a value that is a contract, declares one or describes one.
-/
def checkUnder (k : Checker) (contract : Value) (side : Side) (value : Value) :
    Except Failure Value := do
  check k (← Contract.ofValue contract) side value

/-- The checker whose libraries keep nothing in mind and change nothing. -/
def Checker.fixed (asked : Contract → Side → Value → Checking (Except Failure)) : Checker where
  M := Except Failure
  asked := asked
  run value act := (act value).map fun _ => value

end Validation

namespace Schema.Engines

open Validation

variable {M : Type → Type} [Monad M] [MonadExceptOf Failure M]

/-- What is asked about a map if engines find the problems, where the map can be looked up and maps
that are made of it can be handed on. A type is given the value as it is when it has been looked at.
-/
def checking (e : Engines M) (hold : Entries → M Value) (entries report : M Entries) :
    Checking M where
  entries := entries
  report := report
  schemaRejects shape es := do shape.rejects e (← hold es)
  fieldRejects f spec := do
    let issues ← e.typeIssues f spec do
      match (← entries).get? f.name.text with
      | none => throw .missingEntry
      | some v => return v
    return if issues.isEmpty then none else some issues

/-- What is asked about a map of engines that keep nothing in mind and change nothing. -/
def asked (e : Engines (Except Failure)) (value : Value) : Checking (Except Failure) :=
  e.checking (fun es => .ok (.map es)) value.entriesOfMap value.entriesOfMap

/-- The checker of such engines. -/
def checker (e : Engines (Except Failure)) : Checker := .fixed fun _ _ value => e.asked value

end Schema.Engines

end PromptContract
