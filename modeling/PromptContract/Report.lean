import PromptContract.Value.Conversion

/-!
# Reports on problems that are given as maps

A caller may bring problems of its own: maps with a place and a message, either of which may be
missing. The headline of a report on them looks at five of them at most. All of these are described
before the descriptions are joined, which takes texts only.
-/

namespace PromptContract.Report

/-- What describes one problem (`_describe`): its message behind its place, or the message as it is
where there is no place. A place is a row of steps. -/
def describe : Value → Except Failure Value
  | .map es => do
    let steps ← ((Entries.getD es "loc").orElse (.tuple [])).items
    let path := Issue.path steps
    let msg := (Entries.get? es "msg").getD (.text "invalid")
    return if path.isEmpty then msg else .text (Issue.describe path msg.display)
  | v => .error v.notMap

/-- A description that is a text. -/
def textOf (v : Value) : Except Failure String :=
  match v.comparedText? with
  | some s => .ok s
  | none => .error .wrongKind

/-- The headline of a report on the problems of one side, perhaps of one field (`ValidationError`).
-/
def headline (side : String) (problems : List Value) (field : Option Name) :
    Except Failure String := do
  let descriptions ← (problems.take 5).mapM describe
  return Rejection.headline side field (← descriptions.mapM textOf)

end PromptContract.Report
