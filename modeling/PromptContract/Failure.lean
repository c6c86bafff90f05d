import PromptContract.Provider.Basic
import PromptContract.Side
import PromptContract.Value.Display

/-!
# What can go wrong

The causes for which an operation is refused, and the wording of those that the library itself
finds. A cause without a wording says only of what kind it is. A value map that a schema or a
field's own type rejects is reported with all its problems: `Rejection` carries them, and
`Rejection.message` names at most five.
-/

namespace PromptContract

/-- One problem that a check found: where, what, and by which rule. A rule is missing where the
schema allows no value at all. -/
structure Issue where
  loc : List Value
  msg : String
  rule : Option String

/-- A value map that failed its checks (`ValidationError`). The field is named when a field's own
type rejected it. -/
structure Rejection where
  side : Side
  value : Entries
  issues : List Issue
  field : Option Name

/-- Why an operation was refused. -/
inductive Failure
  /-- A field needs a name, and a name is a text with at least one character. -/
  | badFieldName (given : Value)
  | duplicateField (side : Side) (name : Name)
  /-- An entry of a field list is neither a field nor a description of one. -/
  | badFieldEntry (side : Side) (given : Value)
  | unsupportedSchema (given : Value)
  | debounceNotInteger (given : Value)
  | debounceNegative (ms : Int)
  /-- A session cannot have a window of negative length. -/
  | windowNegative (ms : Value)
  | noKeyConfigured (provider : Provider) (model : Value)
  | noKeyFound (provider : Provider)
  | sessionFinished
  | rejected (r : Rejection)
  /-- The call to the model failed with a text of its own. -/
  | callFailed (text : String)
  /-- A map lacks an entry that is read without a default. -/
  | missingEntry
  /-- A value is of a kind that the operation does not take. -/
  | wrongKind
  /-- A value has no member of the name that is read. -/
  | missingMember
  /-- A number is beyond what its use can hold. -/
  | numberTooLarge
  /-- A text or a value cannot be read as what is asked for. -/
  | unreadable
  /-- A value stands where a type must stand. -/
  | notAType
  /-- A name that record types keep for themselves. -/
  | reservedName
  /-- A name that a member of every record type has already. -/
  | takenName
  /-- A row or a text lacks the item that is read. -/
  | missingItem
  /-- A text stands where a type must stand, and is no expression. -/
  | badExpression
  /-- A type is given by a name that nothing has. -/
  | undefinedType
  /-- A type cannot have a bound of the given value. -/
  | badBound
  /-- An address cannot be read. -/
  | badAddress
  /-- A schema names a type that does not exist. -/
  | unknownType
  | divisionByZero
  /-- One more item is asked for than there are. -/
  | exhausted
  /-- Calls nest too deep, or parts of a value that is to be written. -/
  | tooDeep
  /-- More items are asked for than a row is given. -/
  | tooManyItems
  /-- An encoding of texts has a name that is not known. -/
  | unknownEncoding
  /-- Bytes spell no text in an encoding. -/
  | unreadableBytes
  /-- A text has characters that an encoding lacks. -/
  | unwritableText
  /-- A value that an expression holds against a type does not fit it. -/
  | unfit (issues : List Issue)
  /-- Something of a kind has gone wrong that an expression names. -/
  | raised (kind : String)
deriving Inhabited

/-- A problem of a part of a value, seen from the value. -/
def Issue.within (step : Value) (i : Issue) : Issue := { i with loc := step :: i.loc }

/-- Writes a place in a value: its steps with points between them. -/
def Issue.path (loc : List Value) : String := ".".intercalate (loc.map Value.display)

/-- Writes one problem after its place, if it has one (`_describe`). -/
def Issue.describe (path msg : String) : String :=
  if path.isEmpty then msg else path ++ ": " ++ msg

/-- Writes a problem. -/
def Issue.text (i : Issue) : String := Issue.describe (Issue.path i.loc) i.msg

namespace Rejection

/-- The message of a rejection from the texts of its problems. -/
def headline (side : String) (field : Option Name) (problems : List String) : String :=
  let target := match field with
    | some f => if f.text.isEmpty then "map" else "field " ++ f.quoted
    | none => "map"
  let summary := "; ".intercalate (problems.take 5)
  "Validation failed for " ++ side ++ " " ++ target ++ ": "
    ++ (if summary.isEmpty then "value rejected" else summary)

/-- The message of a rejection. -/
def message (r : Rejection) : String :=
  headline r.side.name r.field (r.issues.map Issue.text)

end Rejection

/-- The wording of a failure, where it has one. -/
def Failure.message? : Failure → Option String
  | .badFieldName given => some ("Field name must be a non-empty string, got " ++ given.quoted)
  | .duplicateField side name =>
    some ("Duplicate field name in " ++ side.plural ++ ": " ++ name.quoted)
  | .badFieldEntry side given =>
    some (side.plural ++ " entries must be Field or dict, got " ++ given.kind)
  | .unsupportedSchema given =>
    some ("Unsupported schema of type " ++ given.kind
      ++ "; expected a pydantic model, a JSON Schema object or a field map")
  | .debounceNotInteger given =>
    some ("debounce_ms must be an integer, got " ++ given.quoted)
  | .debounceNegative ms => some ("debounce_ms must not be negative, got " ++ toString ms)
  | .windowNegative ms => some ("debounce_ms must not be negative, got " ++ ms.display)
  | .noKeyConfigured provider model =>
    some ("No API key for " ++ provider.name ++ " (model " ++ model.quoted
      ++ "); pass api_key or set " ++ provider.keyVariable)
  | .noKeyFound provider => some (provider.keyVariable ++ " not found in environment")
  | .sessionFinished => some "Cannot feed a finished stream"
  | .rejected r => some r.message
  | .callFailed text => some text
  | .missingEntry | .wrongKind | .missingMember | .numberTooLarge | .unreadable | .notAType
  | .reservedName | .takenName | .missingItem | .badExpression | .undefinedType | .badBound
  | .badAddress | .unknownType | .divisionByZero | .exhausted | .tooDeep | .tooManyItems
  | .unknownEncoding | .unreadableBytes | .unwritableText | .unfit _ | .raised _ => none

end PromptContract
