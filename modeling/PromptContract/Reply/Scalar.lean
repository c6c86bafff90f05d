import PromptContract.Number.Numeral
import PromptContract.Text.Case
import PromptContract.Value.Equality

/-!
# Reading the text of a field as its type

`Scalar.read?` turns the text of a field into a value of the field's type (`coerce_value`). A number
that cannot be read keeps its text, which the caller may want to see; a truth value is true exactly
for the word itself, in any case, and false for all other texts. The one failure is an integer of
more digits than may be read.
-/

namespace PromptContract.Reply

/-- A value that a field of a reply can have. -/
inductive Scalar
  | text (s : List Char)
  | int (n : Int)
  | float (x : Binary64)
  | bool (b : Bool)
deriving DecidableEq

/-- What became of the text of a field. -/
structure Reading where
  value : Scalar
  /-- The text is no number of the field's type, and stands for itself. -/
  fellBack : Bool
deriving DecidableEq

namespace Scalar

/-- The value of a scalar. -/
def toValue : Scalar → Value
  | .text s => .text (String.ofList s)
  | .int n => .int n
  | .float x => .float x
  | .bool b => .bool b

/-- Whether two scalars are no change of one another: equal values, or twice the value that is no
number. -/
def unchanged : Scalar → Scalar → Bool
  | .float .nan, .float .nan => true
  | a, b => a.toValue.same b.toValue

/-- Reads the text of a field as a type; nothing where an integer is too long to be read. -/
def read? (type : FieldType) (raw : List Char) : Option Reading :=
  match type with
  | .str => some ⟨.text raw, false⟩
  | .bool => some ⟨.bool (Text.lower raw == "true".toList), false⟩
  | .int =>
    match Numeral.integer raw with
    | .value n => some ⟨.int n, false⟩
    | .notInteger => some ⟨.text raw, true⟩
    | .tooLong => none
  | .float =>
    -- Underscores and digits of other scripts belong to loosely written numbers only.
    if raw.contains '_' || !Text.isAscii raw then some ⟨.text raw, true⟩
    else
      match Numeral.float? raw with
      | some x => some ⟨.float x, false⟩
      | none => some ⟨.text raw, true⟩

end Scalar

end PromptContract.Reply
