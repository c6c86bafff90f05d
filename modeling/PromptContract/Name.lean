import PromptContract.FieldType
import PromptContract.Text.Quoted

/-!
# Names

A name is a text. A field type may be given in its place: it counts as the text that names the type
wherever names are compared or looked up, and is shown in forms of its own (`Name.display`,
`Name.quoted`).
-/

namespace PromptContract

/-- A name, given by a text or by a field type. -/
inductive Name
  | given (s : String)
  | ofType (t : FieldType)
deriving DecidableEq, Repr, Inhabited

namespace Name

/-- The text that a name counts as. -/
def text : Name → String
  | .given s => s
  | .ofType t => t.name

/-- What a prompt shows for a name. -/
def display : Name → String
  | .given s => s
  | .ofType t => t.display

/-- The written form of a name, from which its kind can be seen. -/
def quoted : Name → String
  | .given s => Text.quote s
  | .ofType t => t.quoted

@[simp] theorem text_given (s : String) : (given s).text = s := rfl

@[simp] theorem display_given (s : String) : (given s).display = s := rfl

end Name

end PromptContract
