import PromptContract.Value.Basic

/-!
# Messages

A request carries messages, each with a role and a text. The roles with a meaning are those of the
system, the user and the assistant.
-/

namespace PromptContract

/-- One message (`LLMMessage`). -/
structure Message where
  role : String
  content : String
deriving DecidableEq, Repr

namespace Message

/-- A message as a map of role and content. -/
def toValue (m : Message) : Value :=
  .map [(.text "role", .text m.role), (.text "content", .text m.content)]

/-- A message of the user. -/
def user (content : String) : Message := ⟨"user", content⟩

end Message

end PromptContract
