/-!
# The two sides of a contract

A contract has inputs, which the caller gives, and outputs, which the reply brings.
-/

namespace PromptContract

/-- A side of a contract. -/
inductive Side
  | input
  | output
deriving DecidableEq, Repr

namespace Side

/-- The name of a side in reports. -/
def name : Side → String
  | .input => "input"
  | .output => "output"

/-- The name of a side's fields. -/
def plural (s : Side) : String := s.name ++ "s"

end Side

end PromptContract
