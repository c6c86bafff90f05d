import PromptContract.Value.Equality

/-!
# Token usage

Providers count the tokens of each reply. A client adds the counts up until it is told to start
over. A count is what the provider states, which may be any number; a sum is an integer unless one
of its parts is a floating-point number.
-/

namespace PromptContract

/-- A count of tokens as it is stated, or a sum of counts. -/
inductive Count
  | truth (b : Bool)
  | whole (n : Int)
  | real (x : Binary64)
deriving DecidableEq

namespace Count

/-- The value of a count. -/
def toValue : Count → Value
  | .truth b => .bool b
  | .whole n => .int n
  | .real x => .float x

/-- The sum of two numbers. -/
def sum : Value.Number → Value.Number → Count
  | .int m, .int n => .whole (m + n)
  | .int m, .float y => .real (Binary64.ofInt m + y)
  | .float x, .int n => .real (x + Binary64.ofInt n)
  | .float x, .float y => .real (x + y)

/-- The number that a count is. -/
def number : Count → Value.Number
  | .truth b => .int (boolInt b)
  | .whole n => .int n
  | .real x => .float x

/-- The sum of two counts. -/
def add (m n : Count) : Count := sum m.number n.number

instance : Add Count := ⟨add⟩
instance : Zero Count := ⟨.whole 0⟩

/-- Integers are added without rounding. -/
theorem whole_add_whole (m n : Int) : whole m + whole n = whole (m + n) := rfl

end Count

/-- Counts of tokens (`TokenUsage`). -/
structure Usage where
  prompt : Count
  completion : Count
  total : Count
deriving DecidableEq

namespace Usage

/-- No tokens. -/
def zero : Usage := ⟨0, 0, 0⟩

/-- Counts added field by field. -/
def add (u v : Usage) : Usage :=
  ⟨u.prompt + v.prompt, u.completion + v.completion, u.total + v.total⟩

instance : Add Usage := ⟨add⟩
instance : Zero Usage := ⟨zero⟩

/-- Usage of which the total is the sum of its parts. -/
def ofParts (prompt completion : Count) : Usage := ⟨prompt, completion, prompt + completion⟩

@[simp] theorem prompt_add (u v : Usage) : (u + v).prompt = u.prompt + v.prompt := rfl

@[simp] theorem completion_add (u v : Usage) :
    (u + v).completion = u.completion + v.completion := rfl

@[simp] theorem total_add (u v : Usage) : (u + v).total = u.total + v.total := rfl

end Usage

end PromptContract
