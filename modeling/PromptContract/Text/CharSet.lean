/-!
# Sets of characters

A property of characters is given by the runs of code points that have it. Where capitals and small
letters take turns, a property of one of the two holds of every second character of a run.
-/

namespace PromptContract.Text

/-- A set of characters. -/
structure CharSet where
  /-- The first and the last code point of each run, in increasing order. -/
  runs : Array (Nat × Nat)
  /-- The same for the runs of which every second character is in the set, from the first on. -/
  alternating : Array (Nat × Nat) := #[]

/-- Whether a character is in a set. -/
def CharSet.contains (s : CharSet) (c : Char) : Bool :=
  let n := c.toNat
  s.runs.any (fun run => run.1 ≤ n && n ≤ run.2)
    || s.alternating.any fun run => run.1 ≤ n && n ≤ run.2 && (n - run.1) % 2 == 0

end PromptContract.Text
