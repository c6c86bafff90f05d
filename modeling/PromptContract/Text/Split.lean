/-!
# The parts of a text

A text is cut at the characters of a class, which fall away (`splitOn`). There is always one part
more than there are cuts, and none holds a character of the class.
-/

namespace PromptContract.Text

/-- Puts a character in front of the first part, or a cut in front of all. -/
def splitStep (p : Char → Bool) (c : Char) : List (List Char) → List (List Char)
  | part :: parts => if p c then [] :: part :: parts else (c :: part) :: parts
  | [] => [[c]]

/-- The parts of a text between the characters that satisfy `p`. -/
def splitOn (p : Char → Bool) (cs : List Char) : List (List Char) :=
  cs.foldr (splitStep p) [[]]

/-- The parts of a text between its blanks and ends of lines. -/
def words (cs : List Char) : List (List Char) :=
  (splitOn (fun c => c == ' ' || c == '\n') cs).filter (!·.isEmpty)

end PromptContract.Text
