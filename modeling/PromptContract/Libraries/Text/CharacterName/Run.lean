/-!
# Runs of names

Most characters have a name in capitals, whose words are parted by spaces and hyphens. The names of
characters that follow each other often start with the same words, so a run of names is written as
one text: each name is led by a small letter that says how many words it takes over from the name
before it, and goes on with its own (`NameRun.names`).
-/

namespace PromptContract.Text

/-- The names of characters that follow each other. -/
structure NameRun where
  /-- The code point of the first of them. -/
  first : Nat
  /-- The names, in parts that belong together. -/
  written : List String

/-- The words of a name, each with the space or hyphen that stands in front of it. -/
def wordsOfName (name : List Char) : List (List Char) :=
  name.splitBy fun _ c => c != ' ' && c != '-'

/-- The names of a run behind a name, from their written forms. -/
def namesBehind (before : List (List Char)) : List (List Char) → List (List (List Char))
  | [] => []
  | [] :: rest => namesBehind before rest
  | (c :: own) :: rest =>
    let name := before.take (c.toNat - 'a'.toNat) ++ wordsOfName own
    name :: namesBehind name rest

/-- The names of a run, in words. -/
def NameRun.names (r : NameRun) : List (List (List Char)) :=
  namesBehind [] ((String.join r.written).toList.splitBy fun _ c => !c.isLower)

/-- The character of a run with a name in words. -/
def NameRun.find? (r : NameRun) (name : List (List Char)) : Option Char :=
  (r.names.findIdx? (· == name)).map fun i => Char.ofNat (r.first + i)

end PromptContract.Text
