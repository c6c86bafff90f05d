import PromptContract.Text.Blank

/-!
# Markers

A marker names the field whose text follows it: two brackets and two hash signs, the name, and the
same backwards, with spaces and tabs allowed between the parts, all on one line. Where the closing
half is missing from the line, the opening half alone is a marker without a name.

`Marker.scan` goes through a text from left to right (as `MarkerScanner` does) and records the
markers, of which no two overlap. A name ends at the first closing half behind the opening one,
whatever stands between.
-/

namespace PromptContract.Reply

/-- A marker in a text: the places of its first character and behind its last, its name if it has
one, and whether it stands at the start of a line. -/
structure Marker where
  start : Nat
  stop : Nat
  name : Option (List Char)
  lineStart : Bool
deriving DecidableEq, Repr

namespace Marker

/-- The text behind the padding at its front. -/
def skipPad (cs : List Char) : List Char := cs.dropWhile Text.isPad

/-- The text behind an opening half at the front, if there is one. -/
def afterOpener? : List Char → Option (List Char)
  | '[' :: '[' :: rest =>
    match skipPad rest with
    | '#' :: '#' :: rest => some rest
    | _ => none
  | _ => none

/-- The text behind a closing half at the front, if there is one. -/
def afterCloser? : List Char → Option (List Char)
  | '#' :: '#' :: rest =>
    match skipPad rest with
    | ']' :: ']' :: rest => some rest
    | _ => none
  | _ => none

/-- The text up to the first closing half of the line, and the text behind that half. -/
def untilCloser? : List Char → Option (List Char × List Char)
  | [] => none
  | c :: cs =>
    match afterCloser? (c :: cs) with
    | some rest => some ([], rest)
    | none =>
      if c = '\n' then none
      else (untilCloser? cs).map fun (inner, rest) => (c :: inner, rest)

/-- The marker at the front of a text, if there is one (`_MARKER_RE`): how long it is, and its name.
-/
def atFront? (cs : List Char) : Option (Nat × Option (List Char)) := do
  let rest ← afterOpener? cs
  match untilCloser? rest with
  | some (inner, rest) => some (cs.length - rest.length, some (Text.trimBy Text.isPad inner))
  | none => some (cs.length - rest.length, none)

/-- The markers of a text whose first character has the place `pos`. The first `skip` characters
belong to an earlier marker, and `lineStart` says whether a line starts here. -/
def scanFrom (pos skip : Nat) (lineStart : Bool) : List Char → List Marker
  | [] => []
  | c :: cs =>
    match skip with
    | skip + 1 => scanFrom (pos + 1) skip (c == '\n') cs
    | 0 =>
      match atFront? (c :: cs) with
      | some (length, name) =>
        ⟨pos, pos + length, name, lineStart⟩ :: scanFrom (pos + 1) (length - 1) (c == '\n') cs
      | none => scanFrom (pos + 1) 0 (c == '\n') cs

/-- The markers of a text. -/
def scan (cs : List Char) : List Marker := scanFrom 0 0 true cs

end Marker

end PromptContract.Reply
