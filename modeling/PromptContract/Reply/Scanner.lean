import PromptContract.Reply.Marker

/-!
# Scanning a growing reply

A reply arrives in pieces. `Scanner` keeps the text so far with its markers, and `Scanner.feed` adds
a piece by looking again at the last line only: a marker never spans lines, so only there can one
still be incomplete. `Scanner.values` gives the text of fields by name. A field's text starts on the
line behind its marker and ends at the next marker line, which is a line that opens with a marker,
named or not. Of several markers of a name the first at the start of a line counts, and one in the
middle of a line only where no line starts with one.
-/

namespace PromptContract.Reply

/-- A text with its markers (`MarkerScanner`). `resume` is the start of its last line. -/
structure Scanner where
  text : List Char
  markers : List Marker
  resume : Nat
deriving DecidableEq, Repr

namespace Scanner

/-- The scanner of the empty text. -/
def empty : Scanner := ⟨[], [], 0⟩

/-- The place behind the last line break of a text. -/
def lastLineStart (cs : List Char) : Nat :=
  cs.length - (cs.reverse.takeWhile (· != '\n')).length

/-- Adds a piece of text (`MarkerScanner.feed`). -/
def feed (s : Scanner) (piece : List Char) : Scanner :=
  if piece.isEmpty then s
  else
    let text := s.text ++ piece
    { text
      markers := s.markers.filter (·.start < s.resume)
        ++ Marker.scanFrom s.resume 0 true (text.drop s.resume)
      resume := lastLineStart text }

@[simp] theorem feed_nil (s : Scanner) : s.feed [] = s := rfl

/-- A piece is put behind the text. -/
theorem text_feed (s : Scanner) (piece : List Char) : (s.feed piece).text = s.text ++ piece := by
  cases piece with
  | nil => simp
  | cons c cs => rfl

/-- The scanner of a text. -/
def ofText (cs : List Char) : Scanner := empty.feed cs

/-- The scanner of a text holds the text. -/
theorem text_ofText (cs : List Char) : (ofText cs).text = cs := text_feed empty cs

/-- Whether a line that has no end yet may still become one that opens with a marker
(`_PARTIAL_OPENER_RE`): it is a proper first part of one, blanks in front allowed. -/
def mayBecomeOpener (line : List Char) : Bool :=
  match Marker.skipPad line with
  | '[' :: rest =>
    match rest with
    | [] => true
    | '[' :: rest =>
      match Marker.skipPad rest with
      | [] | ['#'] => true
      | _ => false
    | _ => false
  | _ => false

/-- The marker that counts for a name. -/
def markerOf? (s : Scanner) (name : List Char) : Option Marker :=
  (s.markers.find? fun m => m.name == some name && m.lineStart).or
    (s.markers.find? fun m => m.name == some name)

/-- The places where a field's text ends: the starts of the marker lines. With `hold` the last line
is one too as long as it may become one. -/
def boundaries (s : Scanner) (hold : Bool) : List Nat :=
  (s.markers.filter (·.lineStart)).map (·.start)
    ++ (if hold && mayBecomeOpener (s.text.drop s.resume) then [s.resume] else [])

/-- The characters that may follow a marker on its line. -/
def isLineRest (c : Char) : Bool := c == ' ' || c == '\t' || c == '\r'

/-- The text of the field of a marker (`_value_after`): nothing as long as the marker's line has no
end or holds more than the marker, else the lines up to the next boundary, without surrounding
blanks. -/
def valueAfter (s : Scanner) (bounds : List Nat) (m : Marker) : Option (List Char) :=
  let behind := s.text.drop m.stop
  match behind.dropWhile isLineRest with
  | '\n' :: rest =>
    let first := s.text.length - rest.length
    let stop := (bounds.find? (m.start < ·)).getD s.text.length
    some (Text.trim ((s.text.take stop).drop first))
  | _ => none

/-- The text of the field of a name, if it has arrived (`raw_values`). With `hold` a last line that
may become a marker line is kept back. -/
def value? (s : Scanner) (hold : Bool) (name : List Char) : Option (List Char) :=
  (s.markerOf? name).bind (s.valueAfter (s.boundaries hold))

end Scanner

end PromptContract.Reply
