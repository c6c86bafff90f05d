import PromptContract.Libraries.Evaluation.Filling
import PromptContract.Libraries.Evaluation.Row
import PromptContract.Libraries.Text.Category

/-!
# What texts offer

The members of a text that can be called: they change the case of its letters, cut it, look for
parts of it, fill it up, and say what kind of characters it has. A member that is not listed here
gives an object of which nothing is known.
-/

namespace PromptContract.TextMember

open Text

/-- The arguments for parameters with given names, by place or by name. -/
def bind (names : List String) (placed : List Value) (named : List (String × Value)) :
    Except Failure (List (Option Value)) :=
  if names.length < placed.length then .error .wrongKind
  else if named.any fun n => !(names.drop placed.length).contains n.1 then .error .wrongKind
  else
    .ok (names.zipIdx.map fun (name, i) => (placed[i]?).or (named.lookup name))

/-- A text that must be one. -/
def textOf (v : Value) : Except Failure (List Char) :=
  match v.comparedText? with
  | some s => .ok s.toList
  | none => .error .wrongKind

/-- An integer that must be one, or another one where none is given. -/
def indexOf (v : Option Value) (otherwise : Int) : Except Failure Int :=
  match v with
  | none => .ok otherwise
  | some v =>
    match v.index? with
    | some n => .ok n
    | none => .error .wrongKind

/-- An integer that must be one and may be a number of places, or another one where none is
given. -/
def placeOf (v : Option Value) (otherwise : Int) : Except Failure Int := do
  Value.toPlace (← indexOf v otherwise)

/-- Whether an integer that is given says yes, which it does unless it is zero. -/
def flagOf (v : Option Value) : Except Failure Bool := do
  let n ← indexOf v 0
  if n.bmod (Nat.pow 2 32) = n then return n != 0 else throw .numberTooLarge

/-- A row of characters as a value. -/
def ofChars (cs : List Char) : Value := .text (String.ofList cs)

/-! ## Parts of texts -/

/-- The place of the first occurrence of a part in a text. -/
def placeIn? (part : List Char) : List Char → Option Nat
  | [] => if part.isEmpty then some 0 else none
  | c :: cs =>
    if part.isPrefixOf (c :: cs) then some 0 else (placeIn? part cs).map (· + 1)

/-- The place of the last occurrence of a part in a text. -/
def lastPlaceIn? (part cs : List Char) : Option Nat :=
  (placeIn? part.reverse cs.reverse).map fun i => cs.length - part.length - i

/-- The parts of a text between the occurrences of another that is not empty, at most as many cuts
as a limit. -/
def cutAt (mark : List Char) : Nat → List Char → List (List Char)
  | 0, cs => [cs]
  | limit + 1, cs =>
    match placeIn? mark cs with
    | none => [cs]
    | some i => cs.take i :: cutAt mark limit (cs.drop (i + mark.length))

/-- The words of a text between its blanks, at most as many cuts as a limit. -/
def wordsOf : Nat → List Char → List (List Char)
  | 0, cs => if cs.all isBlank then [] else [cs.dropWhile isBlank]
  | limit + 1, cs =>
    match cs.dropWhile isBlank with
    | [] => []
    | rest => rest.takeWhile (!isBlank ·) :: wordsOf limit (rest.dropWhile (!isBlank ·))

/-- The greatest number of cuts of a text. -/
def cutLimit (limit : Int) (cs : List Char) : Nat :=
  if limit < 0 then cs.length + 1 else limit.toNat

/-- Cuts a text, from the front or from the end. -/
def split (fromEnd : Bool) (cs : List Char) (mark : Option Value) (limit : Int) :
    Except Failure Value := do
  let limit := cutLimit limit cs
  let turned (cs : List Char) := if fromEnd then cs.reverse else cs
  let parts ← match mark.bind Value.present? with
    | none => pure (wordsOf limit (turned cs))
    | some mark =>
      let mark ← textOf mark
      if mark.isEmpty then throw .unreadable
      pure (cutAt (turned mark) limit (turned cs))
  return .list ((if fromEnd then parts.reverse else parts).map fun part => ofChars (turned part))

/-- The characters that end lines. -/
def lineEnds : List Char := "\n\x0b\x0c\r\x1c\x1d\x1e\u0085\u2028\u2029".toList

/-- The lines of a text that some characters end, with their ends or without. -/
def linesOf (ends : List Char) (keepEnds : Bool) : List Char → List Char → List (List Char)
  | line, [] => if line.isEmpty then [] else [line.reverse]
  | line, '\r' :: '\n' :: cs =>
    (if keepEnds then '\n' :: '\r' :: line else line).reverse :: linesOf ends keepEnds [] cs
  | line, c :: cs =>
    if ends.contains c then
      (if keepEnds then c :: line else line).reverse :: linesOf ends keepEnds [] cs
    else linesOf ends keepEnds (c :: line) cs

/-- A text with spaces in the place of each tab, up to the next column that is a multiple of a
size. -/
def expanded (size : Nat) (column : Nat) : List Char → List Char
  | [] => []
  | '\t' :: cs =>
    let n := if size = 0 then 0 else size - column % size
    List.replicate n ' ' ++ expanded size (column + n) cs
  | c :: cs => c :: expanded size (if c == '\n' || c == '\r' then 0 else column + 1) cs

/-- A text with some occurrences of a part replaced. -/
def replaced (part by' cs : List Char) (limit : Nat) : List Char :=
  if part.isEmpty then
    let front := cs.take limit
    let behind := cs.drop limit
    let spread := front.flatMap fun c => by' ++ [c]
    if cs.length < limit then spread ++ by' else spread ++ behind
  else List.intercalate by' (cutAt part limit cs)

/-- The same, where the text must not grow too long. -/
def replacedIn (cs part by' : List Char) (limit : Int) : Except Failure Value := do
  let _ ← Value.itemCount ((cs.length + 1) * by'.length / max part.length 1)
  return ofChars (replaced part by' cs (cutLimit limit cs))

/-- A text in three parts: in front of a mark, the mark, and behind it. -/
def partition (fromEnd : Bool) (cs mark : List Char) : Except Failure Value :=
  if mark.isEmpty then .error .unreadable
  else
    let parts := match (if fromEnd then lastPlaceIn? mark cs else placeIn? mark cs) with
      | some i => [cs.take i, mark, cs.drop (i + mark.length)]
      | none => if fromEnd then [[], [], cs] else [cs, [], []]
    .ok (.tuple (parts.map ofChars))

/-- A place in a text, or behind it, that may be counted from the end. -/
def countedPlace (length : Nat) (n : Int) : Nat := (if n < 0 then n + length else n).toNat

/-- The part of a text between at most two places that some arguments give, and where it starts;
nothing where the second place is in front of the first. -/
def window? (cs : List Char) (places : List Value) : Except Failure (Option (Nat × List Char)) := do
  if 2 < places.length then throw .wrongKind
  let start ← Slice.end? (places.getD 0 .null)
  let stop ← Slice.end? (places.getD 1 .null)
  let first := (start.map (countedPlace cs.length)).getD 0
  let last := min cs.length ((stop.map (countedPlace cs.length)).getD cs.length)
  return if first ≤ last then some (first, (cs.take last).drop first) else none

/-- The place of a part in a text, from the front or from the end. -/
def find? (fromEnd : Bool) (cs : List Char) (part : Value) (places : List Value) :
    Except Failure (Option Nat) := do
  let part ← textOf part
  return (← window? cs places).bind fun (first, inner) =>
    (if fromEnd then lastPlaceIn? part inner else placeIn? part inner).map (first + ·)

/-- How often a part occurs in a text. -/
def occurrences (part cs : List Char) : Nat :=
  if part.isEmpty then cs.length + 1 else (cutAt part (cs.length + 1) cs).length - 1

/-- Whether a text starts or ends with one of some texts, between two places. -/
def meets (atEnd : Bool) (cs : List Char) (options : Value) (places : List Value) :
    Except Failure Value := do
  let inner ← window? cs places
  let one (v : Value) : Except Failure Bool := do
    let part ← textOf v
    return inner.any fun (_, cs) => if atEnd then part.isSuffixOf cs else part.isPrefixOf cs
  match options with
  | .tuple vs => return .bool (← vs.anyM one)
  | v => return .bool (← one v)

/-! ## Characters -/

/-- Whether a text has a character and all have a property. -/
def every (p : Char → Bool) (cs : List Char) : Value := .bool (!cs.isEmpty && cs.all p)

/-- A text in the middle or at an end of a width. -/
def filledUp (alignment : Alignment) (cs : List Char) (width : Value) (fill : Option Value) :
    Except Failure Value := do
  let width ← placeOf (some width) 0
  let fill ← match fill with
    | none => pure ' '
    | some v =>
      match ← textOf v with
      | [c] => pure c
      | _ => throw .wrongKind
  let missing ← Value.itemCount (width - cs.length).toNat
  let row (n : Nat) := List.replicate n fill
  -- Of an odd number of signs one more stands in front where the width is odd.
  let front := missing / 2 + (if missing % 2 == 1 && width % 2 == 1 then 1 else 0)
  return ofChars (match alignment with
    | .left => cs ++ row missing
    | .right => row missing ++ cs
    | _ => row front ++ cs ++ row (missing - front))

/-- A number with zeros in front, behind its sign. -/
def zeroFilled (cs : List Char) (width : Value) : Except Failure Value := do
  let width ← placeOf (some width) 0
  let zeros := List.replicate (← Value.itemCount (width - cs.length).toNat) '0'
  return ofChars (match cs with
    | c :: rest => if c == '-' || c == '+' then c :: zeros ++ rest else zeros ++ cs
    | [] => zeros)

/-! ## Encodings and tables -/

/-- The encoding and the handling that two values name; no encoding where it is not followed up. -/
def codeOf (encoding errors : Option Value) :
    Except Failure (Option Encoding × Option Handling) := do
  let name ← match encoding with
    | none => pure "utf-8"
    | some v => pure (String.ofList (← textOf v))
  let handling ← match errors with
    | none => pure none
    | some v => pure (Handling.ofName? (String.ofList (← textOf v)))
  match Encoding.ofName? name with
  | some e => return (some e, handling)
  | none => if Encoding.isOther name then return (none, handling) else throw .unknownEncoding

/-- The bytes of a text in an encoding; nothing where it is not followed up. -/
def encoded (cs : List Char) (encoding errors : Option Value) : Except Failure (Option Value) := do
  match ← codeOf encoding errors with
  | (none, _) => return none
  | (some e, handling) =>
    match e.encode handling cs with
    | some bs => return some (.object (.bytes bs))
    | none => throw .unwritableText

/-- The text of bytes in an encoding; nothing where it is not followed up. -/
def decoded (bs : List Nat) (encoding errors : Option Value) : Except Failure (Option Value) := do
  match ← codeOf encoding errors with
  | (none, _) => return none
  | (some e, handling) =>
    match e.decode handling bs with
    | some cs => return some (ofChars cs)
    | none => throw .unreadableBytes

/-- What a table has for a character, which stays where the table has nothing. -/
def translated (table : Value) (c : Char) : Except Failure (List Char) :=
  match table.item (.int c.toNat) with
  | .error .missingEntry | .error .missingItem => .ok [c]
  | .error e => .error e
  | .ok .null => .ok []
  | .ok (.int n) =>
    if n < 0 || 0x110000 ≤ n then .error .unreadable else .ok [Char.ofNat n.toNat]
  | .ok v => textOf v

/-- The key of a table for a value that stands for a character. -/
def tableKey (v : Value) : Except Failure Value :=
  match v, v.comparedText?.map String.toList with
  | .int n, _ => .ok (.int n)
  | .bool b, _ => .ok (.bool b)
  | _, some [c] => .ok (.int c.toNat)
  | _, some _ => .error .unreadable
  | _, none => .error .wrongKind

/-- The table that a map or two rows of characters say, with the characters that it leaves out. -/
def translation (placed : List Value) : Except Failure Value := do
  let pairs (front behind : List Char) : List (Value × Value) :=
    (front.zip behind).map fun (c, d) => (.int c.toNat, .int d.toNat)
  match placed with
  | [.map es] => return .map (Entries.ofPairs (← es.mapM fun (k, v) => return (← tableKey k, v)))
  | front :: behind :: more =>
    let front ← textOf front
    let behind ← textOf behind
    if front.length != behind.length then throw .unreadable
    let gone ← match more with
      | [] => pure []
      | [v] => textOf v
      | _ => throw .wrongKind
    return .map (Entries.ofPairs
      (pairs front behind ++ gone.map fun c => (.int c.toNat, .null)))
  | _ => throw .wrongKind

/-! ## Members -/

/-- A text without some characters at its ends. -/
def stripped (front back : Bool) (cs : List Char) (characters : Option Value) :
    Except Failure Value := do
  let p ← match characters.bind Value.present? with
    | none => pure isBlank
    | some v =>
      let some' ← textOf v
      pure some'.contains
  let cs := if front then cs.dropWhile p else cs
  return ofChars (if back then dropEndWhile p cs else cs)

/-- The members that need no arguments. -/
def plainMembers : List (String × (List Char → Value)) :=
  [("lower", fun cs => ofChars (lower cs)), ("upper", fun cs => ofChars (upper cs)),
    ("casefold", fun cs => ofChars (fold cs)), ("capitalize", fun cs => ofChars (capitalized cs)),
    ("title", fun cs => ofChars (titled cs)), ("swapcase", fun cs => ofChars (swapped cs)),
    ("isalpha", every isLetter), ("isdigit", every isDigit), ("isdecimal", every isDecimal),
    ("isnumeric", every isNumeral), ("isalnum", every fun c => isLetter c || isNumeral c),
    ("isspace", every isBlank), ("islower", fun cs => .bool (isAllSmall cs)),
    ("isupper", fun cs => .bool (isAllCapital cs)), ("istitle", fun cs => .bool (isTitled cs)),
    ("isascii", fun cs => .bool (isAscii cs)),
    ("isprintable", fun cs => .bool (cs.all isPrintable)),
    ("isidentifier", fun cs => .bool (isIdentifier cs))]

/-- What a member of a text gives for arguments; nothing where it is not followed up. -/
def call? (name : String) (cs : List Char) (placed : List Value) (named : List (String × Value)) :
    Except Failure (Option Value) := do
  let give (v : Except Failure Value) : Except Failure (Option Value) := do return some (← v)
  let noNames (v : Except Failure Value) : Except Failure (Option Value) :=
    if named.isEmpty then give v else throw .wrongKind
  match plainMembers.lookup name with
  | some f => if placed.isEmpty then noNames (.ok (f cs)) else throw .wrongKind
  | none =>
    match name, placed with
    | "strip", [] => noNames (stripped true true cs none)
    | "strip", [v] => noNames (stripped true true cs (some v))
    | "lstrip", [] => noNames (stripped true false cs none)
    | "lstrip", [v] => noNames (stripped true false cs (some v))
    | "rstrip", [] => noNames (stripped false true cs none)
    | "rstrip", [v] => noNames (stripped false true cs (some v))
    | "split", placed =>
      match ← bind ["sep", "maxsplit"] placed named with
      | [mark, limit] => give (do split false cs mark (← placeOf limit (-1)))
      | _ => throw .wrongKind
    | "rsplit", placed =>
      match ← bind ["sep", "maxsplit"] placed named with
      | [mark, limit] => give (do split true cs mark (← placeOf limit (-1)))
      | _ => throw .wrongKind
    | "splitlines", placed =>
      match ← bind ["keepends"] placed named with
      | [keep] =>
        let lines := linesOf lineEnds (← flagOf keep) [] cs
        return some (.list (lines.map ofChars))
      | _ => throw .wrongKind
    | "replace", [part, by'] => noNames do replacedIn cs (← textOf part) (← textOf by') (-1)
    | "replace", [part, by', limit] => noNames do
      replacedIn cs (← textOf part) (← textOf by') (← placeOf (some limit) 0)
    | "partition", [mark] => noNames (do partition false cs (← textOf mark))
    | "rpartition", [mark] => noNames (do partition true cs (← textOf mark))
    | "removeprefix", [part] => noNames do
      let part ← textOf part
      return ofChars (if part.isPrefixOf cs then cs.drop part.length else cs)
    | "removesuffix", [part] => noNames do
      let part ← textOf part
      let isEnd := !part.isEmpty && part.isSuffixOf cs
      return ofChars (if isEnd then cs.take (cs.length - part.length) else cs)
    | "startswith", v :: places => noNames (meets false cs v places)
    | "endswith", v :: places => noNames (meets true cs v places)
    | "find", part :: places => noNames do
      return .int (((← find? false cs part places).map Int.ofNat).getD (-1))
    | "rfind", part :: places => noNames do
      return .int (((← find? true cs part places).map Int.ofNat).getD (-1))
    | "index", part :: places => noNames do
      match ← find? false cs part places with
      | some i => return .int i
      | none => throw .unreadable
    | "rindex", part :: places => noNames do
      match ← find? true cs part places with
      | some i => return .int i
      | none => throw .unreadable
    | "count", part :: places => noNames do
      let part ← textOf part
      return .int (((← window? cs places).map fun w => occurrences part w.2).getD 0)
    | "zfill", [width] => noNames (zeroFilled cs width)
    | "ljust", [width] => noNames (filledUp .left cs width none)
    | "ljust", [width, fill] => noNames (filledUp .left cs width (some fill))
    | "rjust", [width] => noNames (filledUp .right cs width none)
    | "rjust", [width, fill] => noNames (filledUp .right cs width (some fill))
    | "center", [width] => noNames (filledUp .center cs width none)
    | "center", [width, fill] => noNames (filledUp .center cs width (some fill))
    | "expandtabs", placed =>
      match ← bind ["tabsize"] placed named with
      | [size] => do
        let size ← indexOf size 8
        if size.natAbs < Nat.pow 2 31 then
          let _ ← Value.itemCount (size.toNat * cs.count '\t')
          return some (ofChars (expanded size.toNat 0 cs))
        else throw .numberTooLarge
      | _ => throw .wrongKind
    | "encode", placed =>
      match ← bind ["encoding", "errors"] placed named with
      | [encoding, errors] => encoded cs encoding errors
      | _ => throw .wrongKind
    | "translate", [table] => noNames do
      return ofChars (← cs.mapM (translated table)).flatten
    | "maketrans", placed => noNames (translation placed)
    | name, _ =>
      if name == "format" || name == "join" || name == "format_map" then return none
      else throw .wrongKind

end PromptContract.TextMember
