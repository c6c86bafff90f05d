import PromptContract.Libraries.Expression.Token
import PromptContract.Libraries.Text.CharacterName

/-!
# What stands between quotes

Between quotes a backslash leads a sequence that stands for one character (`Quotation.decoded?`). A
formatted text also holds fields in braces: an expression, perhaps with a sign for how its value is
written and with a layout, which is formatted in turn. `Quotation.pieces?` cuts such a text into
plain texts and fields; the expressions are left as they are written.
-/

namespace PromptContract.Quotation

/-- The sequences of a backslash and a letter, with the characters that they stand for. -/
def letters : List (Char × Char) :=
  [('\\', '\\'), ('\'', '\''), ('"', '"'), ('a', '\x07'), ('b', '\x08'), ('f', '\x0c'),
    ('n', '\n'), ('r', '\r'), ('t', '\t'), ('v', '\x0b')]

/-- The value of a hexadecimal digit. -/
def hexDigit? (c : Char) : Option Nat :=
  "0123456789abcdef".toList.findIdx? (· == c.toLower)

/-- The number that a row of hexadecimal digits stands for. -/
def hexValue? (cs : List Char) : Option Nat :=
  cs.foldlM (fun n c => (hexDigit? c).map (16 * n + ·)) 0

/-- The letters that lead the number of a character, with how many digits it has. -/
def numberedLetters (isBytes : Bool) : List (Char × Nat) :=
  if isBytes then [('x', 2)] else [('x', 2), ('u', 4), ('U', 8)]

/-- Whether a character is a digit of a number to the base of eight. -/
def isOctal (c : Char) : Bool := '0' ≤ c && c ≤ '7'

/-- The character whose name stands in braces at the front of a text, and the text behind it. -/
def namedCharacter? : List Char → Option (Char × List Char)
  | '\x7b' :: cs =>
    let name := cs.takeWhile (· != '\x7d')
    match cs.drop name.length with
    | [] => none
    | _ :: rest => (Text.named? name).map (·, rest)
  | _ => none

/-- The sequence at the front of a text behind a backslash: the numbers of the characters that it
stands for, and the text behind it. A sequence of another kind stands for itself. -/
def sequence? (isBytes : Bool) (cs : List Char) : Option (List Nat × List Char) :=
  match cs with
  | [] => some (['\\'.toNat], [])
  | c :: rest =>
    match letters.lookup c, (numberedLetters isBytes).lookup c with
    | some d, _ => some ([d.toNat], rest)
    | _, some width =>
      if rest.length < width then none
      else (hexValue? (rest.take width)).map fun n => ([n], rest.drop width)
    | _, _ =>
      if c == '\n' then some ([], rest)
      else if isOctal c then
        let digits := (cs.take 3).takeWhile isOctal
        some ([digits.foldl (fun n d => 8 * n + (d.toNat - '0'.toNat)) 0], cs.drop digits.length)
      else if c == 'N' && !isBytes then
        (namedCharacter? rest).map fun (d, behind) => ([d.toNat], behind)
      else some (['\\'.toNat, c.toNat], rest)

/-- The numbers of the characters that a text between quotes stands for. -/
def decodedNumbers? (isBytes : Bool) (cs : List Char) : Option (List Nat) :=
  match cs with
  | [] => some []
  | '\\' :: cs =>
    match sequence? isBytes cs with
    | none => none
    | some (found, rest) =>
      if _ : rest.length ≤ cs.length then (decodedNumbers? isBytes rest).map (found ++ ·) else none
  | c :: cs => (decodedNumbers? isBytes cs).map (c.toNat :: ·)
termination_by cs.length
decreasing_by
  · exact Nat.lt_succ_of_le ‹_›
  · exact Nat.lt_succ_self _

/-- The text that stands between quotes. -/
def decoded? (isRaw : Bool) (cs : List Char) : Option (List Char) :=
  if isRaw then some cs
  else do
    (← decodedNumbers? false cs).mapM fun n => if n.isValidChar then some (Char.ofNat n) else none

/-- The bytes that stand between quotes, where only ASCII may stand. -/
def decodedBytes? (isRaw : Bool) (cs : List Char) : Option (List Nat) :=
  if !Text.isAscii cs then none
  else if isRaw then some (cs.map Char.toNat)
  else (decodedNumbers? true cs).map fun ns => ns.map (· % 256)

/-! ## Formatted texts -/

/-- A piece of a formatted text. -/
inductive Piece
  | text (s : List Char)
  /-- A field: its expression as it is written, and perhaps how its value is written and its
  layout. -/
  | field (source : List Char) (conversion : Option Conversion) (layout : Option (List Piece))

/-- The first part of a split text with something more in front of it. -/
def ledBy (front : List Char) (split : Option (List Char × List Char)) :
    Option (List Char × List Char) :=
  split.map fun (text, rest) => (front ++ text, rest)

/-- What stands in front of the next field, and what follows. Two braces stand for one, except in a
layout, which ends with a brace; the braces around the name of a character do not count. -/
def spanText? (isRaw isLayout isInName : Bool) : List Char → Option (List Char × List Char)
  | [] => some ([], [])
  | c :: cs =>
    if isInName then ledBy [c] (spanText? isRaw isLayout (c != '\x7d') cs)
    else if c == '\\' then
      match cs with
      | 'N' :: '\x7b' :: behind =>
        if isRaw then ledBy [c, 'N'] (spanText? isRaw isLayout false ('\x7b' :: behind))
        else ledBy [c, 'N', '\x7b'] (spanText? isRaw isLayout true behind)
      | d :: behind =>
        if isRaw || d == '\x7b' || d == '\x7d' then
          ledBy [c] (spanText? isRaw isLayout false (d :: behind))
        else ledBy [c, d] (spanText? isRaw isLayout false behind)
      | [] => some ([c], [])
    else if c == '\x7b' || c == '\x7d' then
      if isLayout then some ([], c :: cs)
      else
        match cs with
        | d :: behind =>
          if c == d then ledBy [c] (spanText? isRaw isLayout false behind)
          else if c == '\x7d' then none
          else some ([], c :: cs)
        | [] => if c == '\x7d' then none else some ([], c :: cs)
    else ledBy [c] (spanText? isRaw isLayout false cs)

/-- The brackets with their closing ones. -/
def brackets : List (Char × Char) := [('(', ')'), ('[', ']'), ('\x7b', '\x7d')]

/-- What becomes of the open brackets behind a character; nothing where it closes none. -/
def bracketsBehind? (closing : List Char) (c : Char) : Option (List Char) :=
  match brackets.lookup c with
  | some closer => some (closer :: closing)
  | none =>
    if brackets.any (·.2 == c) then
      match closing with
      | d :: rest => if c == d then some rest else none
      | [] => none
    else some closing

/-- The expression of a field as it is written, and what follows: a brace, a colon, an equality sign
or an exclamation mark. `closing` are the brackets that close the open ones, and `quote` is the mark
of a quoted text within the expression, and whether three of them end it. -/
def spanSource? (closing : List Char) (quote : Option (Char × Bool)) :
    List Char → Option (List Char × List Char)
  | [] => none
  | c :: cs =>
    let go (closing : List Char) (quote : Option (Char × Bool)) :=
      (spanSource? closing quote cs).map fun (source, rest) => (c :: source, rest)
    let goThrice (quote : Option (Char × Bool)) : Option (List Char × List Char) :=
      match cs with
      | d :: e :: behind =>
        (spanSource? closing quote behind).map fun (source, rest) => (c :: d :: e :: source, rest)
      | _ => none
    if c == '\\' then none
    else
      match quote with
      | some (mark, isTriple) =>
        if c != mark then go closing quote
        else if !isTriple then go closing none
        else if [c, c].isPrefixOf cs then goThrice none
        else go closing quote
      | none =>
        if c == '\'' || c == '"' then
          if [c, c].isPrefixOf cs then goThrice (some (c, true)) else go closing (some (c, false))
        else if c == '#' then none
        else if closing.isEmpty && "!:\x7d=<>".toList.contains c then
          match cs with
          | d :: behind =>
            if d == '=' && "!=<>".toList.contains c then
              (spanSource? closing none behind).map fun (source, rest) => (c :: d :: source, rest)
            else if c == '<' || c == '>' then go closing none
            else some ([], c :: cs)
          | [] => if c == '<' || c == '>' then none else some ([], c :: cs)
        else
          match bracketsBehind? closing c with
          | some closing => go closing none
          | none => none

/-- The letters that say how a value is written. -/
def conversions : List (Char × Conversion) := [('s', .display), ('r', .quoted), ('a', .ascii)]

/-- Splits off the sign for how a value is written, if there is one. -/
def spanConversion? : List Char → Option (Option Conversion × List Char)
  | '!' :: c :: cs => (conversions.lookup c).map fun conversion => (some conversion, cs)
  | '!' :: [] => none
  | cs => some (none, cs)

/-- The pieces of a formatted text up to its end, or of a layout up to its closing brace, and what
follows. Layouts are formatted texts within fields, up to a depth of two. -/
def spanPieces? (isRaw : Bool) : Nat → Nat → List Char → Option (List Piece × List Char)
  | 0, _, _ => none
  | fuel + 1, depth, cs => do
    let (text, rest) ← spanText? isRaw (depth != 0) false cs
    let text := Piece.text (← decoded? isRaw text)
    match rest with
    | '\x7b' :: behind =>
      if 2 ≤ depth then none
      else
        let (source, rest) ← spanSource? [] none behind
        if source.all fun c => " \t\n\x0c\r".toList.contains c then none
        else
          -- An equality sign puts the expression itself in front of its value.
          let signed := rest.head? == some '='
          let shown := rest.drop 1
          let rest := if signed then shown.dropWhile Text.isNumberBlank else rest
          let label := if signed then
              [.text (source ++ '=' :: shown.takeWhile Text.isNumberBlank)]
            else []
          let (conversion, rest) ← spanConversion? rest
          let (layout, rest) ← match rest with
            | ':' :: behind => do
              let (pieces, rest) ← spanPieces? isRaw fuel (depth + 1) behind
              pure (some pieces, rest)
            | rest => some (none, rest)
          match rest with
          | '\x7d' :: behind =>
            let conversion := if signed && layout.isNone then
                conversion.or (some .quoted)
              else conversion
            let (more, rest) ← spanPieces? isRaw fuel depth behind
            return (text :: label ++ .field source conversion layout :: more, rest)
          | _ => none
    | rest => return ([text], rest)

/-- The pieces of a formatted text. -/
def pieces? (isRaw : Bool) (cs : List Char) : Option (List Piece) := do
  let (pieces, rest) ← spanPieces? isRaw (cs.length + 1) 0 cs
  if rest.isEmpty then some pieces else none

end PromptContract.Quotation
