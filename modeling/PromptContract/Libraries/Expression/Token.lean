import PromptContract.Expression.Basic
import PromptContract.Number.Numeral
import PromptContract.Libraries.Text.Identifier
import PromptContract.Libraries.Text.Normalization

/-!
# The tokens of an expression

The text of an expression is cut into words, numbers, quoted texts and marks. Spaces between them
and remarks behind a hash sign fall away. The end of a line ends the expression, unless a bracket is
open or a backslash stands before it; blank lines may surround the expression (`Token.ofText?`).
-/

namespace PromptContract

/-- What the letters in front of a quoted text say about it. -/
structure QuotedKind where
  /-- Backslashes stand for themselves. -/
  isRaw : Bool
  isBytes : Bool
  /-- Braces hold expressions. -/
  isFormatted : Bool
deriving DecidableEq, Repr

/-- A token of an expression. -/
inductive Token
  | name (s : String)
  | keyword (s : String)
  | number (c : Constant)
  /-- What stands between quotes, as it is written. -/
  | quoted (kind : QuotedKind) (body : List Char)
  | mark (s : String)

namespace Token

/-- The words that are no names. -/
def keywords : List String :=
  ["False", "None", "True", "and", "as", "assert", "async", "await", "break", "class", "continue",
    "def", "del", "elif", "else", "except", "finally", "for", "from", "global", "if", "import",
    "in", "is", "lambda", "nonlocal", "not", "or", "pass", "raise", "return", "try", "while",
    "with", "yield"]

/-- The marks of expressions. Of two that fit the longer one stands first. -/
def marks : List String :=
  ["...", "**", "//", "<<", ">>", "<=", ">=", "==", "!=", ":=", "+", "-", "*", "/", "%", "@", "&",
    "|", "^", "~", "<", ">", "(", ")", "[", "]", "\x7b", "\x7d", ",", ":", ".", "="]

/-- The mark at the front of a text, and the text behind it. -/
def mark? (cs : List Char) : Option (String × List Char) :=
  marks.findSome? fun m => (m.toList.isPrefixOf? cs).map (m, ·)

/-- Whether a character goes on with a word, unless it turns out to make it no word at all. -/
def inWord (c : Char) : Bool := c.isAlphanum || c == '_' || 128 ≤ c.toNat

/-- A word is a keyword or a name. Names that are written differently may be one. -/
def ofWord? (cs : List Char) : Option Token :=
  if keywords.contains (String.ofList cs) then some (keyword (String.ofList cs))
  else if Text.isIdentifier cs then some (name (String.ofList (Text.compatible cs)))
  else none

/-! ## Numbers -/

/-- Splits off digits, among which single underscores may stand: the digits and the rest. -/
def spanDigits? (cs : List Char) : Option (List Char × List Char) :=
  let inDigits := fun c => Numeral.isDigit c || c == '_'
  match cs.takeWhile inDigits with
  | [] => some ([], cs)
  | ds => (Numeral.dropUnderscores? ds).map fun ds => (ds, cs.dropWhile inDigits)

/-- Splits off a fraction, if there is one. -/
def spanFraction? : List Char → Option (Option (List Char) × List Char)
  | '.' :: cs => (spanDigits? cs).map fun (ds, rest) => (some ds, rest)
  | cs => some (none, cs)

/-- Splits off an exponent, if there is one. -/
def spanExponent? (cs : List Char) : Option (Option Int × List Char) :=
  match cs with
  | c :: rest =>
    if c == 'e' || c == 'E' then
      let (negative, digits) := Numeral.takeSign rest
      if (digits.head?.map Numeral.isDigit).getD false then
        (spanDigits? digits).map fun (ds, rest) =>
          (some (Numeral.signed negative (Numeral.digitsValue ds)), rest)
      else some (none, cs)
    else some (none, cs)
  | [] => some (none, [])

/-- The words that may follow a number without a space between. -/
def wordsBehindNumbers : List String := ["and", "else", "for", "if", "in", "is", "not", "or"]

/-- Whether a text may stand directly behind a number. -/
def mayFollowNumber (cs : List Char) : Bool :=
  wordsBehindNumbers.any (fun w => w.toList.isPrefixOf cs) || !(cs.head?.map inWord).getD false

/-- The letters that lead numbers to other bases, with the digits of each base. -/
def baseDigits : List (Char × String) :=
  [('x', "0123456789abcdef"), ('o', "01234567"), ('b', "01")]

/-- Removes the underscores that stand one by one in front of digits. -/
def looseDigits? (isDigit : Char → Bool) : List Char → Option (List Char)
  | [] => some []
  | '_' :: c :: rest => if isDigit c then (looseDigits? isDigit rest).map (c :: ·) else none
  | c :: rest => if isDigit c then (looseDigits? isDigit rest).map (c :: ·) else none

/-- The number to the base of some digits at the front of a text, and the text behind it. -/
def based? (digits : List Char) (cs : List Char) : Option (Token × List Char) := do
  let isDigit := fun c => digits.contains c.toLower
  let inDigits := fun c => isDigit c || c == '_'
  let ds ← looseDigits? isDigit (cs.takeWhile inDigits)
  let rest := cs.dropWhile inDigits
  if ds.isEmpty || !mayFollowNumber rest then none
  else
    let value := ds.foldl (fun n c => digits.length * n + digits.idxOf c.toLower) 0
    some (number (.int value), rest)

/-- The decimal number at the front of a text, and the text behind it. A whole number does not start
with a zero unless it is one, and has a greatest length. -/
def decimal? (cs : List Char) : Option (Token × List Char) := do
  let (whole, rest) ← spanDigits? cs
  let (fraction, rest) ← spanFraction? rest
  let (exponent, rest) ← spanExponent? rest
  let (isImaginary, rest) := match rest with
    | c :: behind => if c == 'j' || c == 'J' then (true, behind) else (false, rest)
    | [] => (false, [])
  if !mayFollowNumber rest then none
  else if fraction.isNone && exponent.isNone && !isImaginary then
    if (whole.head? == some '0' && whole.any (· != '0')) || Numeral.digitLimit < whole.length then
      none
    else some (number (.int (Numeral.digitsValue whole)), rest)
  else
    let fraction := fraction.getD []
    let x := Numeral.ofDecimal false (whole ++ fraction) (exponent.getD 0 - fraction.length)
    some (number (if isImaginary then .imaginary x else .float x), rest)

/-- The number at the front of a text, and the text behind it. -/
def number? (cs : List Char) : Option (Token × List Char) :=
  match cs with
  | '0' :: letter :: rest =>
    match baseDigits.lookup letter.toLower with
    | some digits => based? digits.toList rest
    | none => decimal? cs
  | cs => decimal? cs

/-! ## Quoted texts -/

/-- The letters that may stand in front of a quoted text. -/
def quotedKinds : List (String × QuotedKind) :=
  [("", ⟨false, false, false⟩), ("u", ⟨false, false, false⟩), ("r", ⟨true, false, false⟩),
    ("b", ⟨false, true, false⟩), ("f", ⟨false, false, true⟩), ("br", ⟨true, true, false⟩),
    ("rb", ⟨true, true, false⟩), ("fr", ⟨true, false, true⟩), ("rf", ⟨true, false, true⟩)]

/-- What stands behind a quotation mark up to the next one, or to the next three, and what follows.
Only between three marks may the text go on over the end of the line, unless a backslash stands
before it. -/
def spanQuoted? (mark : Char) (isTriple : Bool) : List Char → Option (List Char × List Char)
  | [] => none
  | '\\' :: c :: cs =>
    (spanQuoted? mark isTriple cs).map fun (body, rest) => ('\\' :: c :: body, rest)
  | c :: cs =>
    if c == mark && !isTriple then some ([], cs)
    else if c == mark && [mark, mark].isPrefixOf cs then some ([], cs.drop 2)
    else if c == '\n' && !isTriple then none
    else (spanQuoted? mark isTriple cs).map fun (body, rest) => (c :: body, rest)

/-- The quoted text at the front of a text, and the text behind it. -/
def quoted? (kind : QuotedKind) (mark : Char) (cs : List Char) : Option (Token × List Char) :=
  let found := if [mark, mark].isPrefixOf cs then
      spanQuoted? mark true (cs.drop 2)
    else spanQuoted? mark false cs
  found.map fun (body, rest) => (quoted kind body, rest)

/-- The word at the front of a text, or the quoted text that it leads to. -/
def word? (cs : List Char) : Option (Token × List Char) :=
  let word := cs.takeWhile inWord
  let rest := cs.dropWhile inWord
  let kind := quotedKinds.lookup (String.ofList (word.map Char.toLower))
  match kind, rest with
  | some kind, '\'' :: behind => quoted? kind '\'' behind
  | some kind, '"' :: behind => quoted? kind '"' behind
  | _, rest => (ofWord? word).map fun t => (t, rest)

/-! ## Lines -/

/-- What stands at the margin behind blank lines, remarks and joined lines; nothing where something
stands away from the margin. `column` is where the line stands now, `start` where the first of some
joined lines stood, and `inRemark` says whether a remark has begun. -/
def atMargin? (column start : Nat) (inRemark : Bool) : List Char → Option (List Char)
  | [] => if inRemark || (column == 0 && start == 0) then some [] else none
  | '\n' :: cs => atMargin? 0 0 false cs
  | '\\' :: '\n' :: cs =>
    if inRemark then atMargin? 0 0 false cs
    else if cs.isEmpty then none
    else atMargin? column (if start == 0 then column else start) false cs
  | c :: cs =>
    if inRemark then atMargin? column start true cs
    else if c == ' ' || c == '\t' then atMargin? (column + 1) start false cs
    else if c == '\x0c' then atMargin? 0 start false cs
    else if c == '#' then atMargin? column start true cs
    else if column == 0 && start == 0 then some (c :: cs)
    else none

/-- What the front of a text holds. -/
inductive Front
  | token (t : Token) (rest : List Char)
  | blank (rest : List Char)
  | lineEnd (rest : List Char)

/-- What the front of a text holds, if it is something. -/
def front? : List Char → Option Front
  | [] => none
  | c :: cs =>
    if c == ' ' || c == '\t' || c == '\x0c' then some (.blank cs)
    else if c == '\n' then some (.lineEnd cs)
    else if c == '#' then some (.blank (cs.dropWhile (· != '\n')))
    else if c == '\\' then
      match cs with
      | '\n' :: rest => if rest.isEmpty then none else some (.blank rest)
      | _ => none
    else
      let found :=
        if Numeral.isDigit c || (c == '.' && (cs.head?.map Numeral.isDigit).getD false) then
          number? (c :: cs)
        else if inWord c || c == '\'' || c == '"' then word? (c :: cs)
        else (mark? (c :: cs)).map fun (m, rest) => (mark m, rest)
      found.map fun (t, rest) => .token t rest

/-- The greatest number of brackets that may be open at once. -/
def depthLimit : Nat := 200

/-- How many brackets are open behind a token; nothing where there are too many. -/
def depthBehind? (depth : Nat) : Token → Option Nat
  | mark m =>
    if ["(", "[", "\x7b"].contains m then if depth < depthLimit then some (depth + 1) else none
    else if [")", "]", "\x7d"].contains m then some (depth - 1)
    else some depth
  | _ => some depth

/-- The tokens of a text up to the end of the line, behind which only blank lines may stand. -/
def read? (depth : Nat) (cs : List Char) : Option (List Token) :=
  match cs with
  | [] => some []
  | c :: cs =>
    match front? (c :: cs) with
    | none => none
    | some (.lineEnd rest) =>
      if depth == 0 then
        if atMargin? 0 0 false rest == some [] then some [] else none
      else if _ : rest.length ≤ cs.length then read? depth rest else none
    | some (.blank rest) => if _ : rest.length ≤ cs.length then read? depth rest else none
    | some (.token t rest) =>
      match depthBehind? depth t with
      | none => none
      | some depth =>
        if _ : rest.length ≤ cs.length then (read? depth rest).map (t :: ·) else none
termination_by cs.length
decreasing_by all_goals exact Nat.lt_succ_of_le ‹_›

/-- Every end of a line as one character. -/
def withPlainLines : List Char → List Char
  | [] => []
  | '\r' :: '\n' :: cs => '\n' :: withPlainLines cs
  | '\r' :: cs => '\n' :: withPlainLines cs
  | c :: cs => c :: withPlainLines cs

/-- The tokens of an expression. -/
def ofText? (cs : List Char) : Option (List Token) := do
  read? 0 (← atMargin? 0 0 false (withPlainLines cs))

end Token

end PromptContract
