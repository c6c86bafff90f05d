import PromptContract.Number.Numeral
import PromptContract.Number.Shortest

/-!
# Complex numbers

A complex number has a real and an imaginary part. A text says one by its parts, each with its sign;
either part may be missing, and parentheses may stand around the text (`Complex.ofText?`).
-/

namespace PromptContract

/-- A complex number. -/
structure Complex where
  re : Binary64
  im : Binary64
deriving DecidableEq, Inhabited

namespace Complex

/-- A real number. -/
def ofReal (x : Binary64) : Complex := ⟨x, .zero⟩

/-- A multiple of the imaginary unit. -/
def imaginary (x : Binary64) : Complex := ⟨.zero, x⟩

/-- Whether a number differs from zero. -/
def isNonzero (z : Complex) : Bool := z.re.isNonzero || z.im.isNonzero

/-- Whether two numbers have the same value. -/
def same (w z : Complex) : Bool :=
  w.re.compare? z.re == some .eq && w.im.compare? z.im == some .eq

instance : Add Complex := ⟨fun w z => ⟨w.re + z.re, w.im + z.im⟩⟩
instance : Sub Complex := ⟨fun w z => ⟨w.re - z.re, w.im - z.im⟩⟩
instance : Mul Complex :=
  ⟨fun w z => ⟨w.re * z.re - w.im * z.im, w.re * z.im + w.im * z.re⟩⟩
instance : Neg Complex := ⟨fun z => ⟨z.re.neg, z.im.neg⟩⟩

/-! ## Reading -/

/-- The length of the longest front part of a text that is a number without a sign. -/
def spanMagnitude (cs : List Char) : Nat :=
  let word := (cs.take 8).map Char.toLower
  if word == "infinity".toList then 8
  else if word.take 3 == "inf".toList || word.take 3 == "nan".toList then 3
  else
    let whole := (cs.takeWhile Numeral.isDigit).length
    let fraction := match cs.drop whole with
      | '.' :: rest => (rest.takeWhile Numeral.isDigit).length + 1
      | _ => 0
    let mantissa := if whole == 0 && fraction ≤ 1 then 0 else whole + fraction
    if mantissa == 0 then 0
    else
      match cs.drop mantissa with
      | c :: rest =>
        let sign := match rest with
          | '+' :: _ | '-' :: _ => 1
          | _ => 0
        let digits := ((rest.drop sign).takeWhile Numeral.isDigit).length
        if (c == 'e' || c == 'E') && digits != 0 then mantissa + 1 + sign + digits else mantissa
      | [] => mantissa

/-- Whether a character is a sign. -/
def isSign (c : Char) : Bool := c == '+' || c == '-'

/-- Splits off a number with its sign: the number, and the rest. Only a sign need be there if the
imaginary unit follows. -/
def spanPart (cs : List Char) : Option Binary64 × List Char :=
  let sign := if (cs.head?.map isSign).getD false then 1 else 0
  let length := spanMagnitude (cs.drop sign)
  if length == 0 then (none, cs)
  else (Numeral.float? (cs.take (sign + length)), cs.drop (sign + length))

/-- Whether a text is the imaginary unit. -/
def isUnit (cs : List Char) : Bool := cs == ['j'] || cs == ['J']

/-- One with the sign at the front of a text, and the rest. -/
def spanSign : List Char → Option Binary64 × List Char
  | '-' :: cs => (some (Binary64.ofInt (-1)), cs)
  | '+' :: cs => (some (Binary64.ofInt 1), cs)
  | cs => (none, cs)

/-- The parts that a text says. -/
def ofParts? (cs : List Char) : Option Complex :=
  match spanPart cs with
  | (some x, []) => some (ofReal x)
  | (some x, rest) =>
    if isUnit rest then some (imaginary x)
    else if !(rest.head?.map isSign).getD false then none
    else
      match spanPart rest with
      | (some y, unit) => if isUnit unit then some ⟨x, y⟩ else none
      | (none, _) =>
        match spanSign rest with
        | (some y, unit) => if isUnit unit then some ⟨x, y⟩ else none
        | _ => none
  | (none, _) =>
    match spanSign cs with
    | (some y, unit) => if isUnit unit then some (imaginary y) else none
    | (none, unit) => if isUnit unit then some (imaginary (Binary64.ofInt 1)) else none

/-- Removes underscores that stand between digits; nothing where one stands elsewhere. -/
def withoutUnderscores? (before : Char) : List Char → Option (List Char)
  | [] => if before == '_' then none else some []
  | '_' :: cs => if Numeral.isDigit before then withoutUnderscores? '_' cs else none
  | c :: cs =>
    if before == '_' && !Numeral.isDigit c then none else (withoutUnderscores? c cs).map (c :: ·)

/-- The number that a text says. -/
def ofText? (s : String) : Option Complex := do
  let cs ← withoutUnderscores? ' ' (s.toList.map Numeral.asciiForm)
  let cs := Text.trimBy Text.isNumberBlank cs
  match cs with
  | '(' :: inner =>
    if inner.getLast? == some ')' then ofParts? (Text.trimBy Text.isNumberBlank inner.dropLast)
    else none
  | cs => ofParts? cs

/-! ## Writing -/

/-- A part without a fraction of zero. -/
def partText (x : Binary64) : String :=
  let s := Decimal.text x
  if s.endsWith ".0" then (s.dropEnd 2).toString else s

/-- The written form of a number: without a real part if that is zero. -/
def text (z : Complex) : String :=
  if z.re == .zero then partText z.im ++ "j"
  else
    "(" ++ partText z.re ++ (if z.im.isNegative then "" else "+") ++ partText z.im ++ "j)"

end Complex

end PromptContract
