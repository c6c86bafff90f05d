import PromptContract.Libraries.Evaluation.Memory
import PromptContract.Libraries.Number.Rounded
import PromptContract.Libraries.Text.Encoding
import PromptContract.Value.Conversion
import PromptContract.Value.Writing

/-!
# Layouts

How a value is written within a text. A layout says a width, the character that fills it, where in
it the value stands, and for numbers a sign, a base, groups of digits and a precision
(`Layout.format`).
-/

namespace PromptContract

/-- Where a written value stands in its width. -/
inductive Alignment
  | left | right | center
  /-- The sign of a number stands in front of what fills the width. -/
  | behindSign
deriving DecidableEq, Repr

/-- A layout. -/
structure Layout where
  fill : Char
  /-- Whether a zero in front of the width asks for zeros behind the sign of a number. -/
  hasZero : Bool
  alignment : Option Alignment
  sign : Option Char
  /-- Whether a number that rounds to zero is written without a minus. -/
  dropsZeroSign : Bool
  isMarked : Bool
  width : Nat
  grouping : Option Char
  precision : Option Nat
  kind : Option Char

namespace Layout

/-- A text with the characters beyond ASCII written by their numbers. -/
def asciiForm (s : String) : String :=
  String.ofList (s.toList.flatMap fun c => if c.toNat < 0x80 then [c] else Encoding.escape c.toNat)

/-- The marks of alignments. -/
def alignments : List (Char × Alignment) :=
  [('<', .left), ('>', .right), ('^', .center), ('=', .behindSign)]

/-- Splits off the first character if it is one of some. -/
def spanAny (options : List Char) : List Char → Option Char × List Char
  | c :: cs => if options.contains c then (some c, cs) else (none, c :: cs)
  | [] => (none, [])

/-- Splits off a number if there is one. -/
def spanNumber (cs : List Char) : Option Nat × List Char :=
  match cs.takeWhile Numeral.isDigit with
  | [] => (none, cs)
  | ds => (some (Numeral.digitsValue ds), cs.dropWhile Numeral.isDigit)

/-- Whether the digits of a kind of number can stand in groups with a mark between them. -/
def mayGroup (mark : Char) : Option Char → Bool
  | none => true
  | some kind =>
    "deEfFgG%".toList.contains kind || mark == '_' && "boxX".toList.contains kind

/-- Whether a size is one that can be read. -/
def isSize (n : Option Nat) : Bool := n.getD 0 < Nat.pow 2 63

/-- The layout that a text says. -/
def ofText? (cs : List Char) : Option Layout := do
  let (fill, alignment, cs) := match cs with
    | c :: d :: rest =>
      match alignments.lookup d, alignments.lookup c with
      | some a, _ => (some c, some a, rest)
      | none, some a => (none, some a, d :: rest)
      | none, none => (none, none, cs)
    | [c] =>
      match alignments.lookup c with
      | some a => (none, some a, [])
      | none => (none, none, cs)
    | [] => (none, none, [])
  let (sign, cs) := spanAny ['+', '-', ' '] cs
  let (drop, cs) := spanAny ['z'] cs
  let (mark, cs) := spanAny ['#'] cs
  let (zero, cs) := if fill.isNone then spanAny ['0'] cs else (none, cs)
  let (width, cs) := spanNumber cs
  let (grouping, cs) := spanAny [',', '_'] cs
  let (precision, cs) ← match cs with
    | '.' :: rest =>
      match spanNumber rest with
      | (some n, rest) => some (some n, rest)
      | (none, _) => none
    | cs => some (none, cs)
  let (kind, cs) := match cs with
    | [c] => (some c, [])
    | cs => (none, cs)
  if cs.isEmpty && isSize width && isSize precision
      && (grouping.map fun mark => mayGroup mark kind).getD true then
    some {
      fill := fill.getD (if zero.isSome then '0' else ' ')
      hasZero := zero.isSome
      dropsZeroSign := drop.isSome
      isMarked := mark.isSome
      width := width.getD 0
      alignment, sign, grouping, precision, kind }
  else none

/-- A written value in its width. -/
def padded (l : Layout) (usual : Alignment) (sign body : List Char) : Except Failure String := do
  let missing ← Value.itemCount (l.width - (sign.length + body.length))
  let fill (n : Nat) := List.replicate n l.fill
  return String.ofList (match l.alignment.getD usual with
    | .left => sign ++ body ++ fill missing
    | .right => fill missing ++ sign ++ body
    | .center => fill (missing / 2) ++ sign ++ body ++ fill (missing - missing / 2)
    | .behindSign => sign ++ fill missing ++ body)

/-- Digits in groups from the end, with a mark between two groups. -/
def grouped (mark : Char) (size : Nat) (ds : List Char) : List Char :=
  (ds.reverse.zipIdx.flatMap fun (d, i) =>
    if i != 0 && i % size == 0 then [mark, d] else [d]).reverse

/-- The least number of digits that, in groups with marks between them, are so many characters. -/
def digitsFor (size least : Nat) : Nat :=
  let n := least - least / (size + 1)
  if least ≤ n + (n - 1) / size then n else n + 1

/-- A written number in its width: a sign, a mark, digits, and what is behind them. Zeros that fill
the width between sign and digits stand in the groups of the digits. -/
def laidOut (l : Layout) (sign mark digits rest : List Char) : Except Failure String := do
  let width ← Value.itemCount l.width
  let l := { l with alignment := l.alignment.or (if l.hasZero then some .behindSign else none) }
  let fills := l.fill == '0' && (l.alignment.map (· == .behindSign)).getD false
  let least := if fills then width - (sign.length + mark.length + rest.length) else 0
  let size := if "boxX".toList.contains (l.kind.getD 'd') then 4 else 3
  let digits :=
    if digits.isEmpty then []
    else match l.grouping with
      | some c => grouped c size (Decimal.padZeros (digitsFor size least) digits)
      | none => Decimal.padZeros least digits
  l.padded .right (sign ++ mark) (digits ++ rest)

/-- The bases that numbers are written to, with the marks in front of them. -/
def bases : List (Char × Nat × String) :=
  [('d', 10, ""), ('b', 2, "0b"), ('o', 8, "0o"), ('x', 16, "0x"), ('X', 16, "0X")]

/-- A text in a layout. -/
def ofString (l : Layout) (s : String) : Except Failure String :=
  if (l.kind.map (· != 's')).getD false || l.sign.isSome || l.dropsZeroSign || l.isMarked
      || l.grouping.isSome || l.alignment == some .behindSign then
    .error .unreadable
  else
    let cs := s.toList
    l.padded .left [] ((l.precision.map cs.take).getD cs)

/-- What stands in front of a number of a sign. -/
def signOf (l : Layout) (isNegative : Bool) : List Char :=
  if isNegative then ['-'] else match l.sign with
    | some '+' => ['+']
    | some ' ' => [' ']
    | _ => []

/-- The first number that is no precision of a number. -/
def precisionLimit : Nat := Nat.pow 2 31

/-- The precision of a number in a layout. -/
def precisionOf (l : Layout) (usual : Nat) : Except Failure Nat :=
  match l.precision with
  | none => .ok usual
  | some n => if precisionLimit ≤ n then .error .unreadable else Value.itemCount n

/-- The kinds of written numbers that are no integers. -/
def realKinds : List Char := "eEfFgGn".toList

/-- A number with a point behind its first digits, which it may have already. -/
def withPoint (cs : List Char) : List Char :=
  if cs.contains '.' then cs
  else cs.takeWhile Numeral.isDigit ++ '.' :: cs.dropWhile Numeral.isDigit

/-- A number of one digit or more behind the point, unless it has an exponent. -/
def withFraction (cs : List Char) : List Char :=
  if cs.contains '.' || cs.contains 'e' then cs else cs ++ ['.', '0']

/-- The written form of a number of units, of a kind and a precision. Without either it is the
shortest one, with a fraction if `hasFraction`. -/
def unitDigits (l : Layout) (hasFraction : Bool) (units : Nat) : Except Failure (List Char) := do
  let places ← precisionOf l 6
  let cs ← match l.kind with
    | some 'f' | some 'F' | some '%' => pure (Decimal.toPlaces places units)
    | some 'e' | some 'E' => pure (Decimal.toDigits places units)
    | some _ => pure (Decimal.general l.isMarked places (max places 1) units)
    | none =>
      match l.precision, hasFraction with
      | none, true => pure (Decimal.text (.finite false units)).toList
      | none, false => pure (Complex.partText (.finite false units)).toList
      -- One digit behind the point is kept, and counts as one of those that are asked for.
      | some n, true => pure (withFraction (Decimal.general l.isMarked n (max n 1 - 1) units))
      | some n, false => pure (Decimal.general l.isMarked n (max n 1) units)
  return if l.isMarked then withPoint cs else cs

/-- The sign and the written size of a number. -/
def realParts (l : Layout) (hasFraction : Bool) (x : Binary64) :
    Except Failure (List Char × List Char) := do
  let cs ← match x with
    | .nan => pure "nan".toList
    | .infinite _ => pure "inf".toList
    | .finite _ units => unitDigits l hasFraction units
  let isZero := cs.all fun c => !Numeral.isDigit c || c == '0'
  let isNegative := x.isNegative && !(l.dropsZeroSign && x.isFinite && isZero)
  let isCapital := ['E', 'F', 'G'].contains (l.kind.getD ' ')
  return (signOf l isNegative, if isCapital then cs.map Char.toUpper else cs)

/-- A floating-point number in a layout. -/
def ofReal (l : Layout) (x : Binary64) : Except Failure String := do
  if !(l.kind.map fun c => c == '%' || realKinds.contains c).getD true then throw .unreadable
  let isShare := l.kind == some '%'
  let (sign, cs) ← realParts l true (if isShare then x * Binary64.ofInt 100 else x)
  laidOut l sign [] (cs.takeWhile Numeral.isDigit)
    (cs.dropWhile Numeral.isDigit ++ if isShare then ['%'] else [])

/-- A complex number in a layout: the imaginary part has a sign where there is a real part. -/
def ofComplex (l : Layout) (z : Complex) : Except Failure String := do
  if !(l.kind.map realKinds.contains).getD true || l.fill == '0'
      || l.alignment == some .behindSign then
    throw .unreadable
  let isBare := l.kind.isNone && z.re == .zero
  let inGroups (cs : List Char) : List Char :=
    let ds := cs.takeWhile Numeral.isDigit
    ((l.grouping.map fun c => grouped c 3 ds).getD ds) ++ cs.dropWhile Numeral.isDigit
  let (reSign, re) ← realParts l false z.re
  let (imSign, im) ← realParts (if isBare then l else { l with sign := some '+' }) false z.im
  let im := imSign ++ inGroups im ++ ['j']
  let body :=
    if isBare then im
    else
      let both := reSign ++ inGroups re ++ im
      if l.kind.isNone then '(' :: both ++ [')'] else both
  l.padded .right [] body

/-- An integer in a layout. -/
def ofInteger (l : Layout) (n : Int) : Except Failure String := do
  let kind := l.kind.getD 'd'
  match bases.lookup (if kind == 'n' then 'd' else kind) with
  | none =>
    if kind == 'c' then
      if l.precision.isSome || l.dropsZeroSign || l.sign.isSome || l.isMarked then throw .unreadable
      if n < 0 || 0x110000 ≤ n then throw .numberTooLarge
      laidOut l [] [] [] [Char.ofNat n.toNat]
    else if kind != '%' && !realKinds.contains kind then throw .unreadable
    else
      match Binary64.ofInt? n with
      | some x => ofReal l x
      | none => throw .numberTooLarge
  | some (base, mark) =>
    if l.precision.isSome || l.dropsZeroSign || base == 10 && !(Value.int n).isWritable then
      throw .unreadable
    let ds := Nat.toDigits base n.natAbs
    let sign := signOf l (n < 0)
    laidOut l sign (if l.isMarked then mark.toList else [])
      (if kind == 'X' then ds.map Char.toUpper else ds) []

/-- A value in a layout, which may be empty. Only texts and numbers have layouts. -/
def format (v : Value) (layout : String) : Except Failure String :=
  if layout.isEmpty then v.toDisplay
  else
    match ofText? layout.toList, v with
    | some l, .int n => ofInteger l n
    | some l, .bool b => ofInteger l (boolInt b)
    | some l, .float x => ofReal l x
    | some l, .object (.nan _) => ofReal l .nan
    | some l, .object (.complex z) => ofComplex l z
    | l, v =>
      match v.comparedText?, l with
      | some s, some l => ofString l s
      | some _, none => .error .unreadable
      | none, _ =>
        match v with
        | .int _ | .bool _ | .float _ | .object (.nan _) | .object (.complex _) =>
          .error .unreadable
        | _ => .error .wrongKind

end Layout

end PromptContract
