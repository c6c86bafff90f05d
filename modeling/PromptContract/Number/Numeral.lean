import PromptContract.Number.Binary64
import PromptContract.Text.Blank
import PromptContract.Text.DecimalDigit

/-!
# Numerals

The written forms of numbers. `Numeral.integer` reads a sign and ASCII digits and nothing else;
`Numeral.looseInteger?` also takes surrounding blanks, single underscores between digits and the
digits of other scripts, and `Numeral.bytesInteger?` reads such an integer from bytes of ASCII;
`Numeral.float?` reads a decimal number with fraction and exponent, or the name of an infinity or of
the value that is no number, and rounds it once. Integers are limited to `Numeral.digitLimit`
digits, counted as written.
-/

namespace PromptContract.Numeral

open Text

/-- The greatest number of digits that an integer may be written with. -/
def digitLimit : Nat := 4300

/-- Whether a character is an ASCII digit. -/
def isDigit (c : Char) : Bool := (asciiDigit? c).isSome

/-- The number that a row of ASCII digits stands for. -/
def digitsValue (ds : List Char) : Nat := ds.foldl (fun n c => 10 * n + (c.toNat - 48)) 0

/-- Splits off a sign: whether it is a minus, and the rest. -/
def takeSign : List Char → Bool × List Char
  | '-' :: rest => (true, rest)
  | '+' :: rest => (false, rest)
  | rest => (false, rest)

/-- An integer with its sign. -/
def signed (negative : Bool) (n : Nat) : Int := if negative then -(n : Int) else n

/-- What a text says as an integer. -/
inductive Reading
  /-- The text is no integer. -/
  | notInteger
  /-- The text is an integer of more digits than may be read. -/
  | tooLong
  | value (n : Int)
deriving DecidableEq

/-- Reads a sign or none and ASCII digits. -/
def integer (cs : List Char) : Reading :=
  let (negative, digits) := takeSign cs
  if digits.isEmpty || !digits.all isDigit then .notInteger
  else if digitLimit < digits.length then .tooLong
  else .value (signed negative (digitsValue digits))

/-- The ASCII form of a character of a loosely written integer: digits of other scripts become ASCII
digits, blanks of other scripts spaces, and what cannot stand in an integer a question mark. -/
def asciiForm (c : Char) : Char :=
  if c.toNat < 127 then c
  else if isBlank c then ' '
  else match decimalDigit? c with
    | some d => Char.ofNat (48 + d)
    | none => '?'

/-- Removes the underscores that stand between two digits; nothing where one stands elsewhere or the
row has a character that is no digit. -/
def dropUnderscores? : List Char → Option (List Char)
  | [] => none
  | [c] => if isDigit c then some [c] else none
  | c :: '_' :: rest =>
    if isDigit c then (dropUnderscores? rest).map (c :: ·) else none
  | c :: rest => if isDigit c then (dropUnderscores? rest).map (c :: ·) else none

/-- The ASCII form of a byte of a loosely written integer. One beyond ASCII cannot stand in it. -/
def byteForm (b : Nat) : Char := if b < 127 then Char.ofNat b else '?'

/-- Reads an integer in ASCII form: blanks around it and single underscores between digits are
allowed. -/
def asciiInteger? (cs : List Char) : Option Int := do
  let (negative, digits) := takeSign (trimBy isNumberBlank cs)
  let digits ← dropUnderscores? digits
  if digitLimit < digits.length then none else some (signed negative (digitsValue digits))

/-- Reads an integer the way settings are written (`int` of a text): blanks around it, single
underscores between digits and the digits of every script are allowed. -/
def looseInteger? (cs : List Char) : Option Int := asciiInteger? (cs.map asciiForm)

/-- Reads an integer from bytes (`int` of bytes), which must be ASCII. -/
def bytesInteger? (bs : List Nat) : Option Int := asciiInteger? (bs.map byteForm)

/-- The number nearest to `mantissa · 10^exponent`, where the mantissa is given by its digits.
Beyond the four hundredth place no digit can matter, so no power beyond it is taken. -/
def ofDecimal (negative : Bool) (digits : List Char) (exponent : Int) : Binary64 :=
  let significant := digits.dropWhile (· == '0')
  let magnitude : Int := significant.length + exponent
  if significant.isEmpty || magnitude < -400 then .finite negative 0
  else if 400 < magnitude then .infinite negative
  else if 0 ≤ exponent then
    Binary64.ofRatio negative (digitsValue significant * Nat.pow 10 exponent.toNat) 1
  else Binary64.ofRatio negative (digitsValue significant) (Nat.pow 10 (-exponent).toNat)

/-- Reads the exponent part of a decimal number: nothing at all, or the letter, a sign or none and
one or more digits. -/
def exponent? : List Char → Option Int
  | [] => some 0
  | c :: rest =>
    if c = 'e' || c = 'E' then
      let (negative, digits) := takeSign rest
      if digits.isEmpty || !digits.all isDigit then none
      else some (signed negative (digitsValue digits))
    else none

/-- Reads digits with an optional point among them, and an optional exponent. -/
def decimal? (negative : Bool) (cs : List Char) : Option Binary64 :=
  let whole := cs.takeWhile isDigit
  let rest := cs.dropWhile isDigit
  let (fraction, rest) := match rest with
    | '.' :: r => (r.takeWhile isDigit, r.dropWhile isDigit)
    | r => ([], r)
  if whole.isEmpty && fraction.isEmpty then none
  else (exponent? rest).map fun e => ofDecimal negative (whole ++ fraction) (e - fraction.length)

/-- Reads a floating-point number, with blanks allowed around it. -/
def float? (cs : List Char) : Option Binary64 :=
  let (negative, rest) := takeSign (trimBy isNumberBlank cs)
  let word := rest.map Char.toLower
  if word = "inf".toList || word = "infinity".toList then some (.infinite negative)
  else if word = "nan".toList then some .nan
  else decimal? negative rest

end PromptContract.Numeral
