import PromptContract.Failure
import PromptContract.Number.Numeral
import PromptContract.Libraries.Provider.Label
import PromptContract.Text.Case

/-!
# Hosts of addresses

The host of an address is the number of a machine, with four parts and points or in brackets, or a
name. A number must be a right one. A name is written in lower case; what cannot stand in the name
is written as bytes with percent signs, and a name beyond ASCII is put into ASCII label by label.
-/

namespace PromptContract.Host

open Numeral

/-- The bytes of a character as hexadecimal numbers behind percent signs. -/
def percent (c : Char) : List Char :=
  (String.singleton c).toUTF8.toList.flatMap fun b =>
    '%' :: (Text.hex 2 b.toNat).map Char.toUpper

/-- Writes the characters that are not safe as bytes. -/
def escaped (isSafe : Char → Bool) (cs : List Char) : List Char :=
  cs.flatMap fun c => if isSafe c then [c] else percent c

/-! ## Numbers with four parts -/

/-- Whether a host is to be read as a number with four parts: it has four runs of digits with points
between. -/
def looksDotted (cs : List Char) : Bool :=
  let parts := Text.splitOn (· == '.') cs
  parts.length == 4 && parts.all fun part => !part.isEmpty && part.all isDigit

/-- Whether a text is one part of a number. -/
def isOctet (cs : List Char) : Bool :=
  !cs.isEmpty && cs.length ≤ 3 && cs.all isDigit && digitsValue cs ≤ 255
    && (cs.length == 1 || cs.head? != some '0')

/-- Whether a text is a number with four parts. -/
def isDotted (cs : List Char) : Bool :=
  let parts := Text.splitOn (· == '.') cs
  parts.length == 4 && parts.all isOctet

/-! ## Numbers in brackets -/

/-- Whether a character is a hexadecimal digit. -/
def isHexDigit (c : Char) : Bool :=
  isDigit c || ('a' ≤ c && c ≤ 'f') || ('A' ≤ c && c ≤ 'F')

/-- Whether a text is one part of a number in brackets. -/
def isGroup (cs : List Char) : Bool := !cs.isEmpty && cs.length ≤ 4 && cs.all isHexDigit

/-- The parts of a number in brackets. A number with four parts may stand at the end, as two
parts. -/
def groups? (cs : List Char) : Option (List (List Char)) :=
  let parts := Text.splitOn (· == ':') cs
  match parts.getLast? with
  | some last =>
    if last.contains '.' then
      if isDotted last then some (parts.dropLast ++ [['0'], ['0']]) else none
    else some parts
  | none => none

/-- Whether the parts of a number are eight, or fewer around one gap. An empty part at either end is
allowed beside a gap alone. -/
def areGroups (parts : List (List Char)) : Bool :=
  let inner := parts.dropLast.drop 1
  match inner.findIdx? List.isEmpty with
  | none => parts.length == 8 && parts.all isGroup
  | some i =>
    let high := parts.take (i + 1)
    let low := parts.drop (i + 2)
    let high := if high == [[]] then [] else high
    let low := if low == [[]] then [] else low
    parts.length ≤ 9 && (high ++ low).all isGroup && high.length + low.length ≤ 7

/-- Whether a text is a number in brackets, without the brackets. A zone may follow a percent
sign. -/
def isBracketed (cs : List Char) : Bool :=
  let address := cs.takeWhile (· != '%')
  let zoned := match cs.dropWhile (· != '%') with
    | [] => true
    | _ :: zone => !zone.isEmpty && !zone.contains '%'
  zoned && 3 ≤ (Text.splitOn (· == ':') address).length && (groups? address).any areGroups

/-! ## Names -/

/-- The characters that may stand in a name as they are. -/
def isNameSafe (c : Char) : Bool :=
  (c.toNat < 128 && (c.isAlphanum || "-._~!$&'()*+,;=\"`%|\\".toList.contains c))
    || c == '\x7b' || c == '\x7d'

/-- The points between the labels of a name. -/
def isPoint (c : Char) : Bool :=
  c == '.' || c.toNat == 0x3002 || c.toNat == 0xFF0E || c.toNat == 0xFF61

/-- The greatest length of a name in ASCII, without a point at its end. -/
def nameLimit : Nat := 253

/-- A name beyond ASCII in ASCII. A point may stand at its end. -/
def name? (cs : List Char) : Option (List Char) := do
  let labels := Text.splitOn isPoint (Text.lower cs)
  let endsInPoint := labels.getLast? == some []
  let written ← (if endsInPoint then labels.dropLast else labels).mapM Label.ascii?
  let joined := List.intercalate ['.'] written
  if joined.length ≤ nameLimit && !written.isEmpty then
    return joined ++ if endsInPoint then ['.'] else []
  else none

/-- The host of an address as it is written there, without the brackets of a number. -/
def ofText (cs : List Char) : Except Failure (List Char) :=
  if looksDotted cs then if isDotted cs then .ok cs else .error .badAddress
  else if cs.head? == some '[' && cs.getLast? == some ']' then
    let inner := (cs.drop 1).dropLast
    if isBracketed inner then .ok inner else .error .badAddress
  else if Text.isAscii cs then .ok (escaped isNameSafe (cs.map Char.toLower))
  else match name? cs with
    | some name => .ok name
    | none => .error .badAddress

end PromptContract.Host
