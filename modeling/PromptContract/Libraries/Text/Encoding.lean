import PromptContract.Text.Quoted

/-!
# Encodings

An encoding says which bytes a text is (`Encoding.encode`), and which text bytes are
(`Encoding.decode`). Where a character has no bytes, or bytes are no character, something else may
stand in its place, or nothing, or the whole is refused, as the caller wants it (`Handling`).
-/

namespace PromptContract

/-- Which byte of several stands first. -/
inductive ByteOrder
  | big | little
deriving DecidableEq, Repr

/-- An encoding. Those by units of 16 and of 32 bits may say the order of bytes by a mark in
front. -/
inductive Encoding
  | utf8 | ascii | latin1
  | utf16 (order : Option ByteOrder)
  | utf32 (order : Option ByteOrder)
deriving DecidableEq, Repr

/-- What stands in the place of what an encoding lacks. -/
inductive Handling
  | ignore
  /-- A question mark, or the character for what is unknown. -/
  | replace
  /-- The number of the character in a reference of a markup language. -/
  | numbered
  /-- The number of the character or of the byte behind a backslash. -/
  | escaped
deriving DecidableEq, Repr

namespace ByteOrder

/-- A number in so many bytes. -/
def bytes (order : ByteOrder) (size n : Nat) : List Nat :=
  let little := (List.range size).map fun i => n / Nat.pow 256 i % 256
  match order with
  | .little => little
  | .big => little.reverse

/-- The number of some bytes. -/
def number (order : ByteOrder) (bs : List Nat) : Nat :=
  let big := match order with
    | .little => bs.reverse
    | .big => bs
  big.foldl (256 * · + ·) 0

end ByteOrder

namespace Handling

/-- The handling of a name; nothing where the whole is to be refused. -/
def ofName? : String → Option Handling
  | "ignore" => some .ignore
  | "replace" => some .replace
  | "xmlcharrefreplace" => some .numbered
  | "backslashreplace" => some .escaped
  | _ => none

end Handling

namespace Encoding

/-- The names of encodings. -/
def names : List (String × Encoding) :=
  let all (encoding : Encoding) (names : List String) := names.map (·, encoding)
  all .utf8 ["utf_8", "u8", "utf", "utf8", "utf8_ucs2", "utf8_ucs4", "cp65001"]
    ++ all .ascii ["ascii", "646", "us_ascii", "us", "iso646_us", "cp367", "ibm367", "csascii",
      "iso_ir_6", "ansi_x3.4_1968", "ansi_x3.4_1986", "iso_646.irv_1991"]
    ++ all .latin1 ["latin_1", "8859", "cp819", "csisolatin1", "ibm819", "iso8859", "iso8859_1",
      "iso_8859_1", "iso_8859_1_1987", "iso_ir_100", "l1", "latin", "latin1"]
    ++ all (.utf16 none) ["utf_16", "u16", "utf16"]
    ++ all (.utf16 (some .little)) ["utf_16_le", "utf_16le", "unicodelittleunmarked"]
    ++ all (.utf16 (some .big)) ["utf_16_be", "utf_16be", "unicodebigunmarked"]
    ++ all (.utf32 none) ["utf_32", "u32", "utf32"]
    ++ all (.utf32 (some .little)) ["utf_32_le", "utf_32le"]
    ++ all (.utf32 (some .big)) ["utf_32_be", "utf_32be"]

/-- The fronts of the names of encodings that are not followed up. -/
def otherFronts : List String :=
  ["big5", "cp", "euc", "gb", "hz", "ibm", "idna", "iso", "johab", "koi", "kz", "latin", "mac",
    "palmos", "ptcp", "punycode", "raw_unicode", "shift", "sjis", "tis", "unicode_escape", "utf_7",
    "utf_8_sig", "windows"]

/-- A name with small letters, and one underscore in the place of other signs. -/
def plainName (name : String) : String :=
  let cs := name.toList.map fun c =>
    if c.isAlphanum || c == '.' then c.toLower else '_'
  String.ofList (List.foldr (fun c rest =>
    if c == '_' && rest.head? == some '_' then rest else c :: rest) [] cs)

/-- The encoding of a name. -/
def ofName? (name : String) : Option Encoding := names.lookup (plainName name)

/-- Whether a name is that of an encoding that is not followed up. -/
def isOther (name : String) : Bool := otherFronts.any fun part => (plainName name).startsWith part

/-! ## Encoding -/

/-- The bytes of a character in UTF-8. -/
def utf8Bytes (c : Char) : List Nat := (String.singleton c).toUTF8.toList.map UInt8.toNat

/-- The units of 16 bits of a character. -/
def utf16Units (c : Char) : List Nat :=
  let n := c.toNat
  if n < 0x10000 then [n]
  else [0xD800 + (n - 0x10000) / 0x400, 0xDC00 + (n - 0x10000) % 0x400]

/-- The bytes of a character, if it has some. -/
def charBytes? (encoding : Encoding) (c : Char) : Option (List Nat) :=
  match encoding with
  | .utf8 => some (utf8Bytes c)
  | .ascii => if c.toNat < 0x80 then some [c.toNat] else none
  | .latin1 => if c.toNat < 0x100 then some [c.toNat] else none
  | .utf16 order => some ((utf16Units c).flatMap ((order.getD .little).bytes 2))
  | .utf32 order => some ((order.getD .little).bytes 4 c.toNat)

/-- A number behind a backslash, with as many digits as it needs. -/
def escape (n : Nat) : List Char :=
  '\\' :: (if n < 0x100 then 'x' :: Text.hex 2 n
    else if n < 0x10000 then 'u' :: Text.hex 4 n
    else 'U' :: Text.hex 8 n)

/-- What stands in the place of a character that an encoding lacks. -/
def substitute (handling : Handling) (c : Char) : List Char :=
  match handling with
  | .ignore => []
  | .replace => ['?']
  | .numbered => '&' :: '#' :: Nat.toDigits 10 c.toNat ++ [';']
  | .escaped => escape c.toNat

/-- The bytes of a text; nothing where it has characters that the encoding lacks. -/
def encode (encoding : Encoding) (handling : Option Handling) (cs : List Char) :
    Option (List Nat) := do
  let front := match encoding with
    | .utf16 none => [0xFF, 0xFE]
    | .utf32 none => [0xFF, 0xFE, 0, 0]
    | _ => []
  let bytes ← cs.mapM fun c =>
    match encoding.charBytes? c, handling with
    | some bs, _ => some bs
    | none, some h => some ((substitute h c).map Char.toNat)
    | none, none => none
  return front ++ bytes.flatten

/-! ## Decoding -/

/-- What may follow the first byte of a character in UTF-8: the least and the greatest next byte,
and how many bytes follow that one. -/
def utf8Followers? (b : Nat) : Option (Nat × Nat × Nat) :=
  if b < 0xC2 then none
  else if b < 0xE0 then some (0x80, 0xBF, 0)
  else if b == 0xE0 then some (0xA0, 0xBF, 1)
  else if b == 0xED then some (0x80, 0x9F, 1)
  else if b < 0xF0 then some (0x80, 0xBF, 1)
  else if b == 0xF0 then some (0x90, 0xBF, 2)
  else if b < 0xF4 then some (0x80, 0xBF, 2)
  else if b == 0xF4 then some (0x80, 0x8F, 2)
  else none

/-- The bytes at the front that belong to one character in UTF-8, or that begin one and do not go
on. -/
def utf8Front : List Nat → List Nat
  | [] => []
  | b :: bs =>
    match utf8Followers? b, bs with
    | some (low, high, more), c :: rest =>
      if low ≤ c && c ≤ high then
        b :: c :: (rest.take more).takeWhile fun d => 0x80 ≤ d && d < 0xC0
      else [b]
    | _, _ => [b]

/-- The character of a number, if it is one. -/
def charOf? (n : Nat) : Option Char := if n.isValidChar then some (Char.ofNat n) else none

/-- The character at the front of bytes, if they begin with one, and how many bytes it or what
stands in its place takes. -/
def front (encoding : Encoding) (bs : List Nat) : Option Char × Nat :=
  match encoding with
  | .utf8 =>
    let bytes := utf8Front bs
    let s := String.fromUTF8? (bytes.map UInt8.ofNat).toByteArray
    (s.bind fun s => s.toList.head?, bytes.length)
  | .ascii => (bs.head?.bind fun b => if b < 0x80 then some (Char.ofNat b) else none, 1)
  | .latin1 => (bs.head?.map Char.ofNat, 1)
  | .utf16 order =>
    let order := order.getD .little
    let high := order.number (bs.take 2)
    let low := order.number ((bs.drop 2).take 2)
    if bs.length < 2 then (none, 1)
    else if high < 0xD800 || 0xE000 ≤ high then (charOf? high, 2)
    else if 4 ≤ bs.length && high < 0xDC00 && 0xDC00 ≤ low && low < 0xE000 then
      (charOf? (0x10000 + (high - 0xD800) * 0x400 + (low - 0xDC00)), 4)
    else if bs.length < 4 && high < 0xDC00 then (none, bs.length)
    else (none, 2)
  | .utf32 order =>
    if bs.length < 4 then (none, bs.length)
    else (charOf? ((order.getD .little).number (bs.take 4)), 4)

/-- What stands in the place of bytes that are no character. -/
def stand (handling : Handling) (bs : List Nat) : List Char :=
  match handling with
  | .ignore => []
  | .replace | .numbered => ['\uFFFD']
  | .escaped => bs.flatMap escape

/-- The characters of bytes, where a certain number of steps is enough. -/
def decodeFrom (encoding : Encoding) (handling : Option Handling) :
    Nat → List Nat → Option (List Char)
  | 0, _ | _, [] => some []
  | fuel + 1, bs => do
    let (found, size) := encoding.front bs
    let rest ← decodeFrom encoding handling fuel (bs.drop size)
    match found, handling with
    | some c, _ => return c :: rest
    | none, some .numbered | none, none => none
    | none, some h => return stand h (bs.take size) ++ rest

/-- The encoding whose order of bytes a mark in front says, and the bytes behind the mark. -/
def afterMark (encoding : Encoding) (bs : List Nat) : Encoding × List Nat :=
  match encoding, bs with
  | .utf32 none, 0xFF :: 0xFE :: 0 :: 0 :: rest => (.utf32 (some .little), rest)
  | .utf32 none, 0 :: 0 :: 0xFE :: 0xFF :: rest => (.utf32 (some .big), rest)
  | .utf16 none, 0xFF :: 0xFE :: rest => (.utf16 (some .little), rest)
  | .utf16 none, 0xFE :: 0xFF :: rest => (.utf16 (some .big), rest)
  | encoding, bs => (encoding, bs)

/-- The text of bytes; nothing where they have none. -/
def decode (encoding : Encoding) (handling : Option Handling) (bs : List Nat) :
    Option (List Char) :=
  let (encoding, bs) := encoding.afterMark bs
  decodeFrom encoding handling bs.length bs

end Encoding

end PromptContract
