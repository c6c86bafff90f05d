import PromptContract.Libraries.Evaluation.TextMember

/-!
# What bytes offer

The members of bytes that can be called. Most do what the members of texts do, on signs that stand
for the bytes: a character of ASCII for its byte, and a character that is neither a letter nor a
blank for every other byte (`BytesMember.signs`).
-/

namespace PromptContract.BytesMember

/-- The first of the characters that stand for bytes beyond ASCII. -/
def signStart : Nat := 0xE000

/-- The signs that stand for bytes. -/
def signs (bs : List Nat) : List Char :=
  bs.map fun b => Char.ofNat (if b < 0x80 && !(0x1C ≤ b && b < 0x20) then b else signStart + b)

/-- The byte that a sign stands for. -/
def byteOf (c : Char) : Nat := if c.toNat < 0x80 then c.toNat else c.toNat - signStart

/-- A row of bytes as a value. -/
def ofBytes (bs : List Nat) : Value := .object (.bytes bs)

/-- A result with texts of signs, with the bytes that they stand for. -/
def fromSigns : Value → Value
  | .text s => ofBytes (s.toList.map byteOf)
  | .list vs => .list (allFromSigns vs)
  | .tuple vs => .tuple (allFromSigns vs)
  | v => v
where
  /-- The same for the values of a row. -/
  allFromSigns : List Value → List Value
    | [] => []
    | v :: vs => fromSigns v :: allFromSigns vs

/-- An argument with signs for bytes. Texts are not taken, and an integer stands for a byte where a
part may be given by one. -/
def toSigns (takesByte : Bool) (v : Value) : Except Failure Value :=
  match Layout.bytesOf? v, v with
  | some bs, _ => .ok (TextMember.ofChars (signs bs))
  | none, .tuple vs => .tuple <$> vs.mapM fun v =>
    match Layout.bytesOf? v with
    | some bs => .ok (TextMember.ofChars (signs bs))
    | none => .error .wrongKind
  | none, v =>
    match v.comparedText?, v.index? with
    | some _, _ => .error .wrongKind
    | none, some n =>
      if !takesByte then .ok v
      else if 0 ≤ n && n < 256 then .ok (TextMember.ofChars (signs [n.toNat]))
      else .error .unreadable
    | none, none => .ok v

/-- Arguments with signs for bytes. Members that look for a part take a byte first. -/
def allToSigns (name : String) : List Value → Except Failure (List Value)
  | [] => .ok []
  | v :: vs => do
    let takesByte := ["find", "rfind", "index", "rindex", "count"].contains name
    return (← toSigns takesByte v) :: (← vs.mapM (toSigns false))

/-- Hexadecimal digits of bytes, in groups from the end or from the front with a sign between. -/
def hexText (bs : List Nat) (between : List Char) (size : Int) : String :=
  let cut (bs : List Nat) : List (List Char) := bs.zipIdx.map fun (b, i) =>
    (if i != 0 && i % size.natAbs == 0 then between else []) ++ Text.hex 2 b
  let cutFromEnd : List (List Char) := (bs.reverse.zipIdx.map fun (b, i) =>
    Text.hex 2 b ++ if i != 0 && i % size.natAbs == 0 then between else []).reverse
  String.ofList (if size == 0 then bs.flatMap (Text.hex 2)
    else if size < 0 then (cut bs).flatten else cutFromEnd.flatten)

/-- The bytes that hexadecimal digits say, with blanks between two of them. -/
def ofHex? : List Char → Option (List Nat)
  | [] => some []
  | c :: cs =>
    if c == ' ' || (0x09 ≤ c.toNat && c.toNat < 0x0E) then ofHex? cs
    else
      match cs with
      | [] => none
      | d :: rest => do
        let high ← Quotation.hexDigit? c
        let low ← Quotation.hexDigit? d
        return (16 * high + low) :: (← ofHex? rest)

/-- What a table of 256 bytes makes of bytes, without some of them. -/
def translated (bs : List Nat) (table gone : Value) : Except Failure Value :=
  match Layout.bytesOf? gone with
  | some gone =>
    let kept := bs.filter fun b => !gone.contains b
    match table, Layout.bytesOf? table with
    | .null, _ => .ok (ofBytes kept)
    | _, some table =>
      if table.length != 256 then .error .unreadable
      else .ok (ofBytes (kept.map fun b => table[b]?.getD b))
    | _, none => .error .wrongKind
  | none => .error .wrongKind

/-- The table of 256 bytes that takes each of some bytes to another. -/
def translation (front behind : List Nat) : Except Failure Value :=
  if front.length != behind.length then .error .unreadable
  else
    let pairs := (front.zip behind).reverse
    .ok (ofBytes ((List.range 256).map fun b => (pairs.lookup b).getD b))

/-- What a member of bytes gives for arguments; nothing where it is not followed up. -/
def call? (name : String) (bs : List Nat) (placed : List Value) (named : List (String × Value)) :
    Except Failure (Option Value) := do
  match name, placed with
  | "decode", placed =>
    match ← TextMember.bind ["encoding", "errors"] placed named with
    | [encoding, errors] => TextMember.decoded bs encoding errors
    | _ => throw .wrongKind
  | "hex", [] => return some (.text (hexText bs [] 0))
  | "hex", mark :: size =>
    let size ← TextMember.indexOf size.head? 1
    match mark with
    | .text s =>
      if s.length == 1 && Text.isAscii s.toList then return some (.text (hexText bs s.toList size))
      else throw .unreadable
    | .object (.bytes [b]) =>
      if b < 0x80 then return some (.text (hexText bs [Char.ofNat b] size)) else throw .unreadable
    | .object (.bytes _) => throw .unreadable
    | _ => throw .wrongKind
  | "fromhex", [v] =>
    match ofHex? (← TextMember.textOf v) with
    | some bs => return some (ofBytes bs)
    | none => throw .unreadable
  | "translate", [table] =>
    if named.any fun n => n.1 != "delete" then throw .wrongKind
    return some (← translated bs table ((named.lookup "delete").getD (ofBytes [])))
  | "translate", [table, gone] => return some (← translated bs table gone)
  | "maketrans", [front, behind] =>
    match Layout.bytesOf? front, Layout.bytesOf? behind with
    | some front, some behind => return some (← translation front behind)
    | _, _ => throw .wrongKind
  | "isascii", [] => return some (.bool (bs.all (· < 0x80)))
  | "splitlines", placed =>
    match ← TextMember.bind ["keepends"] placed named with
    | [keep] =>
      let lines := TextMember.linesOf ['\n', '\r'] (← TextMember.flagOf keep) [] (signs bs)
      return some (.list (lines.map fun line => ofBytes (line.map byteOf)))
    | _ => throw .wrongKind
  | name, placed =>
    let named ← named.mapM fun (s, v) => do return (s, ← toSigns false v)
    let result ← TextMember.call? name (signs bs) (← allToSigns name placed) named
    return result.map fromSigns

end PromptContract.BytesMember
