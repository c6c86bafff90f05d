import PromptContract.Libraries.Evaluation.Layout

/-!
# Texts with percent signs

A text takes values in the places of its percent signs (`Layout.filled`). Behind a percent sign
stand the key of a value, perhaps, and how it is laid out. Bytes do the same with the characters
that they are the numbers of (`Layout.filledBytes`), and take bytes where a text takes any value.
-/

namespace PromptContract.Layout

/-- A width or a precision, which a star takes from a row of values, and what is left of the row. -/
def spanSize (cs : List Char) (vs : List Value) :
    Except Failure (Option Int × List Char × List Value) :=
  match cs, vs with
  | '*' :: cs, .int n :: vs => .ok (some n, cs, vs)
  | '*' :: cs, .bool b :: vs => .ok (some (boolInt b), cs, vs)
  | '*' :: _, _ => .error .wrongKind
  | cs, vs => .ok ((spanNumber cs).1.map Int.ofNat, (spanNumber cs).2, vs)

/-- A width or a precision below a limit. -/
def sizeBelow (limit : Nat) (isGiven : Bool) (n : Int) : Except Failure Int :=
  if n.natAbs < limit then .ok n
  else .error (if isGiven then .numberTooLarge else .unreadable)

/-- The key of the value that a layout behind a percent sign is for, and what is behind it. -/
def spanKey : List Char → Nat → Option (List Char × List Char)
  | [], _ => none
  | ')' :: cs, 0 => some ([], cs)
  | c :: cs, depth =>
    let depth := if c == '(' then depth + 1 else if c == ')' then depth - 1 else depth
    (spanKey cs depth).map fun (key, rest) => (c :: key, rest)

/-- The layout that stands behind a percent sign and the key of its value, if there is one; what is
behind it, and the values that it leaves. -/
def spanDirective (cs : List Char) (vs : List Value) :
    Except Failure (Layout × List Char × List Value) := do
  let (flags, cs) := (cs.takeWhile "#0- +".toList.contains, cs.dropWhile "#0- +".toList.contains)
  let isStar (cs : List Char) := cs.head? == some '*'
  let (width, behind, vs) ← spanSize cs vs
  let width ← sizeBelow (Nat.pow 2 63) (isStar cs) (width.getD 0)
  let (precision, cs, vs) ← match behind with
    | '.' :: cs => do
      let (n, rest, vs) ← spanSize cs vs
      let n ← sizeBelow precisionLimit (isStar cs) (n.getD 0)
      pure (some n.toNat, rest, vs)
    | cs => pure (none, cs, vs)
  match (match cs with | c :: rest => if "hlL".toList.contains c then rest else cs | [] => []) with
  | [] => throw .unreadable
  | c :: rest =>
    let isLeft := flags.contains '-' || width < 0
    let fills := flags.contains '0' && !isLeft
    return ({
      fill := if fills then '0' else ' ', hasZero := fills
      alignment := some (if isLeft then .left else if fills then .behindSign else .right)
      sign := if flags.contains '+' then some '+' else if flags.contains ' ' then some ' ' else none
      dropsZeroSign := false
      isMarked := flags.contains '#', width := width.natAbs, grouping := none, precision
      kind := some c }, rest, vs)

/-- A number behind its sign in a layout behind a percent sign, which may ask for a least number of
digits. -/
def filledInteger (l : Layout) (n : Int) : Except Failure String := do
  let (base, mark) := (bases.lookup (l.kind.getD 'd')).getD (10, "")
  if base == 10 && !(Value.int n).isWritable then throw .unreadable
  let ds := Decimal.padZeros (← precisionOf l 0) (Nat.toDigits base n.natAbs)
  l.padded .right (signOf l (n < 0) ++ if l.isMarked then mark.toList else [])
    (if l.kind == some 'X' then ds.map Char.toUpper else ds)

/-- The bytes that a value holds, if it holds any. -/
def bytesOf? : Value → Option (List Nat)
  | .object (.bytes bs) | .object (.byteArray bs) => some bs
  | _ => none

/-- The characters that bytes are the numbers of. -/
def signsOf (bs : List Nat) : List Char := bs.map Char.ofNat

/-- The only character of a value, or the one of a number, for a text or for bytes. -/
def character (inBytes : Bool) (v : Value) : Except Failure (List Char) :=
  match v.index?, inBytes with
  | some n, _ =>
    if n < 0 || (if inBytes then 256 else 0x110000) ≤ n then .error .numberTooLarge
    else .ok [Char.ofNat n.toNat]
  | none, true =>
    match bytesOf? v with
    | some [b] => .ok [Char.ofNat b]
    | _ => .error .wrongKind
  | none, false =>
    match v.comparedText?.map String.toList with
    | some [c] => .ok [c]
    | _ => .error .wrongKind

/-- What is written for a value in a layout behind a percent sign, in a text or in bytes. -/
def filling (inBytes : Bool) (l : Layout) (v : Value) : Except Failure String :=
  let plain : Layout := { l with
    fill := ' ', alignment := if l.alignment == some .left then some .left else some .right }
  let textual (s : List Char) : Except Failure String :=
    plain.padded .right [] ((l.precision.map s.take).getD s)
  match l.kind.getD ' ', inBytes with
  | 's', true | 'b', true =>
    match bytesOf? v with
    | some bs => textual (signsOf bs)
    | none => .error .wrongKind
  | 's', false => do textual (← v.toDisplay).toList
  | 'r', false => do textual (← v.toQuoted).toList
  | 'a', _ | 'r', true => do textual (asciiForm (← v.toQuoted)).toList
  | 'c', _ => do plain.padded .right [] (← character inBytes v)
  | kind, _ => numeral kind
where
  /-- What is written for a number. -/
  numeral : Char → Except Failure String
  | 'd' | 'i' | 'u' =>
    match v.number? with
    | some _ => do filledInteger { l with kind := some 'd' } (← v.toInteger)
    | none => .error .wrongKind
  | 'x' | 'X' | 'o' =>
    match v with
    | .int n => filledInteger l n
    | .bool b => filledInteger l (boolInt b)
    | _ => .error .wrongKind
  | 'e' | 'E' | 'f' | 'F' | 'g' | 'G' =>
    match v.number? with
    | some (.float x) => ofReal l x
    | some (.int n) =>
      match Binary64.ofInt? n with
      | some x => ofReal l x
      | none => .error .numberTooLarge
    | none => .error .wrongKind
  | _ => .error .unreadable

/-- The value of a key in a map for a text or for bytes. -/
def keyed? (inBytes : Bool) (es : Entries) (key : List Char) : Option Value :=
  if inBytes then es.lookup? (.object (.bytes (key.map Char.toNat)))
  else es.get? (String.ofList key)

/-- A text with values in the places of percent signs: under their keys, or from a row of values in
order. The rest of the row comes out, too, and nothing of it where a key was used. -/
def fillIn (inBytes : Bool) (es : Option Entries) : Nat → List Char → List Value →
    Except Failure (List Char × List Value)
  | 0, _, vs | _, [], vs => .ok ([], vs)
  | fuel + 1, '%' :: '%' :: cs, vs => do
    let (rest, vs) ← fillIn inBytes es fuel cs vs
    return ('%' :: rest, vs)
  | fuel + 1, '%' :: cs, vs => do
    let (cs, vs) ← match cs, es with
      | '(' :: _, none => throw .wrongKind
      | '(' :: rest, some es =>
        match spanKey rest 0 with
        | none => throw .unreadable
        | some (key, rest) =>
          match keyed? inBytes es key with
          | some v => pure (rest, [v])
          | none => throw .missingEntry
      | cs, _ => pure (cs, vs)
    let (l, cs, vs) ← spanDirective cs vs
    match vs with
    | [] => throw .wrongKind
    | v :: vs =>
      let text ← filling inBytes l v
      let (rest, vs) ← fillIn inBytes es fuel cs vs
      return (text.toList ++ rest, vs)
  | fuel + 1, c :: cs, vs => do
    let (rest, vs) ← fillIn inBytes es fuel cs vs
    return (c :: rest, vs)

/-- Whether a value has values under keys or in places, and is neither a tuple nor a text. -/
def isMapping : Value → Bool
  | .map _ | .list _ | .object (.bytes _) | .object (.byteArray _) | .object (.range ..)
  | .generic .. => true
  | _ => false

/-- Characters with a value or the values of a tuple in the places of percent signs. A map and a
list need not be used, nor a text in bytes. -/
def filledSigns (inBytes : Bool) (cs : List Char) (v : Value) : Except Failure (List Char) := do
  let (es, vs) := match v with
    | .map es => (some es, [v])
    | .tuple vs => (none, vs)
    | v => (none, [v])
  let (signs, rest) ← fillIn inBytes es (cs.length + 1) cs vs
  let isLeft := match v with
    | .object (.bytes _) | .object (.byteArray _) => !inBytes
    | v => isMapping v || inBytes && v.comparedText?.isSome
  if rest.isEmpty || isLeft then return signs else throw .wrongKind

/-- A text with a value or the values of a tuple in the places of its percent signs. -/
def filled (s : String) (v : Value) : Except Failure String := do
  return String.ofList (← filledSigns false s.toList v)

/-- Bytes with a value or the values of a tuple in the places of their percent signs. -/
def filledBytes (bs : List Nat) (v : Value) : Except Failure (List Nat) := do
  return (← filledSigns true (signsOf bs) v).map Char.toNat

end PromptContract.Layout
