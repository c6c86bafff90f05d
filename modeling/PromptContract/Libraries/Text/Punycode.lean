/-!
# Punycode

The form in which a label of a host name beyond ASCII is written in ASCII. The ASCII characters come
first; behind a hyphen follow the others in increasing order, each by the number of places and
characters that a decoder skips to get there. Such a number is written with digits to base 36, least
digit first, whose thresholds follow the numbers seen so far. `encode` writes a label, and `decode?`
reads one.
-/

namespace PromptContract.Punycode

/-- A digit of base 36: the letters, then the ASCII digits. -/
def digit (d : Nat) : Char := Char.ofNat (if d < 26 then 0x61 + d else 0x30 + d - 26)

/-- The least value of a digit that is not the last one, at a distance `k` in steps of the base. -/
def threshold (k bias : Nat) : Nat :=
  if k ≤ bias then 1 else if bias + 26 ≤ k then 26 else k - bias

theorem one_le_threshold (k bias : Nat) : 1 ≤ threshold k bias := by
  unfold threshold
  split
  · omega
  · split <;> omega

/-- The digits of a number. -/
def digits (bias k n : Nat) : List Char :=
  let t := threshold k bias
  if n < t then [digit n]
  else digit (t + (n - t) % (36 - t)) :: digits bias (k + 36) ((n - t) / (36 - t))
termination_by n
decreasing_by
  have h := one_le_threshold k bias
  have hle : (n - threshold k bias) / (36 - threshold k bias) ≤ n - threshold k bias :=
    Nat.div_le_self _ _
  omega

/-- Scales a number down by 35 until it is small, and counts the steps of the base. -/
def scaled (n k : Nat) : Nat :=
  if 455 < n then scaled (n / 35) (k + 36) else k + 36 * n / (n + 38)
termination_by n
decreasing_by exact Nat.div_lt_self (by omega) (by omega)

/-- The bias behind a number, where `count` characters are written. -/
def adapted (n count : Nat) (isFirst : Bool) : Nat :=
  let n := if isFirst then n / 700 else n / 2
  scaled (n + n / count) 0

/-- What has been written, and what the next number starts from. -/
structure Writer where
  out : List Char
  delta : Nat
  bias : Nat
  /-- How many characters are written. -/
  count : Nat

/-- Goes over one character of the label while the characters of code point `m` are written. -/
def Writer.pass (basic m : Nat) (w : Writer) (c : Char) : Writer :=
  if c.toNat < m then { w with delta := w.delta + 1 }
  else if c.toNat = m then
    { out := w.out ++ digits w.bias 36 w.delta
      delta := 0
      bias := adapted w.delta (w.count + 1) (w.count == basic)
      count := w.count + 1 }
  else w

/-- Writes the characters of code points in increasing order, of which all below `n` are written. -/
def Writer.write (label : List Char) (basic n : Nat) (w : Writer) : List Nat → Writer
  | [] => w
  | m :: rest =>
    let w := { w with delta := w.delta + (m - n) * (w.count + 1) }
    let w := label.foldl (Writer.pass basic m) w
    Writer.write label basic (m + 1) { w with delta := w.delta + 1 } rest

/-- A label in ASCII. -/
def encode (label : List Char) : List Char :=
  let basic := label.filter (·.toNat < 128)
  let others := ((label.filter (128 ≤ ·.toNat)).map Char.toNat).eraseDups.mergeSort
  let w := Writer.write label basic.length 128 ⟨[], 0, 72, basic.length⟩ others
  basic ++ (if basic.isEmpty then [] else ['-']) ++ w.out

/-! ## Reading -/

/-- The value of a digit of base 36. Capitals are digits too. -/
def digitValue? (c : Char) : Option Nat :=
  let n := c.toLower.toNat
  if 0x61 ≤ n && n ≤ 0x7A then some (n - 0x61)
  else if 0x30 ≤ n && n ≤ 0x39 then some (n - 0x30 + 26)
  else none

/-- Reads the rest of a number, of which the digits so far make a value, and gives what follows it.
The last digit is below its threshold. -/
def number? (bias k weight value : Nat) : List Char → Option (Nat × List Char)
  | [] => none
  | c :: cs => do
    let d ← digitValue? c
    let t := threshold k bias
    if d < t then return (value + d * weight, cs)
    else number? bias (k + 36) (weight * (36 - t)) (value + d * weight) cs

/-- What has been read, the place and the code point that the next number counts from. -/
structure Reader where
  out : List Char
  place : Nat
  code : Nat
  bias : Nat
  isFirst : Bool

/-- Puts the character in its place that a number leads to. There must be such a character. -/
def Reader.put? (r : Reader) (delta : Nat) : Option Reader :=
  let room := r.out.length + 1
  let code := r.code + (r.place + delta) / room
  let place := (r.place + delta) % room
  if code.isValidChar then
    some ⟨r.out.take place ++ Char.ofNat code :: r.out.drop place, place + 1, code,
      adapted delta room r.isFirst, false⟩
  else none

/-- Reads up to `count` numbers. -/
def Reader.read? : Nat → Reader → List Char → Option (List Char)
  | _, r, [] => some r.out
  | 0, _, _ => none
  | count + 1, r, cs => do
    let (delta, rest) ← number? r.bias 36 1 0 cs
    read? count (← r.put? delta) rest

/-- The label that a text in ASCII stands for. The ASCII characters end at the last hyphen, which is
left out where there are none. -/
def decode? (cs : List Char) : Option (List Char) :=
  let behind := (cs.reverse.takeWhile (· != '-')).reverse
  let basic := cs.take (cs.length - behind.length - 1)
  if basic.isEmpty && cs.contains '-' then none
  else Reader.read? behind.length ⟨basic, 0, 128, 72, true⟩ behind

end PromptContract.Punycode
