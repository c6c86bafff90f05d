import PromptContract.Number.Complex

/-!
# Powers, roots and quotients

Powers of floating-point numbers are those of the machine's own numbers (`Binary64.power`), which
have the same bits. Powers of a complex number with a small whole exponent are products; the others
are found by length and angle (`Complex.power?`). The size of a complex number is the exact root of
a sum of squares, rounded once (`Complex.magnitude`).
-/

namespace PromptContract

namespace Binary64

/-- The bits of a number in the interchange format of 64 bits. -/
def toBits : Binary64 → UInt64
  | .nan => 0x7FF8000000000000
  | .infinite negative => (if negative then 0xFFF0000000000000 else 0x7FF0000000000000)
  | .finite negative units =>
    let s := shift units
    let magnitude := s * Nat.pow 2 52 + units / Nat.pow 2 s
    UInt64.ofNat (if negative then magnitude + Nat.pow 2 63 else magnitude)

/-- The number of some bits in the interchange format of 64 bits. -/
def ofBits (bits : UInt64) : Binary64 :=
  let n := bits.toNat
  let negative := Nat.pow 2 63 ≤ n
  let exponent := n / Nat.pow 2 52 % Nat.pow 2 11
  let digits := n % Nat.pow 2 52
  if exponent == 2047 then (if digits == 0 then .infinite negative else .nan)
  else if exponent == 0 then .finite negative digits
  else .finite negative ((Nat.pow 2 52 + digits) * Nat.pow 2 (exponent - 1))

/-- What a function of the machine's numbers gives for a number. -/
def through (f : Float → Float) (x : Binary64) : Binary64 :=
  ofBits (f (Float.ofBits x.toBits)).toBits

/-- What a function of two of the machine's numbers gives for two numbers. -/
def throughBoth (f : Float → Float → Float) (x y : Binary64) : Binary64 :=
  ofBits (f (Float.ofBits x.toBits) (Float.ofBits y.toBits)).toBits

/-- A power of a number. -/
def power (x y : Binary64) : Binary64 := throughBoth Float.pow x y

/-- The quotient of two numbers, where a division by a zero gives no number. -/
def quotient (x y : Binary64) : Binary64 := (x.div? y).getD .nan

/-- The greatest number whose square is not greater than a given one. -/
def wholeRoot (n : Nat) : Nat :=
  if h : n = 0 then 0
  else
    let r := 2 * wholeRoot (n / 4)
    if (r + 1) * (r + 1) ≤ n then r + 1 else r
termination_by n
decreasing_by omega

/-- The number nearest to the root of a number of squared units, from halfway the even one. -/
def root (n : Nat) : Binary64 :=
  let step := Nat.pow 2 (shift (wholeRoot n))
  let q := wholeRoot n / step
  let halfway := (2 * q + 1) * step
  let up := if 4 * n == halfway * halfway then q % 2 == 1 else halfway * halfway < 4 * n
  let units := (if up then q + 1 else q) * step
  if limit ≤ units then .infinite false else .finite false units

/-- A number rounded to some decimal places, from halfway to the even one. A negative number of
places stands for places in front of the point. -/
def toPlaces (x : Binary64) (places : Int) : Binary64 :=
  match x with
  | .finite negative units =>
    if 323 < places then x
    else if places < -308 then .finite negative 0
    else
      let up := Nat.pow 10 places.toNat
      let down := Nat.pow 10 (-places).toNat
      let rounded := divNearest (units * up) (one * down)
      ofRatio negative (rounded * down) up
  | x => x

end Binary64

namespace Complex

open Binary64

/-- The size of a number. -/
def magnitude (z : Complex) : Binary64 :=
  match z.re, z.im with
  | .infinite _, _ | _, .infinite _ => .infinite false
  | .finite _ m, .finite _ n => root (m * m + n * n)
  | _, _ => .nan

/-- The quotient of two numbers; nothing for a division by zero. -/
def quotient? (w z : Complex) : Option Complex :=
  let size (x : Binary64) := if x.isNegative then x.neg else x
  match (size z.re).compare? (size z.im) with
  | none => some ⟨.nan, .nan⟩
  | some .lt =>
    let ratio := z.re.quotient z.im
    let below := z.re * ratio + z.im
    some ⟨(w.re * ratio + w.im).quotient below, (w.im * ratio - w.re).quotient below⟩
  | some _ =>
    if !z.re.isNonzero then none
    else
      let ratio := z.im.quotient z.re
      let below := z.re + z.im * ratio
      some ⟨(w.re + w.im * ratio).quotient below, (w.im - w.re * ratio).quotient below⟩

/-- One. -/
def one : Complex := ofReal (ofInt 1)

/-- The product of the squares `z, z², z⁴, …` whose places have a one in the binary digits of an
exponent, times `result`. -/
def product (fuel : Nat) (z result : Complex) (n : Nat) : Complex :=
  match fuel with
  | 0 => result
  | fuel + 1 =>
    if n = 0 then result
    else product fuel (z * z) (if n % 2 == 1 then result * z else result) (n / 2)

/-- A power with a whole exponent; nothing for a division by zero. -/
def wholePower? (z : Complex) (n : Int) : Option Complex :=
  let p := product (n.natAbs + 1) z one n.natAbs
  if 0 < n then some p else one.quotient? p

/-- The number of a given size at a given angle. -/
def polar (size angle : Binary64) : Complex :=
  ⟨size * angle.through Float.cos, size * angle.through Float.sin⟩

/-- A power of a number by its size and its angle. -/
def polarPower (w z : Complex) : Complex :=
  let size := w.magnitude
  let angle := throughBoth Float.atan2 w.im w.re
  let grown := size.power z.re
  let turned := angle * z.re
  if z.im.isNonzero then
    polar (grown.quotient ((angle * z.im).through Float.exp))
      (turned + z.im * size.through Float.log)
  else polar grown turned

/-- A power of a number; nothing for a power of zero that is none. -/
def power? (w z : Complex) : Option Complex :=
  match z.re.truncate? with
  | some n =>
    if !z.im.isNonzero && z.re.isWhole && n.natAbs ≤ 100 then w.wholePower? n
    else if !z.isNonzero then some one
    else if !w.isNonzero then
      if z.im.isNonzero || z.re.isNegative then none else some (ofReal .zero)
    else some (polarPower w z)
  | none =>
    if w.isNonzero then some (polarPower w z)
    else if z.im.isNonzero || z.re.isNegative then none
    else some (ofReal .zero)

/-- Whether both parts are finite. -/
def isFinite (z : Complex) : Bool := z.re.isFinite && z.im.isFinite

end Complex

end PromptContract
