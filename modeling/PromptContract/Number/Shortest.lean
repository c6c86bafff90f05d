import PromptContract.Number.Binary64

/-!
# The shortest decimal form of a floating-point number

A finite number is written with the fewest significant digits that read back as the same number, and
among those with the digits nearest to it. The reals that read back as a number form an interval
around it, whose ends belong to it when the significand is even. For each count of digits only the
two neighbours of the number on that decimal grid need a test, because a grid point inside the
interval puts one of the two neighbours inside. `Decimal.text` lays the digits out: without an
exponent where the decimal exponent is at least -4 and below 16. `Decimal.plain` never writes an
exponent, nor a fraction of zero.
-/

namespace PromptContract.Decimal

/-- The reals that round to a number of `units` units, in quarters of a unit: both ends, and whether
the ends belong to it. Below a power of two the spacing halves. -/
def interval (units : Nat) : Nat × Nat × Bool :=
  let s := Binary64.shift units
  let step := Nat.pow 2 s
  let below := if s ≠ 0 && units == Nat.pow 2 (s + 52) then step else 2 * step
  (4 * units - below, 4 * units + 2 * step, units / step % 2 == 0)

/-- The decimal point of `num / den`: the `k` with `10^(k-1) ≤ num / den < 10^k`. The binary
logarithms give an estimate that leaves three candidates. -/
def pointOf (num den : Nat) : Int :=
  let estimate : Int := ((num.log2 : Int) - den.log2) * 30103 / 100000
  let reaches (k : Int) : Bool :=
    if 0 ≤ k then den * Nat.pow 10 k.toNat ≤ num else den ≤ num * Nat.pow 10 (-k).toNat
  if reaches (estimate + 1) then estimate + 2
  else if reaches estimate then estimate + 1
  else estimate

/-- The neighbour of a number of `units` units on the decimal grid of `n` digits that reads back as
that number; the nearer one where both do, and of two equally near the even one. -/
def onGrid? (units : Nat) (point : Int) (n : Nat) : Option Nat :=
  let (low, high, closed) := interval units
  -- One step of the grid is `up / down` units.
  let k := point - n
  let up := Binary64.one * Nat.pow 10 k.toNat
  let down := Nat.pow 10 (-k).toNat
  let inside (d : Nat) : Bool :=
    let at4 := 4 * d * up
    if closed then low * down ≤ at4 && at4 ≤ high * down else low * down < at4 && at4 < high * down
  let floor := units * down / up
  let twiceRest := 2 * (units * down % up)
  match inside floor, inside (floor + 1) with
  | true, true =>
    some (if twiceRest < up || (twiceRest == up && floor % 2 == 0) then floor else floor + 1)
  | true, false => some floor
  | false, true => some (floor + 1)
  | false, false => none

/-- The shortest digits of a positive number of units, without zeros at their end, and the place
of the decimal point: the number is `0.d₁d₂… · 10^point`. Seventeen digits always suffice. -/
def shortest (units : Nat) : List Char × Int :=
  let point := pointOf units Binary64.one
  let grid := (List.range' 1 17).findSome? fun n => (onGrid? units point n).map (n, ·)
  let (n, d) := grid.getD (1, 0)
  let digits := Nat.toDigits 10 d
  -- A neighbour may carry into a power of ten, which is one digit longer than its grid.
  ((digits.reverse.dropWhile (· == '0')).reverse, point + (digits.length - n : Int))

/-- A row of zeros. -/
def zeros (n : Nat) : List Char := List.replicate n '0'

/-- Lays out digits and decimal point. The exponent has a sign and at least two digits. -/
def layOut (digits : List Char) (point : Int) : List Char :=
  if -4 < point && point ≤ 16 then
    if point ≤ 0 then '0' :: '.' :: zeros (-point).toNat ++ digits
    else if digits.length ≤ point.toNat then
      digits ++ zeros (point.toNat - digits.length) ++ ['.', '0']
    else digits.take point.toNat ++ '.' :: digits.drop point.toNat
  else
    let e := point - 1
    let exponent := Nat.toDigits 10 e.natAbs
    let fraction := if digits.length ≤ 1 then [] else '.' :: digits.drop 1
    digits.take 1 ++ fraction ++ 'e' :: (if e < 0 then '-' else '+')
      :: zeros (2 - exponent.length) ++ exponent

/-- Lays out digits and decimal point without an exponent. -/
def layOutPlainly (digits : List Char) (point : Int) : List Char :=
  if point ≤ 0 then '0' :: '.' :: zeros (-point).toNat ++ digits
  else if digits.length ≤ point.toNat then digits ++ zeros (point.toNat - digits.length)
  else digits.take point.toNat ++ '.' :: digits.drop point.toNat

/-- The written form of a bound that a number is held against. -/
def plain : Binary64 → String
  | .nan => "NaN"
  | .infinite negative => if negative then "-inf" else "inf"
  | .finite negative units =>
    let magnitude :=
      if units = 0 then ['0']
      else
        let (digits, point) := shortest units
        layOutPlainly digits point
    String.ofList (if negative then '-' :: magnitude else magnitude)

/-- The written form of a floating-point number. -/
def text : Binary64 → String
  | .nan => "nan"
  | .infinite negative => if negative then "-inf" else "inf"
  | .finite negative units =>
    let magnitude :=
      if units = 0 then ['0', '.', '0']
      else
        let (digits, point) := shortest units
        layOut digits point
    String.ofList (if negative then '-' :: magnitude else magnitude)

end PromptContract.Decimal
