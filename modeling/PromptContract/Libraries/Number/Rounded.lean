import PromptContract.Number.Shortest

/-!
# Decimal forms of a given precision

A floating-point number rounded to some places behind the point (`Decimal.toPlaces`), to some
significant digits with an exponent (`Decimal.toDigits`), or to the shorter of both forms
(`Decimal.general`). The digits are those of the exact value, rounded once; from halfway the even
one is taken. All forms are of numbers of units, without a sign.
-/

namespace PromptContract.Decimal

/-- Puts zeros in front of digits up to a length. -/
def padZeros (n : Nat) (ds : List Char) : List Char := zeros (n - ds.length) ++ ds

/-- Digits with a point in front of the last ones, of which there may be none. -/
def withPoint (places : Nat) (ds : List Char) : List Char :=
  let ds := padZeros (places + 1) ds
  let whole := ds.length - places
  if places = 0 then ds else ds.take whole ++ '.' :: ds.drop whole

/-- A number rounded to some places behind the point. -/
def toPlaces (places units : Nat) : List Char :=
  withPoint places (Nat.toDigits 10 (Binary64.divNearest (units * Nat.pow 10 places) Binary64.one))

/-- The first digits of a number, rounded, and its decimal exponent. -/
def roundedDigits (n units : Nat) : List Char × Int :=
  if units = 0 then (zeros n, 0)
  else
    let point := pointOf units Binary64.one
    let up := Nat.pow 10 (n - point : Int).toNat
    let down := Nat.pow 10 (point - n : Int).toNat
    let ds := Nat.toDigits 10 (Binary64.divNearest (units * up) (Binary64.one * down))
    -- Rounding may carry into one more digit.
    if n < ds.length then (ds.take n, point) else (ds, point - 1)

/-- Digits with an exponent. -/
def withExponent (ds : List Char) (e : Int) : List Char :=
  let fraction := if ds.length ≤ 1 then [] else '.' :: ds.drop 1
  ds.take 1 ++ fraction ++ 'e' :: (if e < 0 then '-' else '+')
    :: padZeros 2 (Nat.toDigits 10 e.natAbs)

/-- A number rounded to some places behind the point of the first digit, with an exponent. -/
def toDigits (places units : Nat) : List Char :=
  let (ds, e) := roundedDigits (places + 1) units
  withExponent ds e

/-- Digits without zeros at the end, of which at least one is left. -/
def withoutEndZeros (ds : List Char) : List Char :=
  match (ds.reverse.dropWhile (· == '0')).reverse with
  | [] => ds.take 1
  | kept => kept

/-- A number rounded to some significant digits: with an exponent where it is below -4 or not below
the least exponent for one, and without the zeros at the end unless they are kept. -/
def general (keepsZeros : Bool) (digits : Nat) (least : Int) (units : Nat) : List Char :=
  let digits := max digits 1
  let (ds, e) := roundedDigits digits units
  let ds := if keepsZeros then ds else withoutEndZeros ds
  if -4 ≤ e && e < least then
    if e < 0 then '0' :: '.' :: zeros (-e - 1).toNat ++ ds
    else if ds.length ≤ e.toNat + 1 then ds ++ zeros (e.toNat + 1 - ds.length)
    else ds.take (e.toNat + 1) ++ '.' :: ds.drop (e.toNat + 1)
  else withExponent ds e

end PromptContract.Decimal
