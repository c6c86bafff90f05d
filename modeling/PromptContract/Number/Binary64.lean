/-!
# Floating-point numbers of 64 bits

A finite number of the format is a whole number of units of `2^-1074`, with at most 53 significant
binary digits and below `2^1024`. The units of a number are kept as a natural number beside its
sign, so comparing two numbers is comparing integers, and the only place where an operation rounds
is `ofUnits`: to the nearest number of the format, from halfway to the one with an even significand,
and to an infinity from the halfway point above the largest finite number.
-/

namespace PromptContract

/-- A floating-point number of 64 bits. A zero has a sign. -/
inductive Binary64
  | nan
  | infinite (negative : Bool)
  | finite (negative : Bool) (units : Nat)
deriving DecidableEq, Inhabited

namespace Binary64

/-- How many units make one. -/
def one : Nat := Nat.pow 2 1074

/-- The first number of units beyond the format. -/
def limit : Nat := Nat.pow 2 2098

/-- The binary exponent of the last significant digit of a number of that many units. -/
def shift (units : Nat) : Nat := if units < Nat.pow 2 53 then 0 else units.log2 - 52

/-- The whole number nearest to `num / den`, from halfway the even one. -/
def divNearest (num den : Nat) : Nat :=
  let q := num / den
  let twice := 2 * (num % den)
  if twice < den || (twice == den && q % 2 == 0) then q else q + 1

/-- The number nearest to `num / den` units with the given sign. -/
def ofUnits (negative : Bool) (num den : Nat) : Binary64 :=
  let step := Nat.pow 2 (shift (num / den))
  let units := divNearest num (den * step) * step
  if limit ≤ units then .infinite negative else .finite negative units

/-- The zero without a sign. -/
def zero : Binary64 := .finite false 0

/-- The number nearest to `num / den`. -/
def ofRatio (negative : Bool) (num den : Nat) : Binary64 := ofUnits negative (num * one) den

/-- The number nearest to an integer, which may be an infinity. -/
def ofInt (n : Int) : Binary64 := ofRatio (n < 0) n.natAbs 1

/-- A number if it is finite. -/
def finite? : Binary64 → Option Binary64
  | .finite negative units => some (.finite negative units)
  | _ => none

/-- The number nearest to an integer, and nothing where that is no finite number. -/
def ofInt? (n : Int) : Option Binary64 := (ofInt n).finite?

/-- A finite number's signed count of units. -/
def scaled? : Binary64 → Option Int
  | .finite false units => some units
  | .finite true units => some (-(units : Int))
  | _ => none

/-- Order of the values: both zeros are equal, and nothing compares with what is no number. -/
def compare? : Binary64 → Binary64 → Option Ordering
  | .nan, _ | _, .nan => none
  | .infinite a, .infinite b => some (if a == b then .eq else if a then .lt else .gt)
  | .infinite a, .finite .. => some (if a then .lt else .gt)
  | .finite .., .infinite b => some (if b then .gt else .lt)
  | x@(.finite ..), y@(.finite ..) => do return Ord.compare (← x.scaled?) (← y.scaled?)

/-- Order of a number and an integer, exact for integers of any size. -/
def compareInt? (x : Binary64) (n : Int) : Option Ordering :=
  match x with
  | .nan => none
  | .infinite negative => some (if negative then .lt else .gt)
  | .finite .. => do return Ord.compare (← x.scaled?) (n * one)

/-- The integer part, rounded toward zero; nothing for an infinity or what is no number. -/
def truncate? (x : Binary64) : Option Int := do return (← x.scaled?).tdiv one

/-- Whether the value is a whole number. -/
def isWhole : Binary64 → Bool
  | .finite _ units => units % one == 0
  | _ => false

/-- Whether a number has a finite value. -/
def isFinite : Binary64 → Bool
  | .finite .. => true
  | _ => false

/-- A number counts as true unless it is a zero. -/
def isNonzero : Binary64 → Bool
  | .finite _ units => units != 0
  | _ => true

/-- The difference, rounded once. -/
def sub (x y : Binary64) : Binary64 :=
  match x, y with
  | .nan, _ | _, .nan => .nan
  | .infinite a, .infinite b => if a == b then .nan else .infinite a
  | .infinite a, .finite .. => .infinite a
  | .finite .., .infinite b => .infinite !b
  | .finite a m, .finite b n =>
    let difference : Int := (if a then -(m : Int) else m) - (if b then -(n : Int) else n)
    if difference = 0 then .finite (a && !b) 0
    else ofUnits (difference < 0) difference.natAbs 1

/-- The number with the other sign. -/
def neg : Binary64 → Binary64
  | .nan => .nan
  | .infinite negative => .infinite !negative
  | .finite negative units => .finite (!negative) units

/-- The sum, rounded once. -/
def add (x y : Binary64) : Binary64 := x.sub y.neg

/-- The product, rounded once. -/
def mul (x y : Binary64) : Binary64 :=
  match x, y with
  | .nan, _ | _, .nan => .nan
  | .infinite a, .infinite b => .infinite (a != b)
  | .infinite a, .finite b n | .finite b n, .infinite a =>
    if n = 0 then .nan else .infinite (a != b)
  | .finite a m, .finite b n => ofUnits (a != b) (m * n) one

/-- The quotient, rounded once; nothing for a division by a zero. -/
def div? (x y : Binary64) : Option Binary64 :=
  match x, y with
  | _, .finite _ 0 => none
  | .nan, _ | _, .nan => some .nan
  | .infinite _, .infinite _ => some .nan
  | .infinite a, .finite b _ => some (.infinite (a != b))
  | .finite a _, .infinite b => some (.finite (a != b) 0)
  | .finite a m, .finite b n => some (ofRatio (a != b) m n)

/-- The greatest whole number that is not greater. -/
def floor : Binary64 → Binary64
  | .finite false units => .finite false (units / one * one)
  | .finite true units => .finite true ((units + (one - 1)) / one * one)
  | x => x

/-- Whether a number is written with a minus. -/
def isNegative : Binary64 → Bool
  | .nan => false
  | .infinite negative | .finite negative _ => negative

/-- The magnitude of a number with the sign of another. -/
def withSignOf (x y : Binary64) : Binary64 := if x.isNegative == y.isNegative then x else x.neg

/-- The rest that a division by a number leaves, with the sign of that number, which is no zero. -/
def modulo (x y : Binary64) : Binary64 :=
  match x, y with
  | .nan, _ | _, .nan | .infinite _, _ => .nan
  | .finite _ 0, .infinite b => .finite b 0
  | .finite a m, .infinite b => if a == b then .finite a m else .infinite b
  | .finite a m, .finite b n =>
    if m % n = 0 then .finite b 0
    else if a == b then .finite a (m % n)
    else (Binary64.finite a (m % n)).add (.finite b n)

/-- The greatest whole number not greater than a quotient by a number that is no zero. -/
def floorDiv (x y : Binary64) : Binary64 :=
  match (x.sub (x.modulo y)).div? y with
  | none => .nan
  | some q =>
    if q.isNonzero then
      let whole := q.floor
      if (q.sub whole).compare? (ofRatio false 1 2) == some .gt then whole.add (ofInt 1) else whole
    else q.withSignOf (((x.div? y).getD .nan))

instance : Add Binary64 := ⟨add⟩
instance : Sub Binary64 := ⟨sub⟩
instance : Mul Binary64 := ⟨mul⟩
instance : OfNat Binary64 0 := ⟨zero⟩
instance : LT Binary64 := ⟨fun x y => x.compare? y = some .lt⟩
instance (x y : Binary64) : Decidable (x < y) := inferInstanceAs (Decidable (_ = _))

end Binary64

end PromptContract
