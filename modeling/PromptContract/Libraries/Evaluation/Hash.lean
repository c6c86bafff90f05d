import PromptContract.Libraries.Evaluation.Kind

/-!
# Numbers for tables

An integer stands for a value in tables (`Value.hash`). Equal numbers of different kinds have one:
a number counts as its remainder by a prime (`Hash.modulus`), a quotient of two integers as the
product of the first with the inverse of the second. Rows and sets mix the integers of their items
in 64 bits. What stands for a text differs from run to run, so it is known by the text alone.
-/

namespace PromptContract

namespace Hash

/-- The prime by which numbers are reduced, which is `2^61 - 1`. -/
def modulus : Nat := 2305843009213693951

/-- An integer that may stand for a value: in 64 bits with a sign, and not the one that stands for
none. -/
def settled (n : Int) : Int :=
  let n := n.bmod (Nat.pow 2 64)
  if n = -1 then -2 else n

/-- What stands for an integer. -/
def ofInt (n : Int) : Int :=
  let rest : Int := (n.natAbs % modulus : Nat)
  settled (if n < 0 then -rest else rest)

/-- What stands for a floating-point number, if it is a number. Half of one is `2^60`, since twice
that is one up to a multiple of the modulus. -/
def ofReal? (x : Binary64) : Option Int :=
  match x with
  | .nan => none
  | .infinite negative => some (if negative then -314159 else 314159)
  | .finite negative units =>
    -- The units are those of `2^-1074`, and `2^61` counts as one.
    let scale := Nat.pow 2 (61 - 1074 % 61)
    let rest : Int := (units * scale % modulus : Nat)
    some (settled (if negative then -rest else rest))

/-- What stands for a complex number, if its parts are numbers. -/
def ofComplex? (z : Complex) : Option Int := do
  return settled ((← ofReal? z.re) + 1000003 * (← ofReal? z.im))

/-- A word turned by 31 bits to the left. -/
def turned (w : UInt64) : UInt64 := (w <<< 31) ||| (w >>> 33)

/-- What stands for a row, from what stands for its items. -/
def ofRow (items : List Int) : Int :=
  let mixed := items.foldl (fun (w : UInt64) n =>
    turned (w + UInt64.ofInt n * 14029467366897019727) * 11400714785074694791) 2870177450012600261
  let w : UInt64 := mixed + (UInt64.ofNat items.length ^^^ (2870177450012600261 ^^^ 3527539))
  if w.toInt64.toInt = -1 then 1546275796 else w.toInt64.toInt

/-- What stands for a set, from what stands for its items, whatever their order. -/
def ofSet (items : List Int) : Int :=
  let spread (n : Int) : UInt64 :=
    let w := UInt64.ofInt n
    ((w ^^^ (89869747 : UInt64)) ^^^ (w <<< 16)) * 3644798167
  let mixed := items.foldl (fun (w : UInt64) n => w ^^^ spread n) 0
  let w : UInt64 := mixed ^^^ ((UInt64.ofNat items.length + 1) * 1927868237)
  let w := (w ^^^ ((w >>> 11) ^^^ (w >>> 25))) * 69069 + 907133923
  if w.toInt64.toInt = -1 then 590923713 else w.toInt64.toInt

end Hash

namespace Value

mutual
/-- The integer that stands for a value in tables, where it is known. -/
def hash? : Value → Option Int
  | .bool b => some (boolInt b)
  | .int n => some (Hash.ofInt n)
  | .float x => Hash.ofReal? x
  | .text s => if s.isEmpty then some 0 else none
  | .tuple vs => Hash.ofRow <$> hashes? vs
  | .object o => hashOfObject? o
  | _ => none
termination_by structural v => v

/-- The same for an object of expressions. -/
def hashOfObject? : ObjectOf Value → Option Int
  | .complex z => Hash.ofComplex? z
  | .bytes [] => some 0
  | .set true items _ => Hash.ofSet <$> hashes? items
  | .range start stop step =>
    let n := rangeLength start stop step
    if n < 2 then none else some (Hash.ofRow ([(n : Int), start, step].map Hash.ofInt))
  | _ => none
termination_by structural o => o

/-- The integers that stand for the values of a row, if all are known. -/
def hashes? : List Value → Option (List Int)
  | [] => some []
  | v :: vs => do
    let n ← hash? v
    return n :: (← hashes? vs)
termination_by structural vs => vs
end

/-- What stands for a value in tables: an integer, or one that is known by the value alone. -/
def hash (v : Value) : Value :=
  match v.hash? with
  | some n => .int n
  | none => .object (.hash v)

end Value

end PromptContract
