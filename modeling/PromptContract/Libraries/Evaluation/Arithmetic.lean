import PromptContract.Libraries.Evaluation.Memory
import PromptContract.Libraries.Evaluation.Table
import PromptContract.Libraries.Number.Power
import PromptContract.Value.Conversion
import PromptContract.Libraries.Value.Union

/-!
# Arithmetic

What the operators of expressions make of numbers, texts, rows, maps and sets. Of two numbers of
different kinds the simpler one counts as one of the other kind: truth values as integers, integers
as floating-point numbers, and these as complex numbers (`Numeric.binary`). Texts, bytes and rows
are put behind each other and repeated.
-/

namespace PromptContract

/-- A number as operators see it. -/
inductive Numeric
  | int (n : Int)
  | float (x : Binary64)
  | complex (z : Complex)

namespace Numeric

/-- The number that a value is, if it is one. -/
def ofValue? : Value → Option Numeric
  | .bool b => some (.int (boolInt b))
  | .int n => some (.int n)
  | .float x => some (.float x)
  | .object (.complex z) => some (.complex z)
  | .object (.nan _) => some (.float .nan)
  | _ => none

/-- A number as a value. -/
def toValue : Numeric → Value
  | .int n => .int n
  | .float x => .float x
  | .complex z => .object (.complex z)

/-- An integer as a floating-point number, which must be finite. -/
def realOf (n : Int) : Except Failure Binary64 :=
  match Binary64.ofInt? n with
  | some x => .ok x
  | none => .error .numberTooLarge

/-- The greatest number of binary digits that an integer is given. -/
def digitLimit : Nat := 1000000000

/-- The first number of binary digits that no integer can have. -/
def digitEnd : Nat := 30 * Nat.pow 2 61

/-- A power of an integer. -/
def integerPower (m : Int) (n : Nat) : Except Failure Int :=
  if 2 ≤ m.natAbs && digitLimit < m.natAbs.log2 * n then .error .tooManyItems
  else .ok (Int.pow m n)

/-- An integer with zeros behind its binary digits. -/
def shifted (m : Int) (n : Nat) : Except Failure Int :=
  if digitEnd ≤ n then .error .numberTooLarge
  else do return m * (← integerPower 2 n)

/-- An object of which no more is known. -/
def unknown : Value := .object (.foreign false)

/-- A power of a floating-point number: a complex one where a negative number has no other. -/
def realPower (x y : Binary64) : Except Failure Value :=
  match x, y with
  | .finite _ 0, .finite true (_ + 1) => .error .divisionByZero
  | .finite true (_ + 1), .finite .. =>
    if y.isWhole then finitePower x y
    else match (Complex.ofReal x).power? (.ofReal y) with
      | some z => .ok (.object (.complex z))
      | none => .error .divisionByZero
  | _, _ => finitePower x y
where
  /-- A power that is a floating-point number, finite if both numbers are. -/
  finitePower (x y : Binary64) : Except Failure Value :=
    match x.power y with
    | .infinite negative =>
      if x.isFinite && y.isFinite then .error .numberTooLarge else .ok (.float (.infinite negative))
    | p => .ok (.float p)

/-- An operator on two integers. -/
def ofIntegers (op : BinaryOperator) (m n : Int) : Except Failure Value :=
  match op with
  | .add => .ok (.int (m + n))
  | .subtract => .ok (.int (m - n))
  | .multiply => .ok (.int (m * n))
  | .divide =>
    if n = 0 then .error .divisionByZero
    else
      match Binary64.ofRatio ((m < 0) != (n < 0) && m != 0) m.natAbs n.natAbs with
      | .infinite _ => .error .numberTooLarge
      | x => .ok (.float x)
  | .floorDivide => if n = 0 then .error .divisionByZero else .ok (.int (m.fdiv n))
  | .remainder => if n = 0 then .error .divisionByZero else .ok (.int (m.fmod n))
  | .power => do
    if 0 ≤ n then return .int (← integerPower m n.toNat)
    else realPower (← realOf m) (← realOf n)
  | .shiftLeft =>
    if n < 0 then .error .unreadable
    else if m = 0 then .ok (.int 0)
    else do return .int (← shifted m n.toNat)
  | .shiftRight =>
    if n < 0 then .error .unreadable
    else .ok (.int (m >>> n.toNat))
  | .bitAnd => .ok (.int (bitwise (· &&& ·) m n))
  | .bitOr => .ok (.int (bitwise (· ||| ·) m n))
  | .bitXor => .ok (.int (bitwise (· ^^^ ·) m n))
  | .matrix => .error .wrongKind

/-- An operator on two floating-point numbers. -/
def ofReals (op : BinaryOperator) (x y : Binary64) : Except Failure Value :=
  match op with
  | .add => .ok (.float (x + y))
  | .subtract => .ok (.float (x - y))
  | .multiply => .ok (.float (x * y))
  | .divide =>
    match x.div? y with
    | some q => .ok (.float q)
    | none => .error .divisionByZero
  | .floorDivide => if y.isNonzero then .ok (.float (x.floorDiv y)) else .error .divisionByZero
  | .remainder => if y.isNonzero then .ok (.float (x.modulo y)) else .error .divisionByZero
  | .power => realPower x y
  | _ => .error .wrongKind

/-- An operator on two complex numbers. -/
def ofComplex (op : BinaryOperator) (w z : Complex) : Except Failure Value :=
  match op with
  | .add => .ok (.object (.complex (w + z)))
  | .subtract => .ok (.object (.complex (w - z)))
  | .multiply => .ok (.object (.complex (w * z)))
  | .divide =>
    match w.quotient? z with
    | some q => .ok (.object (.complex q))
    | none => .error .divisionByZero
  | .power =>
    match w.power? z with
    | some ⟨.infinite _, _⟩ | some ⟨_, .infinite _⟩ => .error .numberTooLarge
    | some p => .ok (.object (.complex p))
    | none => .error .divisionByZero
  | _ => .error .wrongKind

/-- An operator on two numbers. -/
def binary (op : BinaryOperator) (m n : Numeric) : Except Failure Value :=
  match m, n with
  | .int m, .int n => ofIntegers op m n
  | .int m, .float y => do ofReals op (← realOf m) y
  | .float x, .int n => do ofReals op x (← realOf n)
  | .float x, .float y => ofReals op x y
  | .complex w, .complex z => ofComplex op w z
  | .complex w, .int n => do ofComplex op w (.ofReal (← realOf n))
  | .int m, .complex z => do ofComplex op (.ofReal (← realOf m)) z
  | .complex w, .float y => ofComplex op w (.ofReal y)
  | .float x, .complex z => ofComplex op (.ofReal x) z

/-- An operator in front of a number. -/
def unary (op : UnaryOperator) (n : Numeric) : Except Failure Value :=
  match op, n with
  | .plus, n => .ok n.toValue
  | .minus, .int n => .ok (.int (-n))
  | .minus, .float x => .ok (.float x.neg)
  | .minus, .complex z => .ok (.object (.complex (-z)))
  | .invert, .int n => .ok (.int (-n - 1))
  | _, _ => .error .wrongKind

/-- The integer nearest to a number, from halfway the even one. -/
def nearest (x : Binary64) : Except Failure Value :=
  match x with
  | .nan => .error .unreadable
  | .infinite _ => .error .numberTooLarge
  | .finite negative units =>
    let n : Int := Binary64.divNearest units Binary64.one
    .ok (.int (if negative then -n else n))

/-- The multiple of a power of ten nearest to an integer, from halfway the even one. -/
def toTens (n : Int) (zeros : Nat) : Int :=
  if n.natAbs.log2 + 2 < 3 * zeros then 0
  else
    let step := Nat.pow 10 zeros
    let size : Int := Binary64.divNearest n.natAbs step * step
    if n < 0 then -size else size

/-- A number rounded to some decimal places, or to an integer. -/
def rounded (n : Numeric) (places : Option Value) : Except Failure Value :=
  match n, places.bind Value.present? with
  | .int n, none => .ok (.int n)
  | .float x, none => nearest x
  | .complex _, _ => .error .wrongKind
  | .int n, some v =>
    match v.index? with
    | some places => .ok (.int (if 0 ≤ places then n else toTens n places.natAbs))
    | none => .error .wrongKind
  | .float x, some v =>
    match v.index? with
    | none => .error .wrongKind
    | some places =>
      match x.toPlaces places with
      | .infinite negative =>
        if x.isFinite then .error .numberTooLarge else .ok (.float (.infinite negative))
      | y => .ok (.float y)

end Numeric

namespace Value

/-- Whether a value is an object of which no more is known. -/
def isUnknown : Value → Bool
  | .object (.foreign false) | .object (.hash _) => true
  | _ => false

/-- The first number that is no place of a row. -/
def placeLimit : Int := Int.pow 2 63

/-- An integer that may be a place of a row, or a number of places. -/
def toPlace (n : Int) : Except Failure Int :=
  if n < -placeLimit || placeLimit ≤ n then .error .numberTooLarge else .ok n

/-- A row several times behind itself. -/
def repeated {α : Type} (items : List α) (n : Int) : Except Failure (List α) := do
  let n ← toPlace n
  let _ ← itemCount (items.length * n.toNat)
  return (List.replicate (if items.isEmpty then 0 else n.toNat) items).flatten

/-- Characters or bytes several times behind each other, of which there may be no more than a row
has places. -/
def repeatedSigns {α : Type} (items : List α) (n : Int) : Except Failure (List α) := do
  let _ ← toPlace (items.length * n.toNat)
  repeated items n

/-- A text, bytes or a row, several times behind itself. -/
def times? (v : Value) (n : Int) : Option (Except Failure Value) :=
  match v with
  | .list items => some (.list <$> repeated items n)
  | .tuple items => some (.tuple <$> repeated items n)
  | .object (.bytes bs) => some ((fun bs => .object (.bytes bs)) <$> repeatedSigns bs n)
  | .object (.byteArray bs) => some ((fun bs => .object (.byteArray bs)) <$> repeatedSigns bs n)
  | v => v.comparedText?.map fun s =>
    (fun cs => .text (String.ofList cs)) <$> repeatedSigns s.toList n

/-- The first value several times behind itself, or the second. -/
def product (v w : Value) : Except Failure Value :=
  match v.index?.bind w.times?, w.index?.bind v.times? with
  | some p, _ | none, some p => p
  | none, none => .error .wrongKind

/-- Two values of one kind behind each other. -/
def sum (v w : Value) : Except Failure Value :=
  match v, w with
  | .list xs, .list ys => .ok (.list (xs ++ ys))
  | .tuple xs, .tuple ys => .ok (.tuple (xs ++ ys))
  | .object (.bytes bs), .object (.bytes cs) | .object (.bytes bs), .object (.byteArray cs) =>
    .ok (.object (.bytes (bs ++ cs)))
  | .object (.byteArray bs), .object (.bytes cs)
  | .object (.byteArray bs), .object (.byteArray cs) => .ok (.object (.byteArray (bs ++ cs)))
  | v, w =>
    match v.comparedText?, w.comparedText? with
    | some s, some t => .ok (.text (s ++ t))
    | _, _ => .error .wrongKind

/-- What an operator makes of two values. -/
def binary (op : BinaryOperator) (v w : Value) : Except Failure Value :=
  match v, w with
  | .object (.set isFrozen xs places), .object (.set _ ys others) =>
    match (Table.ofSet xs places).combine? op (.set (Table.ofSet ys others)) with
    | some t => .ok (t.toSet isFrozen)
    | none => .error .wrongKind
  | .bool a, .bool b =>
    match op with
    | .bitAnd => .ok (.bool (a && b))
    | .bitXor => .ok (.bool (a != b))
    | .bitOr => .ok (.bool (a || b))
    | op => Numeric.ofIntegers op (boolInt a) (boolInt b)
  | v, w =>
    if v.isUnknown || w.isUnknown then .ok Numeric.unknown
    else match Numeric.ofValue? v, Numeric.ofValue? w with
    | some m, some n => Numeric.binary op m n
    | _, _ =>
      match op with
      | .bitOr => v.bar w
      | .add => v.sum w
      | .multiply => v.product w
      | _ => .error .wrongKind

/-- What an operator makes of a value behind it. -/
def unary (op : UnaryOperator) (v : Value) : Except Failure Value :=
  match op, v with
  | .not, v => .ok (.bool !v.truthy)
  | op, v =>
    if v.isUnknown then .ok Numeric.unknown
    else match Numeric.ofValue? v with
    | some n => Numeric.unary op n
    | none => .error .wrongKind

end Value

end PromptContract
