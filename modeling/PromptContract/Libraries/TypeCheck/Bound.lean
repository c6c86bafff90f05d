import PromptContract.Number.Shortest
import PromptContract.Value.Conversion
import PromptContract.Libraries.Value.Order

/-!
# Bounds

The notes of a type may put bounds on a value itself or on its length (`Bound.ofNotes`). A type that
knows what its values are measured by takes the bounds into limits of its own, one for each relation
(`Limits`), of which the first that does not hold is reported; the value that is no number is in no
relation to any limit. Any other type leaves a bound to be tried on the values that pass
(`Bound.verdict`).
-/

namespace PromptContract.TypeCheck

/-- What a bound is held against. -/
inductive Measure
  | value | length
deriving DecidableEq, Repr

/-- A bound on values: the relation that they must stand in to a limit. -/
structure Bound where
  measure : Measure
  relation : Relation
  limit : Value

/-- The names of bounds, in the order in which those of one note apply. -/
def boundNames : List (String × Measure × Relation) :=
  [("gt", .value, .greater), ("ge", .value, .atLeast), ("lt", .value, .less),
    ("le", .value, .atMost), ("min_length", .length, .atLeast), ("max_length", .length, .atMost)]

namespace Bound

/-- The bounds that a note puts on a type. Those that are null are not set. -/
def ofNote : Value → List Bound
  | .map es =>
    boundNames.filterMap fun (name, measure, relation) =>
      ((Entries.getD es name).present?).map (⟨measure, relation, ·⟩)
  | _ => []

/-- The bounds that the notes of a type put on it, in order. -/
def ofNotes (notes : List Value) : List Bound := notes.flatMap ofNote

end Bound

/-- One problem at the value itself. -/
def issue (rule msg : String) : Issue := ⟨[], msg, some rule⟩

/-- Limits of the values of an ordered type; of two for one relation the first counts. What cannot
be read as a limit takes the place of one, too. -/
abbrev Limits (α : Type) := List (Relation × Option α)

namespace Limits

/-- The limit for a relation, if there is one. -/
def get? {α : Type} (l : Limits α) (r : Relation) : Option α := (l.lookup r).join

/-- Sets the limit for a relation, instead of an earlier one. -/
def set {α : Type} (l : Limits α) (r : Relation) (limit : Option α) : Limits α := (r, limit) :: l

/-- Whether all limits that count could be read. -/
def areReadable {α : Type} (l : Limits α) : Bool :=
  l.all fun (r, _) => (l.get? r).isSome

/-- The first of some relations, in their order, of which the limit does not hold. -/
def broken? {α : Type} (holds : Relation → α → Bool) (order : List Relation) (l : Limits α) :
    Option (Relation × α) :=
  order.findSome? fun r =>
    (l.get? r).bind fun limit => if holds r limit then none else some (r, limit)

end Limits

/-- The rule that demands a relation between numbers. -/
def relationRule : Relation → String
  | .less => "less_than"
  | .atMost => "less_than_equal"
  | .greater => "greater_than"
  | .atLeast => "greater_than_equal"

/-- The wording of a relation between numbers. -/
def relationText : Relation → String
  | .less => "less than "
  | .atMost => "less than or equal to "
  | .greater => "greater than "
  | .atLeast => "greater than or equal to "

/-- The problem of a value that is not in a relation to a limit. -/
def relationIssue (r : Relation) (limit : String) : Issue :=
  issue (relationRule r) ("Input should be " ++ relationText r ++ limit)

/-- The order in which limits on numbers are tried. -/
def numberOrder : List Relation := [.atMost, .less, .atLeast, .greater]

/-- The first limit that an integer breaks. -/
def integerIssues (l : Limits Int) (n : Int) : List Issue :=
  ((l.broken? (fun r limit => r.allows (compare n limit)) numberOrder).map
    fun (r, limit) => relationIssue r (toString limit)).toList

/-- The first limit that a floating-point number breaks. -/
def realIssues (l : Limits Binary64) (x : Binary64) : List Issue :=
  ((l.broken? (fun r limit => ((x.compare? limit).map r.allows).getD false) numberOrder).map
    fun (r, limit) => relationIssue r (Decimal.plain limit)).toList

/-- A count with its noun, which takes an s unless the count is one. -/
def counted (n : Nat) (noun : String) : String :=
  toString n ++ " " ++ noun ++ (if n = 1 then "" else "s")

/-- The wording of a limit on a length. -/
def limitText : Relation → String
  | .less | .atMost => "at most "
  | .greater | .atLeast => "at least "

/-- What is said of the direction in which a length breaks a limit. -/
def direction : Relation → String
  | .less | .atMost => "too_long"
  | .greater | .atLeast => "too_short"

/-- The problem of a text of which the length breaks a limit. -/
def textIssue (r : Relation) (limit : Nat) : Issue :=
  issue ("string_" ++ direction r)
    ("String should have " ++ limitText r ++ counted limit "character")

/-- The problem of bytes of which the number breaks a limit. -/
def byteIssue (r : Relation) (limit : Nat) : Issue :=
  issue ("bytes_" ++ direction r) ("Data should have " ++ limitText r ++ counted limit "byte")

/-- The problem of a value with items of which the number breaks a limit. -/
def sizeIssue (noun : String) (r : Relation) (limit : Nat) (found : String) : Issue :=
  issue (direction r) (noun ++ " should have " ++ limitText r ++ counted limit "item"
    ++ " after validation, not " ++ found)

/-- Whether a length stands in a relation to a limit. -/
def lengthHolds (n : Nat) (r : Relation) (limit : Nat) : Bool := r.allows (compare n limit)

/-- The order in which limits on lengths are tried. -/
def lengthOrder : List Relation := [.atLeast, .atMost]

/-- The first limit that the length of a text breaks. -/
def textIssues (l : Limits Nat) (n : Nat) : List Issue :=
  ((l.broken? (lengthHolds n) lengthOrder).map fun (r, limit) => textIssue r limit).toList

/-- The first limit that the number of bytes breaks. -/
def byteIssues (l : Limits Nat) (n : Nat) : List Issue :=
  ((l.broken? (lengthHolds n) lengthOrder).map fun (r, limit) => byteIssue r limit).toList

/-- The first limit that the number of items breaks. -/
def sizeIssues (noun : String) (l : Limits Nat) (n : Nat) : List Issue :=
  ((l.broken? (lengthHolds n) lengthOrder).map
    fun (r, limit) => sizeIssue noun r limit (toString n)).toList

/-! ## Limits from values -/

/-- A limit of integers. A floating-point number is one if it is whole and of moderate size, and a
text if an integer can be read from it. -/
def integerLimit? : Value → Option Int
  | .int n => some n
  | .bool b => some (boolInt b)
  | .float x => x.truncate?.filter fun n => x.isWhole && n.natAbs < Nat.pow 2 63
  | .text s => Numeral.looseInteger? s.toList
  | _ => none

/-- A limit of floating-point numbers. -/
def realLimit? (v : Value) : Option Binary64 :=
  match v.number? with
  | some (.float x) => some x
  | some (.int n) => Binary64.ofInt? n
  | none => none

/-- A limit of lengths: an integer that is not negative and takes 64 bits. -/
def lengthLimit? (v : Value) : Option Nat :=
  match v.number? with
  | some (.int n) => if 0 ≤ n && n.toNat < Nat.pow 2 64 then some n.toNat else none
  | _ => none

/-! ## Bounds on values of any type -/

/-- How an integer is written as a limit: beyond 64 bits as the nearest floating-point number, of
which there must be one. -/
def writtenInteger? (n : Int) : Option String :=
  if -(Int.pow 2 63) ≤ n && n < Int.pow 2 63 then some (toString n)
  else (Binary64.ofInt? n).map Decimal.plain

/-- How the limit of a bound is written: numbers plainly, truth values as numbers, and texts as they
are. -/
def writtenLimit? : Value → Option String
  | .bool b => some (toString (boolInt b))
  | .int n => writtenInteger? n
  | .float x => some (Decimal.plain x)
  | v => some (v.comparedText?.getD v.quoted)

/-- The number of items that a value has, or of characters. -/
def length? : Value → Option Nat
  | .text s => some s.length
  | .fieldType t => some t.name.length
  | .list vs | .tuple vs | .object (.set _ vs _) => some vs.length
  | .map es => some es.length
  | .object (.bytes bs) | .object (.byteArray bs) => some bs.length
  | _ => none

/-- The problems of a value that a bound is tried on. It cannot be tried on a value without an order
or a length, nor said of a length that it breaks a limit that no length can have. -/
def Bound.verdict (b : Bound) (v : Value) : Except Failure (List Issue) :=
  match b.measure with
  | .value =>
    match v.stands? b.relation b.limit with
    | none => .error .wrongKind
    | some true => .ok []
    | some false =>
      match writtenLimit? b.limit with
      | some limit => .ok [relationIssue b.relation limit]
      | none => .error .wrongKind
  | .length =>
    match length? v, b.limit.number? with
    | some n, some limit =>
      if (((Value.Number.int n).compare? limit).map b.relation.allows).getD false then .ok []
      else
        match lengthLimit? b.limit with
        | some limit => .ok [sizeIssue "Value" b.relation limit (toString n)]
        | none => .error .wrongKind
    | _, _ => .error .wrongKind

end PromptContract.TypeCheck
