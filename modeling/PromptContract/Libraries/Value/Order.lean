import PromptContract.Value.Equality

/-!
# The order of values

Numbers are in the order of their size, texts in that of their characters, bytes in that of their
numbers, and two lists or two tuples in that of the first items that differ; a set is less than
another of which it is a part. Values of other kinds, or of different ones, have no order
(`Value.stands?`). The value that is no number stands in no relation to any number, so the order is
not total.
-/

namespace PromptContract

/-- A relation that two values of one kind may stand in. -/
inductive Relation
  | less | atMost | greater | atLeast
deriving DecidableEq, Repr

/-- Whether a relation holds for values in the given order. -/
def Relation.allows : Relation → Ordering → Bool
  | .less, o => o == .lt
  | .atMost, o => o != .gt
  | .greater, o => o == .gt
  | .atLeast, o => o != .lt

namespace Value

/-- Whether two sets stand in a relation: the lesser is a part of the greater. -/
def setsStand (r : Relation) (xs ys : List Value) : Bool :=
  let isPart (xs ys : List Value) := xs.all fun x => ys.any x.same
  match r with
  | .atMost => isPart xs ys
  | .less => isPart xs ys && xs.length != ys.length
  | .atLeast => isPart ys xs
  | .greater => isPart ys xs && xs.length != ys.length

/-- Whether two objects stand in a relation. -/
def objectsStand? (r : Relation) : ObjectOf Value → ObjectOf Value → Option Bool
  | .bytes bs, .bytes cs | .bytes bs, .byteArray cs | .byteArray bs, .bytes cs
  | .byteArray bs, .byteArray cs => some (r.allows (compare bs cs))
  | .set _ xs _, .set _ ys _ => some (setsStand r xs ys)
  | _, _ => none

mutual
/-- Whether the first value stands in a relation to the second; nothing where they have no
order. -/
def stands? (r : Relation) : Value → Value → Option Bool
  | .list xs, .list ys => rowStands? r xs ys
  | .tuple xs, .tuple ys => rowStands? r xs ys
  | v, w =>
    match v.comparedText?, w.comparedText? with
    | some s, some t => some (r.allows (compare s t))
    | _, _ => do
      match v, w, v.number?, w.number? with
      | _, _, some m, some n => return ((m.compare? n).map r.allows).getD false
      | .object o, .object p, _, _ => objectsStand? r o p
      | _, _, _, _ => none
termination_by structural v => v

/-- The same for rows of values, which are in the order of the first items that differ. -/
def rowStands? (r : Relation) : List Value → List Value → Option Bool
  | [], [] => some (r.allows .eq)
  | [], _ :: _ => some (r.allows .lt)
  | _ :: _, [] => some (r.allows .gt)
  | x :: xs, y :: ys => if same x y then rowStands? r xs ys else stands? r x y
termination_by structural xs => xs
end

end Value

end PromptContract
