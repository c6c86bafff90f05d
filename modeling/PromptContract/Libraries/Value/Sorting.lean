/-!
# Sorting

A row is sorted by merging runs (`Sorting.sorted?`): the rising and falling runs that it consists
of, short ones made longer by putting in the items behind them. Which runs are merged first follows
from where the middles of neighbours lie in the row (`nodePower`), and a merge that takes one side
again and again looks ahead in leaps (`gallop?`). Items are compared by a relation that need not be
an order: where some items stand in no relation, the outcome depends on which items are compared, so
the steps are fixed down to each comparison. Nothing comes out where two items that are compared
cannot be.
-/

namespace PromptContract.Sorting

variable {α : Type} (isLess? : α → α → Option Bool)

/-! ## Runs -/

/-- Extends a run, whose last item stands first, by the items that keep it falling, or from
falling. -/
def extendRun? (falling : Bool) (last : α) (run : List α) : List α → Option (List α × List α)
  | [] => some (last :: run, [])
  | x :: xs => do
    if (← isLess? x last) == falling then extendRun? falling x (last :: run) xs
    else some (last :: run, x :: xs)

/-- The run that a row starts with, in rising order, and the items behind it. -/
def leadingRun? : List α → Option (List α × List α)
  | [] => some ([], [])
  | [x] => some ([x], [])
  | x :: y :: rest => do
    let falling ← isLess? y x
    let (run, rest) ← extendRun? isLess? falling y [x] rest
    return (if falling then run else run.reverse, rest)

/-- Puts an item into a sorted row, behind those that it is not less than. -/
def insert? (x : α) (sorted : List α) : Option (List α) :=
  match h : sorted.drop (sorted.length / 2) with
  | [] => some [x]
  | middle :: above =>
    have : (sorted.take (sorted.length / 2)).length < sorted.length := by
      have := congrArg List.length h
      simp at this ⊢
      omega
    have : above.length < sorted.length := by
      have := congrArg List.length h
      simp at this
      omega
    do
      if ← isLess? x middle then
        return (← insert? x (sorted.take (sorted.length / 2))) ++ middle :: above
      else return sorted.take (sorted.length / 2) ++ middle :: (← insert? x above)
termination_by sorted.length

/-- The least length of a run of a row of `n` items: `n` halved until it is below 64, and one more
if something was lost. What was lost so far is at most one. -/
def leastRun (lost n : Nat) : Nat :=
  if n < 64 then n + lost else leastRun (max lost (n % 2)) (n / 2)
termination_by n

/-- The run that a row starts with, made as long as `least` if the row is, and the rest. -/
def fullRun? (least : Nat) (row : List α) : Option (List α × List α) := do
  let (run, rest) ← leadingRun? isLess? row
  let missing := least - run.length
  return (← (rest.take missing).foldlM (fun run x => insert? isLess? x run) run, rest.drop missing)

/-- The runs of a row, of which there are at most `count`. -/
def runs? (least : Nat) : Nat → List α → Option (List (List α))
  | 0, _ => some []
  | _, [] => some []
  | count + 1, row => do
    let (run, rest) ← fullRun? isLess? least row
    return run :: (← runs? least count rest)

/-! ## Looking ahead -/

/-- Leaps over items as long as they are on one side, each leap a bit more than twice as far: how
far the last leap on this side went, and how far the first one that did not stay on it. -/
def leap? (isOn : Nat → Option Bool) (limit : Nat) : Nat → Nat → Nat → Option (Nat × Nat)
  | 0, last, next => some (last, min next limit)
  | steps + 1, last, next => do
    if limit ≤ next then return (last, limit)
    else if ← isOn next then leap? isOn limit steps next (2 * next + 1)
    else return (last, next)

/-- The first place from `low` on, below `high`, whose item does not stand in front, found by
halving. -/
def halve? (isInFront : α → Option Bool) (items : Array α) (low high : Nat) : Option Nat :=
  if low < high then
    let middle := low + (high - low) / 2
    match items[middle]? with
    | none => some high
    | some x => do
      if ← isInFront x then halve? isInFront items (middle + 1) high
      else halve? isInFront items low middle
  else some high
termination_by high - low
decreasing_by all_goals omega

/-- How many items stand in front of something, found in leaps from a place and then by halving. -/
def gallop? (isInFront : α → Option Bool) (items : Array α) (place : Nat) : Option Nat := do
  let on := fun i => match items[i]? with
    | some x => isInFront x
    | none => some false
  if ← on place then
    let (last, next) ← leap? (fun k => on (place + k)) (items.size - place) items.size 0 1
    halve? isInFront items (place + last + 1) (place + next)
  else
    let off := fun k => (on (place - k)).map (!·)
    let (last, next) ← leap? off (place + 1) items.size 0 1
    halve? isInFront items (place + 1 - next) (place - last)

/-! ## Merging -/

/-- A merge of two rows from one end on: what is merged so far, with the last item first, and the
rest of both rows. A merge from the back has its rows turned around. -/
structure Merge (α : Type) where
  fromBack : Bool
  out : List α
  left : List α
  right : List α

namespace Merge

/-- Takes items of the left row. -/
def takeLeft (m : Merge α) (n : Nat) : Merge α :=
  { m with out := (m.left.take n).reverse ++ m.out, left := m.left.drop n }

/-- Takes items of the right row. -/
def takeRight (m : Merge α) (n : Nat) : Merge α :=
  { m with out := (m.right.take n).reverse ++ m.out, right := m.right.drop n }

/-- The rest of a merge that has come to its end. The row that was set aside is the left one from
the front and the right one from the back; the last item of it stands behind the other row. -/
def rest? (m : Merge α) : Option (List α) :=
  let (aside, moved) := if m.fromBack then (m.right, m.left) else (m.left, m.right)
  match aside, moved with
  | aside, [] => some aside
  | [], moved => some moved
  | [x], moved => some (moved ++ [x])
  | _, _ => none

/-- What a merge came to that has the given rest. -/
def whole (m : Merge α) (rest : List α) : List α :=
  let row := m.out.reverse ++ rest
  if m.fromBack then row.reverse else row

/-- How many items of a row come before something, of which `isInFront` tells whether an item stands
in front of it. -/
def ahead? (m : Merge α) (isInFront : α → Option Bool) (row : List α) : Option Nat :=
  if m.fromBack then
    (gallop? isInFront row.reverse.toArray (row.length - 1)).map (row.length - ·)
  else gallop? isInFront row.toArray 0

/-- Goes on after a step, unless the merge has come to its end. -/
def andThen {β : Type} (m : Merge α) (stop : List α → β) (go : Merge α → Option β) : Option β :=
  match m.rest? with
  | some rest => some (stop (m.whole rest))
  | none => go m

end Merge

/-- How often one side must have been taken in a row for leaps to be worth it. -/
def leastGallop : Nat := 7

/-- Merges rows to the end, with how reluctant the merge is to leap, from counts of how often each
side was taken in a row; in leaps or item by item. -/
def merge? : Nat → Bool → Nat → Nat → Nat → Merge α → Option (List α × Nat)
  | 0, _, reluctance, _, _, m => some (m.whole [], reluctance)
  | fuel + 1, false, reluctance, lefts, rights, m =>
    match m.left, m.right with
    | a :: _, b :: _ => do
      -- The right item comes first from the front, the left one from the back.
      let takesRight := (← isLess? b a) != m.fromBack
      let (m, lefts, rights) :=
        if takesRight then (m.takeRight 1, 0, rights + 1) else (m.takeLeft 1, lefts + 1, 0)
      m.andThen (·, reluctance) fun m =>
        if reluctance ≤ max lefts rights then merge? fuel true (reluctance + 1) 0 0 m
        else merge? fuel false reluctance lefts rights m
    | _, _ => some (m.whole (m.left ++ m.right), reluctance)
  | fuel + 1, true, reluctance, _, _, m => do
    let reluctance := if 1 < reluctance then reluctance - 1 else reluctance
    let stop := fun row => (row, reluctance)
    match m.right with
    | [] => return stop (m.whole m.left)
    | b :: _ =>
      let lefts ← m.ahead? (fun x => (isLess? b x).map (!·)) m.left
      (m.takeLeft lefts).andThen stop fun m =>
      (m.takeRight 1).andThen stop fun m => do
        match m.left with
        | [] => return stop (m.whole m.right)
        | a :: _ =>
          let rights ← m.ahead? (isLess? · a) m.right
          (m.takeRight rights).andThen stop fun m =>
          (m.takeLeft 1).andThen stop fun m =>
            if leastGallop ≤ max lefts rights then merge? fuel true reluctance 0 0 m
            else merge? fuel false (reluctance + 1) 0 0 m

/-- Merges neighbouring runs. What is in place at both ends stays; the shorter of the rows between
is set aside. -/
def mergeRuns? (reluctance : Nat) (left right : List α) : Option (List α × Nat) :=
  match left.getLast?, right with
  | some last, first :: _ => do
    let front ← gallop? (fun x => (isLess? first x).map (!·)) left.toArray 0
    let inner := left.drop front
    if inner.isEmpty then return (left ++ right, reluctance)
    let count ← gallop? (isLess? · last) right.toArray (right.length - 1)
    if count = 0 then return (left ++ right, reluctance)
    let fromBack := count < inner.length
    let turned := fun row : List α => if fromBack then row.reverse else row
    let m : Merge α := ⟨fromBack, [], turned inner, turned (right.take count)⟩
    let m := if fromBack then m.takeLeft 1 else m.takeRight 1
    let (row, reluctance) ← m.andThen (·, reluctance)
      (merge? isLess? (2 * (left.length + right.length)) false reluctance 0 0)
    return (left.take front ++ row ++ right.drop count, reluctance)
  | _, _ => some (left ++ right, reluctance)

/-! ## The order of merges -/

/-- In how many halvings of `n` the numbers `a / n` and `b / n` come apart. -/
def halvings (n : Nat) : Nat → Nat → Nat → Nat
  | 0, _, _ => 1
  | fuel + 1, a, b =>
    if n ≤ a then 1 + halvings n fuel (2 * (a - n)) (2 * (b - n))
    else if n ≤ b then 1
    else 1 + halvings n fuel (2 * a) (2 * b)

/-- The power of the border between two runs of a row of `n` items: how often the row is halved
until the middles of the two lie in different parts. -/
def nodePower (n start left right : Nat) : Nat :=
  halvings n (2 * n + 1) (2 * start + left) (2 * start + 2 * left + right)

/-- A run that waits to be merged with what is behind it, and the power of the border between. -/
structure Pending (α : Type) where
  run : List α
  power : Nat

/-- Merges a run with those in front of it whose borders have a power above the given one. -/
def collapse? (power reluctance : Nat) :
    List (Pending α) → List α → Option (List α × Nat × List (Pending α))
  | [], run => some (run, reluctance, [])
  | top :: stack, run =>
    if power < top.power then do
      let (run, reluctance) ← mergeRuns? isLess? reluctance top.run run
      collapse? power reluctance stack run
    else some (run, reluctance, top :: stack)

/-- Merges the runs that still wait with the last one. The two runs in front of the last one are
merged first if the one further in front is shorter than the last one. -/
def finish? : Nat → Nat → List (Pending α) → List α → Option (List α)
  | _, _, [], run => some run
  | 0, _, _, _ => none
  | fuel + 1, reluctance, [top], run => do
    let (run, reluctance) ← mergeRuns? isLess? reluctance top.run run
    finish? fuel reluctance [] run
  | fuel + 1, reluctance, top :: next :: stack, run => do
    if next.run.length < run.length then
      let (merged, reluctance) ← mergeRuns? isLess? reluctance next.run top.run
      finish? fuel reluctance (⟨merged, next.power⟩ :: stack) run
    else
      let (run, reluctance) ← mergeRuns? isLess? reluctance top.run run
      finish? fuel reluctance (next :: stack) run

/-- Merges the runs of a row of `n` items, of which one that starts at `start` is at hand. -/
def mergeAll? (n reluctance start : Nat) (stack : List (Pending α)) (run : List α) :
    List (List α) → Option (List α)
  | [] => finish? isLess? (stack.length + 1) reluctance stack run
  | next :: rest => do
    let power := nodePower n start run.length next.length
    let (merged, reluctance, stack) ← collapse? isLess? power reluctance stack run
    mergeAll? n reluctance (start + run.length) (⟨merged, power⟩ :: stack) next rest

/-- A row in rising order; nothing where two items have to be compared that have no order. -/
def sorted? (row : List α) : Option (List α) := do
  match ← runs? isLess? (leastRun 0 row.length) row.length row with
  | [] => return []
  | run :: rest => mergeAll? isLess? row.length leastGallop 0 [] run rest

end PromptContract.Sorting
