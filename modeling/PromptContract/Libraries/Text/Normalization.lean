import PromptContract.Libraries.Text.Decomposition
import PromptContract.Libraries.Text.Mark

/-!
# Normal forms

One text may be written in several ways: a letter and its accent may be one character or two, and
two marks on one letter stand in either order. A text is brought to a normal form by taking its
characters apart, putting the marks in the order of their classes, and putting characters together
again as far as that goes. The normal form `composed` keeps how characters look; `compatible` gives
up variants such as wide letters and ligatures too. A text over ASCII is in both forms.
-/

namespace PromptContract.Text

/-! ## Syllables of Hangul -/

/-- The syllables of Hangul are counted by their first letter, their vowel and their last letter. -/
def syllableBase : Nat := 0xAC00

/-- The letters that a syllable is made of. The last one may be missing. -/
def syllableParts? (c : Char) : Option (List Char) :=
  let n := c.toNat - syllableBase
  if syllableBase ≤ c.toNat && n < 11172 then
    let last := n % 28
    some (Char.ofNat (0x1100 + n / 588) :: Char.ofNat (0x1161 + n % 588 / 28)
      :: (if last = 0 then [] else [Char.ofNat (0x11A7 + last)]))
  else none

/-- The syllable that two characters make: of a first letter and a vowel, or of a syllable without a
last letter and that letter. -/
def syllable? (a b : Char) : Option Char :=
  let first := a.toNat - 0x1100
  let vowel := b.toNat - 0x1161
  let last := b.toNat - 0x11A7
  if 0x1100 ≤ a.toNat && first < 19 && 0x1161 ≤ b.toNat && vowel < 21 then
    some (Char.ofNat (syllableBase + (first * 21 + vowel) * 28))
  else if syllableBase ≤ a.toNat && a.toNat - syllableBase < 11172
      && (a.toNat - syllableBase) % 28 == 0 && 0 < last && last < 28 then
    some (Char.ofNat (a.toNat + last))
  else none

/-! ## Taking apart -/

/-- The parts of a character, one step down. -/
def parts? (isCompatible : Bool) (c : Char) : Option (List Char) :=
  if c.toNat < 128 then none
  else ((syllableParts? c).or (partsIn? canonicalDecompositions c)).or
    (if isCompatible then partsIn? compatibleDecompositions c else none)

/-- The last parts of a character, down to a depth. -/
def lastParts (isCompatible : Bool) : Nat → Char → List Char
  | 0, c => [c]
  | depth + 1, c =>
    match parts? isCompatible c with
    | some parts => parts.flatMap (lastParts isCompatible depth)
    | none => [c]

/-- No character has parts in more steps than this. -/
def deepestParts : Nat := 8

/-- A text with every character taken apart. -/
def takenApart (isCompatible : Bool) (cs : List Char) : List Char :=
  cs.flatMap (lastParts isCompatible deepestParts)

/-! ## The order of marks -/

/-- Puts a character in front of others. It goes behind the marks of lower classes that stand
there. -/
def putInOrder (c : Char) : List Char → List Char
  | [] => [c]
  | d :: ds =>
    if 0 < combiningClass d && combiningClass d < combiningClass c then d :: putInOrder c ds
    else c :: d :: ds

/-- A text with its marks in the order of their classes. Marks of one class keep their order. -/
def inOrder (cs : List Char) : List Char := cs.foldr putInOrder []

/-! ## Putting together -/

/-- The character that two characters make. -/
def pair? (a b : Char) : Option Char :=
  (syllable? a b).or <|
    (canonicalDecompositions.find? fun d => d.parts == [a.toNat, b.toNat]
      && !neverComposed.contains (Char.ofNat d.first)).map fun d => Char.ofNat d.first

/-- Puts the characters of a text together from a starting character on. A character makes one with
the starting character unless a mark of the same or of a higher class stands between the two; the
marks between are listed with the last one first. -/
def joined (start : Char) (between : List Char) : List Char → List Char
  | [] => start :: between.reverse
  | c :: cs =>
    let free := between.all fun mark => combiningClass mark < combiningClass c
    match if free then pair? start c else none with
    | some one => joined one between cs
    | none =>
      if combiningClass c = 0 then start :: between.reverse ++ joined c [] cs
      else joined start (c :: between) cs

/-- A text with its characters put together. Marks at its front stay. -/
def putTogether (cs : List Char) : List Char :=
  let marks := cs.takeWhile fun c => 0 < combiningClass c
  match cs.drop marks.length with
  | [] => marks
  | start :: rest => marks ++ joined start [] rest

/-- The normal form of a text that keeps how its characters look. -/
def composed (cs : List Char) : List Char :=
  if cs.all fun c => c.toNat < 128 then cs else putTogether (inOrder (takenApart false cs))

/-- The normal form of a text that gives up variants of characters. -/
def compatible (cs : List Char) : List Char :=
  if cs.all fun c => c.toNat < 128 then cs else putTogether (inOrder (takenApart true cs))

end PromptContract.Text
