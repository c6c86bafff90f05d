import PromptContract.Text.Blank
import PromptContract.Libraries.Text.Direction
import PromptContract.Libraries.Text.Joining
import PromptContract.Libraries.Text.LabelCharacter
import PromptContract.Libraries.Text.Normalization
import PromptContract.Libraries.Text.Punycode
import PromptContract.Libraries.Text.Script

/-!
# Labels of host names

The parts of a name beyond ASCII. A label holds letters, digits and marks of any script
(`Label.isValid`): it is in normal form, starts with no mark, and has no hyphen at an end nor two
behind two characters. A few signs may stand only beside certain letters, and where letters are
written from the right, all characters keep to that direction. In ASCII a label that needs it is
written with a mark in front, and one that has the mark already must stand for a label
(`Label.ascii?`).
-/

namespace PromptContract.Label

open Text

/-! ## Signs that depend on their neighbours -/

/-- Whether a character takes away the vowel of the letter in front of it. -/
def silencesVowel (c : Char) : Bool := combiningClass c == 9

/-- The first character that counts between letters. -/
def neighbour? (cs : List Char) : Option Char := (cs.dropWhile isPassedOver).head?

/-- Whether letters may be kept apart between two parts of a label: behind a letter that loses its
vowel, or where they would be joined. The part in front is listed with its last character first. -/
def mayKeepApart (before behind : List Char) : Bool :=
  before.head?.any silencesVowel
    || ((neighbour? before).any fun c => joinedOnBothSides.contains c || joinedBehind.contains c)
      && ((neighbour? behind).any fun c => joinedOnBothSides.contains c || joinedInFront.contains c)

/-- Whether a character is a digit of a run of ten from a code point on. -/
def isDigitFrom (first : Nat) (c : Char) : Bool := first ≤ c.toNat && c.toNat < first + 10

/-- Whether a character may stand between two parts of a label. The part in front is listed with its
last character first. -/
def isAllowed (before : List Char) (c : Char) (behind : List Char) : Bool :=
  if labelCharacters.contains c then true
  else
    let whole := before ++ behind
    match c.toNat with
    -- letters kept apart, and letters joined where they are not by themselves
    | 0x200C => mayKeepApart before behind
    | 0x200D => before.head?.any silencesVowel
    -- the raised point of Catalan
    | 0xB7 => before.head? == some 'l' && behind.head? == some 'l'
    -- the number sign of Greek, and the two marks behind letters of Hebrew that count
    | 0x375 => behind.head?.any greek.contains
    | 0x5F3 | 0x5F4 => before.head?.any hebrew.contains
    -- the middle point of Kana
    | 0x30FB => whole.any kanaAndHan.contains
    | _ =>
      -- Arabic digits of two kinds do not stand together.
      if isDigitFrom 0x660 c then !whole.any (isDigitFrom 0x6F0)
      else if isDigitFrom 0x6F0 c then !whole.any (isDigitFrom 0x660)
      else false

/-- Whether all characters of a label may stand where they do. Those in front are listed with the
last one first. -/
def areAllowed (before : List Char) : List Char → Bool
  | [] => true
  | c :: cs => isAllowed before c cs && areAllowed (c :: before) cs

/-! ## Direction -/

/-- Whether the directions of a label fit together. Where something in it is written from the right,
it starts with a letter. A label from the right has no letters from the left nor numbers of two
kinds, one from the left none from the right; and both end with a letter or a digit, perhaps with
marks. -/
def keepsDirection (ds : List Direction) : Bool :=
  if !ds.any fun d => d == .fromRight || d == .arabicNumber then true
  else
    let last := (ds.reverse.dropWhile (· == .mark)).head?
    match ds.head? with
    | some .fromRight =>
      !ds.contains .fromLeft && !(ds.contains .number && ds.contains .arabicNumber)
        && (last == some .fromRight || last == some .number || last == some .arabicNumber)
    | _ => false

/-! ## Labels -/

/-- Whether hyphens stand where they may. -/
def placesHyphens (cs : List Char) : Bool :=
  cs.head? != some '-' && cs.getLast? != some '-' && (cs.drop 2).take 2 != ['-', '-']

/-- Whether a text is a label. -/
def isValid (cs : List Char) : Bool :=
  !cs.isEmpty && composed cs == cs && placesHyphens cs && !cs.head?.any isMark
    && areAllowed [] cs && keepsDirection (cs.map direction)

/-- The mark in front of a label that is written in ASCII for another one. -/
def asciiMark : List Char := "xn--".toList

/-- Whether a text in ASCII is a label, or stands for one behind the mark. -/
def isAsciiLabel (cs : List Char) : Bool :=
  match asciiMark.isPrefixOf? cs with
  | some [] => false
  | some rest => rest.getLast? != some '-' && (Punycode.decode? rest).any isValid
  | none => isValid cs

/-- The greatest length of a label in ASCII. -/
def lengthLimit : Nat := 63

/-- A label in ASCII, if it is one and not too long. -/
def ascii? (cs : List Char) : Option (List Char) :=
  let written := if isAscii cs then cs else asciiMark ++ Punycode.encode cs
  let valid := if isAscii cs then isAsciiLabel cs else isValid cs
  if valid && written.length ≤ lengthLimit then some written else none

end PromptContract.Label
