import PromptContract.Text.CharSet
import PromptContract.Libraries.Text.CharacterName.Alphabets
import PromptContract.Libraries.Text.CharacterName.Ancient
import PromptContract.Libraries.Text.CharacterName.EastAsia
import PromptContract.Libraries.Text.CharacterName.Other
import PromptContract.Libraries.Text.CharacterName.Pictographs
import PromptContract.Libraries.Text.CharacterName.Pictures
import PromptContract.Libraries.Text.CharacterName.Signs
import PromptContract.Libraries.Text.CharacterName.Syllables

/-!
# Characters by name

The character of a name (`named?`). Most names are listed, and may be written in small letters too.
Han characters are named for their code points, and Korean syllables for their sounds, and both only
in capitals.
-/

namespace PromptContract.Text

/-- The Han characters that are named for their code points. -/
def hanCharacters : CharSet where
  runs := #[
    (0x3400, 0x4DBF), (0x4E00, 0x9FFF), (0x20000, 0x2A6DF), (0x2A700, 0x2B738), (0x2B740, 0x2B81D),
    (0x2B820, 0x2CEA1), (0x2CEB0, 0x2EBE0), (0x30000, 0x3134A)
  ]

/-- The number that a row of hexadecimal digits in capitals stands for. -/
def capitalHex? (cs : List Char) : Option Nat :=
  cs.foldlM (fun n c => ("0123456789ABCDEF".toList.findIdx? (· == c)).map (16 * n + ·)) 0

/-- The Han character whose code point is written behind the words for it. -/
def namedHan? (name : List Char) : Option Char := do
  let digits ← "CJK UNIFIED IDEOGRAPH-".toList.isPrefixOf? name
  if digits.length != 4 && digits.length != 5 then none
  let c := Char.ofNat (← capitalHex? digits)
  if hanCharacters.contains c then some c else none

/-! ## Korean syllables -/

/-- The sounds that a syllable starts with, perhaps none. -/
def firstSounds : List String :=
  ["G", "GG", "N", "D", "DD", "R", "M", "B", "BB", "S", "SS", "", "J", "JJ", "C", "K", "T", "P",
    "H"]

/-- The vowels of syllables. -/
def middleSounds : List String :=
  ["A", "AE", "YA", "YAE", "EO", "E", "YEO", "YE", "O", "WA", "WAE", "OE", "YO", "U", "WEO", "WE",
    "WI", "YU", "EU", "YI", "I"]

/-- The sounds that a syllable ends with, perhaps none. -/
def lastSounds : List String :=
  ["", "G", "GG", "GS", "N", "NJ", "NH", "D", "L", "LG", "LM", "LB", "LS", "LT", "LP", "LH", "M",
    "B", "BS", "S", "SS", "NG", "J", "C", "K", "T", "P", "H"]

/-- The place of the longest sound at the front of a text, and what follows it. -/
def longestSound? (sounds : List String) (cs : List Char) : Option (Nat × List Char) :=
  sounds.zipIdx.foldl (fun best (sound, i) =>
    match sound.toList.isPrefixOf? cs, best with
    | some rest, some (_, shortest) =>
      if rest.length < shortest.length then some (i, rest) else best
    | some rest, none => some (i, rest)
    | none, _ => best) none

/-- The syllable of three sounds that are written behind the words for it. -/
def namedSyllable? (name : List Char) : Option Char := do
  let (first, rest) ← longestSound? firstSounds (← "HANGUL SYLLABLE ".toList.isPrefixOf? name)
  let (middle, rest) ← longestSound? middleSounds rest
  let (last, rest) ← longestSound? lastSounds rest
  if rest.isEmpty then some (Char.ofNat (0xAC00 + (first * 21 + middle) * 28 + last)) else none

/-! ## Listed names -/

/-- All runs of names. -/
def allNames : List (Array NameRun) :=
  [alphabetNames, syllableNames, signNames, eastAsianNames, ancientNames, pictographNames,
    pictureNames]

/-- The character with a name that is listed. -/
def listed? (name : List Char) : Option Char :=
  let capital := name.map Char.toUpper
  let words := wordsOfName capital
  let other := (otherNames.find? fun e => e.2.contains (String.ofList capital)).map (·.1)
  let selector := (numberedSelectors.find? (·.2 == String.ofList capital)).map (·.1)
  match other.or selector with
  | some n => some (Char.ofNat n)
  | none => allNames.findSome? fun runs => runs.findSome? (NameRun.find? · words)

/-- The character with a name. -/
def named? (name : List Char) : Option Char :=
  (namedHan? name).or ((namedSyllable? name).or (listed? name))

end PromptContract.Text
