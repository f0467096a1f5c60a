import SplitScreen.Text.CharacterNameTable
import SplitScreen.Text.Characters
import SplitScreen.Text.Numeral

namespace SplitScreen

namespace CharacterName

def isAmong (name : List (List Char)) (before : List (List Char)) : List (List Char) → Bool
  | [] => before == name
  | [] :: rest => isAmong name before rest
  | (c :: word) :: rest =>
    if c.isLower then
      before == name || isAmong name (before.take (c.toNat - 'a'.toNat) ++ [word]) rest
    else isAmong name (before ++ [c :: word]) rest

def isListed (name : List Char) : Bool :=
  match name with
  | [] => false
  | first :: _ =>
    match tables.find? fun entry => entry.1 = first with
    | none => false
    | some (_, table) => isAmong (splitAt (· = ' ') name) [] (Blank.words table.toList)

def number? (digits : List Char) : Option Nat :=
  if (digits.length = 4 ∨ digits.length = 5) ∧ digits.all fun c => c.isDigit || c.isUpper then
    Hex.ofDigits? digits
  else none

/-- What names that end with the number of their character start with, and those characters. -/
def numbered : List (String × List (Nat × Nat)) :=
  [("CJK COMPATIBILITY IDEOGRAPH-", [(0xf900, 0xfa6d), (0xfa70, 0xfad9), (0x2f800, 0x2fa1d)]),
    ("KHITAN SMALL SCRIPT CHARACTER-", [(0x18b00, 0x18cd5)]),
    ("NUSHU CHARACTER-", [(0x1b170, 0x1b2fb)])]

def ideograph : String := "CJK UNIFIED IDEOGRAPH-"

def ideographs : List (Nat × Nat) :=
  [(0x3400, 0x4dbf), (0x4e00, 0x9fff), (0x20000, 0x2a6df), (0x2a700, 0x2b738), (0x2b740, 0x2b81d),
    (0x2b820, 0x2cea1), (0x2ceb0, 0x2ebe0), (0x30000, 0x3134a)]

def isWithin (ranges : List (Nat × Nat)) (n : Nat) : Bool :=
  ranges.any fun range => range.1 ≤ n && n ≤ range.2

/-- The number of an ideograph, which may have a zero in front. -/
def isIdeograph (digits : List Char) : Bool := (number? digits).any (isWithin ideographs)

/-- A name in capitals that ends with the number of its character, which has no zero in front. -/
def isNumbered (name : List Char) : Bool :=
  numbered.any fun (first, ranges) =>
    first.toList.isPrefixOf name &&
      let digits := name.drop first.length
      digits.head? != some '0' && (number? digits).any (isWithin ranges)

def syllable : String := "HANGUL SYLLABLE "

def initials : List String :=
  ["G", "GG", "N", "D", "DD", "R", "M", "B", "BB", "S", "SS", "", "J", "JJ", "C", "K", "T", "P",
    "H"]

def medials : List String :=
  ["A", "AE", "YA", "YAE", "EO", "E", "YEO", "YE", "O", "WA", "WAE", "OE", "YO", "U", "WEO", "WE",
    "WI", "YU", "EU", "YI", "I"]

def finals : List String :=
  ["", "G", "GG", "GS", "N", "NJ", "NH", "D", "L", "LG", "LM", "LB", "LS", "LT", "LP", "LH", "M",
    "B", "BS", "S", "SS", "NG", "J", "C", "K", "T", "P", "H"]

def after? (sounds : List String) (cs : List Char) : Option (List Char) :=
  let lengths := (sounds.filter (·.toList.isPrefixOf cs)).map String.length
  lengths.max?.map cs.drop

def isSyllable (cs : List Char) : Bool :=
  ((after? initials cs).bind fun cs => (after? medials cs).bind (after? finals)) == some []

end CharacterName

def isCharacterName (cs : List Char) : Bool :=
  let after (first : String) := cs.drop first.length
  if CharacterName.syllable.toList.isPrefixOf cs then
    CharacterName.isSyllable (after CharacterName.syllable)
  else if CharacterName.ideograph.toList.isPrefixOf cs then
    CharacterName.isIdeograph (after CharacterName.ideograph)
  else
    let name := cs.map Char.toUpper
    CharacterName.isNumbered name || CharacterName.isListed name

end SplitScreen
