import SplitScreen.Assoc
import SplitScreen.Text.Characters
import SplitScreen.Text.Lower
import SplitScreen.Text.Numeral

namespace SplitScreen

namespace Colour

inductive Refused
  | unknown
  /-- A part of a colour that should be a number is empty. -/
  | emptyNumber
  deriving DecidableEq, Repr

def names : String := "
default black red green yellow blue magenta cyan white bright_black bright_red bright_green
bright_yellow bright_blue bright_magenta bright_cyan bright_white grey0 gray0 navy_blue dark_blue
blue3 blue1 dark_green deep_sky_blue4 dodger_blue3 dodger_blue2 green4 spring_green4 turquoise4
deep_sky_blue3 dodger_blue1 green3 spring_green3 dark_cyan light_sea_green deep_sky_blue2
deep_sky_blue1 spring_green2 cyan3 dark_turquoise turquoise2 green1 spring_green1
medium_spring_green cyan2 cyan1 dark_red deep_pink4 purple4 purple3 blue_violet orange4 grey37
gray37 medium_purple4 slate_blue3 royal_blue1 chartreuse4 dark_sea_green4 pale_turquoise4
steel_blue steel_blue3 cornflower_blue chartreuse3 cadet_blue sky_blue3 steel_blue1 pale_green3
sea_green3 aquamarine3 medium_turquoise chartreuse2 sea_green2 sea_green1 aquamarine1
dark_slate_gray2 dark_magenta dark_violet purple light_pink4 plum4 medium_purple3 slate_blue1
yellow4 wheat4 grey53 gray53 light_slate_grey light_slate_gray medium_purple light_slate_blue
dark_olive_green3 dark_sea_green light_sky_blue3 sky_blue2 dark_sea_green3 dark_slate_gray3
sky_blue1 chartreuse1 light_green pale_green1 dark_slate_gray1 red3 medium_violet_red magenta3
dark_orange3 indian_red hot_pink3 medium_orchid3 medium_orchid medium_purple2 dark_goldenrod
light_salmon3 rosy_brown grey63 gray63 medium_purple1 gold3 dark_khaki navajo_white3 grey69 gray69
light_steel_blue3 light_steel_blue yellow3 dark_sea_green2 light_cyan3 light_sky_blue1
green_yellow dark_olive_green2 dark_sea_green1 pale_turquoise1 deep_pink3 magenta2 hot_pink2
orchid medium_orchid1 orange3 light_pink3 pink3 plum3 violet light_goldenrod3 tan misty_rose3
thistle3 plum2 khaki3 light_goldenrod2 light_yellow3 grey84 gray84 light_steel_blue1 yellow2
dark_olive_green1 honeydew2 light_cyan1 red1 deep_pink2 deep_pink1 magenta1 orange_red1
indian_red1 hot_pink dark_orange salmon1 light_coral pale_violet_red1 orchid2 orchid1 orange1
sandy_brown light_salmon1 light_pink1 pink1 plum1 gold1 navajo_white1 misty_rose1 thistle1 yellow1
light_goldenrod1 khaki1 wheat1 cornsilk1 grey100 gray100 grey3 gray3 grey7 gray7 grey11 gray11
grey15 gray15 grey19 gray19 grey23 gray23 grey27 gray27 grey30 gray30 grey35 gray35 grey39 gray39
grey42 gray42 grey46 gray46 grey50 gray50 grey54 gray54 grey58 gray58 grey62 gray62 grey66 gray66
grey70 gray70 grey74 gray74 grey78 gray78 grey82 gray82 grey85 gray85 grey89 gray89 grey93 gray93
"

def argument? (head : String) (word : List Char) : Option (List Char) :=
  if head.toList.isPrefixOf word && word.getLast? == some ')' then
    some ((word.drop head.length).dropLast)
  else none

def isHex (c : Char) : Bool := ('0' ≤ c && c ≤ '9') || ('a' ≤ c && c ≤ 'f')

def number (cs : List Char) : Nat := Numeral.ofDigits (cs.filterMap Numeral.digit?)

def checkMixture (arguments : List Char) : Except Refused Unit :=
  if arguments.isEmpty || !arguments.all fun c => c == ',' || (Numeral.digit? c).isSome then
    .error .unknown
  else
    let parts := splitAt (· = ',') arguments
    if parts.length ≠ 3 then .error .unknown
    else if parts.any List.isEmpty then .error .emptyNumber
    else if parts.all fun part => number part ≤ 255 then .ok ()
    else .error .unknown

/-- A word in small letters is a colour: a name, six hexadecimal digits, the number of a colour or
a mixture. -/
def check (word : String) : Except Refused Unit :=
  let cs := word.toList
  if (Blank.words names.toList).contains cs then .ok ()
  else if cs.length = 7 ∧ cs.head? = some '#' ∧ cs.tail.all isHex then .ok ()
  else
    match argument? "color(" cs, argument? "rgb(" cs with
    | some digits, _ =>
      if 1 ≤ digits.length ∧ digits.length ≤ 3 ∧ digits.all (fun c => '0' ≤ c && c ≤ '9')
          ∧ number digits ≤ 255 then .ok ()
      else .error .unknown
    | _, some parts => checkMixture parts
    | none, none => .error .unknown

end Colour

structure Style where
  flags : Assoc String Bool
  colour : Option String
  background : Option String
  link : Option String
  deriving DecidableEq, Repr

namespace Style

def allFlags : List String :=
  ["bold", "dim", "italic", "underline", "blink", "blink2", "reverse", "conceal", "strike",
    "underline2", "frame", "encircle", "overline"]

def shortNames : Assoc String String :=
  [("d", "dim"), ("b", "bold"), ("i", "italic"), ("u", "underline"), ("r", "reverse"),
    ("c", "conceal"), ("s", "strike"), ("uu", "underline2"), ("o", "overline")]

def flag? (word : String) : Option String :=
  if word ∈ allFlags then some word else shortNames.find? word

def plain : Style := ⟨[], none, none, none⟩

def ofWords (s : Style) : List String → Except Colour.Refused Style
  | [] => .ok s
  | word :: rest =>
    if lower word = "on" then
      match rest with
      | [] => .error .unknown
      | ground :: rest => do
        Colour.check (lower ground)
        ofWords { s with background := some (lower ground) } rest
    else if lower word = "not" then
      match rest with
      | [] => .error .unknown
      | name :: rest =>
        -- Unlike the other words, the name of the flag is not put in small letters.
        match flag? name with
        | some flag => ofWords { s with flags := s.flags.insert flag false } rest
        | none => .error .unknown
    else if lower word = "link" then
      match rest with
      | [] => .error .unknown
      | target :: rest => ofWords { s with link := some target } rest
    else
      match flag? (lower word) with
      | some flag => ofWords { s with flags := s.flags.insert flag true } rest
      | none => do
        Colour.check (lower word)
        ofWords { s with colour := some (lower word) } rest

def text (s : Style) : String :=
  let shown := allFlags.filterMap fun flag =>
    (s.flags.find? flag).map fun on => if on then flag else "not " ++ flag
  let parts := shown ++ s.colour.toList ++ (s.background.map ("on " ++ ·)).toList
    ++ (s.link.map ("link " ++ ·)).toList
  if parts.isEmpty then "none" else " ".intercalate parts

/-- A style can be drawn unless a number of a colour is empty; one of no style draws nothing. -/
def isDrawable (name : String) : Bool :=
  match ofWords plain ((Blank.words name.toList).map String.ofList) with
  | .ok _ | .error .unknown => true
  | .error .emptyNumber => false

/-- The normal form of a name; a name of no style is taken in small letters. -/
def normal (name : String) : Except Colour.Refused String :=
  let trimmed := String.ofList (Blank.trim name.toList)
  if trimmed = "none" ∨ name.isEmpty then .ok "none"
  else
    match ofWords plain ((Blank.words name.toList).map String.ofList) with
    | .ok s => .ok s.text
    | .error .unknown => .ok (lower trimmed)
    | .error .emptyNumber => .error .emptyNumber

end Style

end SplitScreen
