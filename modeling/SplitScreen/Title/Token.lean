import SplitScreen.Text.Characters
import SplitScreen.Text.Numeral
import SplitScreen.Text.Pattern
import SplitScreen.Text.WordChar

namespace SplitScreen

namespace Title

inductive TokenKind
  | key
  | percentage
  | colour
  | name
  /-- A dollar sign and the name of a colour that is set elsewhere. -/
  | reference
  | blank
  | quoted
  deriving DecidableEq, Repr

inductive ValueKind
  | word
  | opening
  | closing
  | comma
  | blank
  | quoted
  deriving DecidableEq, Repr

structure Token (κ : Type) where
  kind : κ
  chars : List Char
  rest : List Char
  deriving DecidableEq, Repr

namespace Token

open Pattern

def digit : Pattern := one fun c => (Numeral.digit? c).isSome

def blankOnLine : Pattern := one fun c => isBlank c && !isLineEnd c

def blanks : Pattern := several (one isBlank)

def decimal : Pattern :=
  optional (text "-") ++ several digit ++ optional (text ".") ++ many digit

def percentage : Pattern := decimal ++ text "%"

def isNameStart (c : Char) : Bool := c.isAlpha || c == '_'

def isNameChar (c : Char) : Bool := c.isAlphanum || c == '_' || c == '-'

def name : Pattern := one isNameStart ++ many (one isNameChar)

def key : Pattern :=
  one (fun c => isNameStart c || c == '-' || c == '@') ++ many (one isNameChar) ++ text "="

def reference : Pattern := text "$" ++ several (one isNameChar)

def hexDigit : Pattern :=
  one fun c => c.isDigit || ('a' ≤ c && c ≤ 'f') || ('A' ≤ c && c ≤ 'F')

def hexColour (digits : Nat) : Pattern := text "#" ++ hexDigit.times digits

def mixture (word : String) (first : Pattern) (others : List Pattern) : Pattern :=
  let comma := many blankOnLine ++ text "," ++ many blankOnLine
  text word ++ text "(" ++ many blankOnLine
    ++ others.foldl (fun p part => p ++ comma ++ part) first ++ many blankOnLine ++ text ")"

def colour : Pattern :=
  hexColour 8 ||| hexColour 6 ||| hexColour 4 ||| hexColour 3
    ||| mixture "rgb" decimal [decimal, decimal]
    ||| mixture "rgba" decimal [decimal, decimal, decimal]
    ||| mixture "hsl" decimal [percentage, percentage]
    ||| mixture "hsla" decimal [percentage, percentage, decimal]

def patterns : List (TokenKind × Pattern) :=
  [(.key, key), (.percentage, percentage), (.colour, colour), (.name, name),
    (.reference, reference), (.blank, blanks)]

def quotation : Pattern :=
  let between (mark : String) := text mark ++ few (one (!isLineEnd ·)) ++ text mark
  between "\"" ||| between "'"

def settingPatterns : List (TokenKind × Pattern) :=
  [(.key, key ++ many (one (!isLineEnd ·))), (.percentage, percentage), (.colour, colour),
    (.name, name), (.reference, reference), (.blank, blanks), (.quoted, quotation)]

def valuePatterns : List (ValueKind × Pattern) :=
  [(.word, several (one fun c => isWordChar c || c == '.')), (.opening, oneOf "([\x7b"),
    (.closing, oneOf ")]\x7d"), (.comma, text ","), (.blank, blanks), (.quoted, quotation)]

def first? {κ : Type} (cs : List Char) : List (κ × Pattern) → Option (Token κ)
  | [] => none
  | (kind, p) :: others =>
    match p.matchStart? cs with
    | some found => some ⟨kind, cs.take found.position, found.rest⟩
    | none => first? cs others

def read? (cs : List Char) : Option (Token TokenKind) := first? cs patterns

def readSetting? (cs : List Char) : Option (Token TokenKind) := first? cs settingPatterns

def readValue? (cs : List Char) : Option (Token ValueKind) := first? cs valuePatterns

end Token

end Title

end SplitScreen
