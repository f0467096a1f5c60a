import SplitScreen.Text.CharacterName
import SplitScreen.Text.Numeral
import SplitScreen.Text.Pattern

namespace SplitScreen

namespace Argument

inductive Token
  | number (imaginary : Bool)
  | quoted (bytes : Bool)
  /-- A truth value, the missing value or three dots. -/
  | constant
  /-- The word that a call for an empty set starts with. -/
  | setName
  | opening (curly : Bool)
  | closing (curly : Bool)
  | comma
  | colon
  | sign
  | lineEnd
  deriving DecidableEq, Repr

namespace Token

open Pattern

/-- The most brackets that may be open at a place. -/
def depthLimit : Nat := 200

/-- A character of a word. Beyond ASCII every character counts, and no word with one is known. -/
def isIdentifierChar (c : Char) : Bool := c.isAlphanum || c == '_' || 0x80 ≤ c.toNat

def digits (isDigit : Char → Bool) : Pattern :=
  one isDigit ++ many (optional (text "_") ++ one isDigit)

def isHex (c : Char) : Bool := (Hex.value? c).isSome

/-- Digits in a base other than ten, after a zero and one of two letters. -/
def based (letters : String) (isDigit : Char → Bool) : Pattern :=
  text "0" ++ oneOf letters ++ optional (text "_") ++ digits isDigit

def decimal : Pattern :=
  (digits Char.isDigit ++ optional (text "." ++ optional (digits Char.isDigit))
      ||| text "." ++ digits Char.isDigit)
    ++ optional (oneOf "eE" ++ optional (oneOf "+-") ++ digits Char.isDigit)
    ++ optional (oneOf "jJ")

def numeral : Pattern :=
  (based "xX" isHex
      ||| based "oO" (fun c => '0' ≤ c && c ≤ '7')
      ||| based "bB" (fun c => c == '0' || c == '1')
      ||| decimal)
    ++ between fun _ c => !(c.map isIdentifierChar).getD false

/-- A decimal integer does not start with a zero unless it is zero, and is not too long. -/
def isProper (written : List Char) : Bool :=
  let digits := written.filter (· ≠ '_')
  !digits.all Char.isDigit || digits.all (· == '0')
    || (digits.head? != some '0' && digits.length ≤ LongInteger.digitLimit)

def number? (cs : List Char) : Option (Token × List Char) := do
  let found ← numeral.matchStart? cs
  let written := cs.take found.position
  let last := written.getLast?
  if isProper written then return (.number (last == some 'j' || last == some 'J'), found.rest)
  else none

/-- How a text in quotes is to be read. In a raw one a backslash stands for itself. -/
structure Quotation where
  raw : Bool
  bytes : Bool

def quotation? (letters : List Char) : Option Quotation :=
  match letters.map Char.toLower with
  | [] | ['u'] => some ⟨false, false⟩
  | ['r'] => some ⟨true, false⟩
  | ['b'] => some ⟨false, true⟩
  | ['b', 'r'] | ['r', 'b'] => some ⟨true, true⟩
  | _ => none

namespace Quotation

def admits (s : Quotation) (c : Char) : Bool := !s.bytes || c.toNat < 0x80

/-- What may stand after a backslash. A character may be given by its number or by its name; the
name is marked. -/
def escape (s : Quotation) : Pattern :=
  let hex := one isHex
  if s.raw then one s.admits
  else if s.bytes then text "x" ++ hex.times 2 ||| one fun c => s.admits c && c != 'x'
  else
    text "x" ++ hex.times 2 ||| text "u" ++ hex.times 4
      ||| text "U00" ++ (text "0" ++ hex ||| text "10") ++ hex.times 4
      ||| text "N\x7b" ++ marked (many (one (· ≠ '\x7d'))) ++ text "\x7d"
      ||| one fun c => !"xuUN".toList.contains c

def element (s : Quotation) (plain : Char → Bool) : Pattern :=
  one (fun c => c != '\\' && s.admits c && plain c) ++ empty ||| text "\\" ++ s.escape

/-- A text on one line between two quotes, or on any lines between three and three. -/
def body (s : Quotation) (quote : Char) (long : Bool) : Pattern :=
  let mark := one (· = quote)
  if long then mark.times 3 ++ few (s.element fun _ => true) ++ mark.times 3
  else mark ++ many (s.element fun c => c != quote && c != '\n') ++ mark

end Quotation

def quoted? (s : Quotation) (quote : Char) (cs : List Char) : Option (Token × List Char) := do
  let long := [quote, quote, quote].isPrefixOf cs
  let found ← (s.body quote long).matchStart? cs
  if found.marks.all fun m => isCharacterName ((cs.take m.stop).drop m.start) then
    return (.quoted s.bytes, found.rest)
  else none

def word? (word : List Char) : Option Token :=
  if word ∈ ["True".toList, "False".toList, "None".toList] then some .constant
  else if word = "set".toList then some .setName
  else none

/-- A word at the start of a text, or a text in quotes that starts with letters. -/
def wordOrQuoted? (cs : List Char) : Option (Token × List Char) :=
  let (word, rest) := cs.span isIdentifierChar
  match rest with
  | c :: _ =>
    if c = '"' ∨ c = '\'' then (quotation? word).bind fun s => quoted? s c rest
    else (word? word).map (·, rest)
  | [] => (word? word).map (·, rest)

/-- The text without lines that hold no data at its start. The first line with data is not indented;
a line that goes on is as far indented as its first part. -/
def skipEmptyLines (column outer : Nat) : List Char → Option (List Char)
  | [] => some []
  | '\\' :: '\n' :: rest => skipEmptyLines column (if outer = 0 then column else outer) rest
  | c :: rest =>
    if c = ' ' then skipEmptyLines (column + 1) outer rest
    else if c = '\t' then skipEmptyLines ((column / 8 + 1) * 8) outer rest
    else if c = '\x0c' then skipEmptyLines 0 outer rest
    else if c = '\n' then skipEmptyLines 0 0 rest
    else if c = '#' then skipComment rest
    else if (if outer = 0 then column else outer) = 0 then some (c :: rest)
    else none
where
  /-- Goes on after the end of the line. -/
  skipComment : List Char → Option (List Char)
    | [] => some []
    | c :: rest => if c = '\n' then skipEmptyLines 0 0 rest else skipComment rest

def ofText : Nat → Nat → List Char → Option (List Token)
  | 0, _, _ => none
  | _ + 1, _, [] => some []
  | _ + 1, _, ['\\', '\n'] => none
  | steps + 1, depth, '\\' :: '\n' :: rest => ofText steps depth rest
  | steps + 1, depth, '.' :: '.' :: '.' :: rest => (ofText steps depth rest).map (.constant :: ·)
  | steps + 1, depth, c :: rest =>
    let go (t : Token) (depth : Nat) : Option (List Token) := (ofText steps depth rest).map (t :: ·)
    if c = ' ' ∨ c = '\t' ∨ c = '\x0c' then ofText steps depth rest
    else if c = '\n' then if depth = 0 then go .lineEnd 0 else ofText steps depth rest
    else if c = '#' then ofText steps depth (rest.dropWhile (· ≠ '\n'))
    else if c = '(' ∨ c = '\x7b' then
      if depth < depthLimit then go (.opening (c == '\x7b')) (depth + 1) else none
    else if c = ')' ∨ c = '\x7d' then go (.closing (c == '\x7d')) (depth - 1)
    else if c = ',' then go .comma depth
    else if c = ':' then go .colon depth
    else if c = '+' ∨ c = '-' then go .sign depth
    else
      match if c.isDigit || c == '.' then number? (c :: rest) else wordOrQuoted? (c :: rest) with
      | none => none
      | some (t, rest) => (ofText steps depth rest).map (t :: ·)

end Token

end Argument

end SplitScreen
