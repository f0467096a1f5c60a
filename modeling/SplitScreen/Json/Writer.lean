import SplitScreen.Decimal
import SplitScreen.Document
import SplitScreen.Text.Numeral
import SplitScreen.Value.Described

namespace SplitScreen

namespace Json

def unitEscape (n : Nat) : List Char := '\\' :: 'u' :: Hex.fixed 4 n

/-- A symbol of a string. Beyond ASCII it is written as its UTF-16 code units. -/
def escape : Symbol → List Char
  | .half place => unitEscape (Symbol.half place).code
  | .char c =>
    if c = '"' then ['\\', '"']
    else if c = '\\' then ['\\', '\\']
    else if c = '\n' then ['\\', 'n']
    else if c = '\r' then ['\\', 'r']
    else if c = '\t' then ['\\', 't']
    else if c = '\x0c' then ['\\', 'f']
    else if c = '\x08' then ['\\', 'b']
    else if 0x20 ≤ c.toNat ∧ c.toNat < 0x7f then [c]
    else if c.toNat < 0x10000 then unitEscape c.toNat
    else
      let n := c.toNat - 0x10000
      unitEscape (0xd800 + n / 0x400) ++ unitEscape (0xdc00 + n % 0x400)

def quote (t : Text) : String := String.ofList ('"' :: t.symbols.flatMap escape ++ ['"'])

/-- A value without parts as it is written. Days and times have no form in JSON. -/
def scalar : Value → Written
  | .null => "null"
  | .bool b => if b then "true" else "false"
  | .int n => if LongInteger.isLong n then .broken (.longInteger none) else toString n
  | .float x => Double.text "NaN" "Infinity" x
  | .text s => quote s
  | .date _ | .time _ | .moment .. => .broken .noForm
  | .list _ | .tuple _ => "[]"
  | .table _ => "\x7b\x7d"

def lineBreak (level : Nat) : String := String.ofList ('\n' :: List.replicate (2 * level) ' ')

/-- The value is written at once, with what stands before it in a list. -/
def isAtOnce : Value → Bool
  | .null | .bool _ | .int _ | .float _ | .text _ => true
  | _ => false

mutual

def writeAt (level : Nat) : Value → Written
  | .list items =>
    writeList level items.isEmpty (writeItems (level + 1) (opening (level + 1)) items)
  | .tuple items =>
    writeList level items.isEmpty (writeItems (level + 1) (opening (level + 1)) items)
  | .table entries =>
    if entries.isEmpty then "\x7b\x7d"
    else
      writeMembers (level + 1) ("\x7b" ++ lineBreak (level + 1)) entries
        ++ lineBreak level ++ "\x7d"
  | .null => scalar .null
  | .bool b => scalar (.bool b)
  | .int n => scalar (.int n)
  | .float x => scalar (.float x)
  | .text s => scalar (.text s)
  | .date d => scalar (.date d)
  | .time t => scalar (.time t)
  | .moment d t offset => scalar (.moment d t offset)
where
  opening (level : Nat) : String := "[" ++ lineBreak level
  /-- A list of some elements as they are written. -/
  writeList (level : Nat) (isEmpty : Bool) (items : Written) : Written :=
    if isEmpty then "[]" else items ++ lineBreak level ++ "]"

/-- The elements of a list after what stands before the first one. A scalar is written at once with
what stands before it. -/
def writeItems (level : Nat) (lead : String) : List Value → Written
  | [] => ""
  | item :: rest =>
    let written := lead ++ writeAt level item
    (if isAtOnce item then written.atOnce else written)
      ++ writeItems level ("," ++ lineBreak level) rest

def writeMembers (level : Nat) (lead : String) : List (Text × Value) → Written
  | [] => ""
  | (key, item) :: rest =>
    lead ++ quote key ++ ": " ++ writeAt level item
      ++ writeMembers level ("," ++ lineBreak level) rest

end

def write (v : Value) : Written := writeAt 0 v

end Json

end SplitScreen
