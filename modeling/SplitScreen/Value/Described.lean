import SplitScreen.Decimal
import SplitScreen.Text
import SplitScreen.Text.Numeral
import SplitScreen.Text.Printable
import SplitScreen.Value

namespace SplitScreen

namespace Quoted

def mark (symbols : List Symbol) : Char :=
  if symbols.contains (.char '\'') && !symbols.contains (.char '"') then '"' else '\''

/-- A code point as an escape, with as few digits as there are forms for. -/
def numbered (code : Nat) : List Char :=
  if code < 0x100 then '\\' :: 'x' :: Hex.fixed 2 code
  else if code < 0x10000 then '\\' :: 'u' :: Hex.fixed 4 code
  else '\\' :: 'U' :: Hex.fixed 8 code

def escape (mark : Char) : Symbol → List Char
  | .half place => numbered (Symbol.half place).code
  | .char c =>
    if c = mark ∨ c = '\\' then ['\\', c]
    else if c = '\n' then ['\\', 'n']
    else if c = '\r' then ['\\', 'r']
    else if c = '\t' then ['\\', 't']
    else if isPrintable c then [c]
    else numbered c.toNat

end Quoted

def quoted (t : Text) : String :=
  let mark := Quoted.mark t.symbols
  String.ofList (mark :: t.symbols.flatMap (Quoted.escape mark) ++ [mark])

namespace TimeOfDay

/-- Trailing seconds and microseconds are left out when they are zero. -/
def parts (t : TimeOfDay) : List Nat :=
  if t.micro ≠ 0 then [t.hour, t.minute, t.second, t.micro]
  else if t.second ≠ 0 then [t.hour, t.minute, t.second]
  else [t.hour, t.minute]

end TimeOfDay

namespace Value

def commas (parts : List String) : String := ", ".intercalate parts

def describeNumbers (numbers : List Nat) : String := commas (numbers.map toString)

/-- An offset from universal time is a whole number of days plus seconds of a day. -/
def describeOffset (minutes : Int) : String :=
  if minutes = 0 then "datetime.timezone.utc"
  else
    let days := minutes.fdiv 1440
    let seconds := minutes.fmod 1440 * 60
    let parts := (if days = 0 then [] else [s!"days={days}"])
      ++ (if seconds = 0 then [] else [s!"seconds={seconds}"])
    "datetime.timezone(datetime.timedelta(" ++ commas parts ++ "))"

mutual

def describe : Value → String
  | null => "None"
  | bool b => if b then "True" else "False"
  | int n => toString n
  | float x => Double.text "nan" "inf" x
  | text s => quoted s
  | list items => "[" ++ commas (describeItems items) ++ "]"
  | tuple items =>
    match describeItems items with
    | [only] => "(" ++ only ++ ",)"
    | parts => "(" ++ commas parts ++ ")"
  | table entries => "\x7b" ++ commas (describeEntries entries) ++ "\x7d"
  | date d => "datetime.date(" ++ describeNumbers [d.year, d.month, d.day] ++ ")"
  | time t => "datetime.time(" ++ describeNumbers t.parts ++ ")"
  | moment d t offset =>
    "datetime.datetime(" ++ describeNumbers ([d.year, d.month, d.day] ++ t.parts)
      ++ (match offset with
        | none => ""
        | some minutes => ", tzinfo=" ++ describeOffset minutes)
      ++ ")"

def describeItems : List Value → List String
  | [] => []
  | item :: rest => item.describe :: describeItems rest

def describeEntries : List (Text × Value) → List String
  | [] => []
  | (key, item) :: rest => (quoted key ++ ": " ++ item.describe) :: describeEntries rest

end

mutual

def hasLongInteger : Value → Bool
  | int n => LongInteger.isLong n
  | list items => anyLongInteger items
  | tuple items => anyLongInteger items
  | table entries => anyLongEntry entries
  | _ => false

def anyLongInteger : List Value → Bool
  | [] => false
  | item :: rest => item.hasLongInteger || anyLongInteger rest

def anyLongEntry : List (Text × Value) → Bool
  | [] => false
  | (_, item) :: rest => item.hasLongInteger || anyLongEntry rest

end

/-- A message that ends with a value. An integer that is too long takes its place. -/
def describeAfter (message : String) (v : Value) : String :=
  if v.hasLongInteger then LongInteger.message none else message ++ v.describe

end Value

end SplitScreen
