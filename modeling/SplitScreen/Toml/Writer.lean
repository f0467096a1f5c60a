import SplitScreen.Decimal
import SplitScreen.Document
import SplitScreen.Text.Numeral
import SplitScreen.Toml.Lexical
import SplitScreen.Value

namespace SplitScreen

def Date.text (d : Date) : String :=
  String.ofList
    (Digits.fixed 4 d.year ++ '-' :: Digits.fixed 2 d.month ++ '-' :: Digits.fixed 2 d.day)

namespace TimeOfDay

/-- A fraction of a second stands only where there is one. -/
def text (t : TimeOfDay) : String :=
  let fraction := if t.micro = 0 then [] else '.' :: Digits.fixed 6 t.micro
  String.ofList
    (Digits.fixed 2 t.hour ++ ':' :: Digits.fixed 2 t.minute ++ ':' :: Digits.fixed 2 t.second
      ++ fraction)

def offsetText (minutes : Int) : String :=
  let n := minutes.natAbs
  String.ofList
    ((if minutes < 0 then '-' else '+')
      :: Digits.fixed 2 (n / 60) ++ ':' :: Digits.fixed 2 (n % 60))

end TimeOfDay

def Date.momentText (d : Date) (t : TimeOfDay) (offset : Option Int) : String :=
  d.text ++ "T" ++ t.text ++ (offset.map TimeOfDay.offsetText).getD ""

namespace Toml

def escapeSymbol : Symbol → List Symbol
  | .half place => [.half place]
  | .char c =>
    (if c = '"' ∨ c = '\\' then ['\\', c]
    else if c = '\x08' then ['\\', 'b']
    else if c = '\n' then ['\\', 'n']
    else if c = '\x0c' then ['\\', 'f']
    else if c = '\r' then ['\\', 'r']
    else if isIllegal c then '\\' :: 'u' :: Hex.fixed 4 c.toNat
    else [c]).map .char

def writeString (t : Text) : Text := "\"" ++ ⟨t.symbols.flatMap escapeSymbol⟩ ++ "\""

def writeKeyPart (t : Text) : Text :=
  if !t.isEmpty && t.symbols.all (Symbol.isOf isBareKeyChar) then t else writeString t

def indentation (level : Nat) : String := String.ofList (List.replicate (4 * level) ' ')

mutual

/-- Why a value cannot be written inside a line: it holds null, or an integer that is too long. The
first of these counts. -/
def lineFault? : Value → Option FileFault
  | .null => some .noForm
  | .int n => if LongInteger.isLong n then some (.longInteger none) else none
  | .list items => itemsFault? items
  | .tuple items => itemsFault? items
  | .table entries => entriesFault? entries
  | _ => none

def itemsFault? : List Value → Option FileFault
  | [] => none
  | item :: rest => (lineFault? item).or (itemsFault? rest)

def entriesFault? : List (Text × Value) → Option FileFault
  | [] => none
  | (_, item) :: rest => (lineFault? item).or (entriesFault? rest)

end

mutual

/-- The text of a value inside a line, or of an array that starts in it. -/
def writeInline (level : Nat) : Value → Text
  | .bool b => if b then "true" else "false"
  | .text t => writeString t
  | .list items => writeArray level (writeItems (level + 1) items)
  | .tuple items => writeArray level (writeItems (level + 1) items)
  | .table entries =>
    match writeEntries entries with
    | [] => "\x7b\x7d"
    | parts => "\x7b " ++ Text.joined ", " parts ++ " \x7d"
  | .null => ""
  | .int n => toString n
  | .float x => Double.text "nan" "inf" x
  | .date d => d.text
  | .time t => t.text
  | .moment d t offset => d.momentText t offset
where
  writeArray (level : Nat) : List Text → Text
    | [] => "[]"
    | parts =>
      "[\n" ++ Text.joined "" (parts.map fun part => indentation (level + 1) ++ part ++ ",\n")
        ++ indentation level ++ "]"

def writeItems (level : Nat) : List Value → List Text
  | [] => []
  | item :: rest => writeInline level item :: writeItems level rest

def writeEntries : List (Text × Value) → List Text
  | [] => []
  | (key, item) :: rest =>
    (writeKeyPart key ++ " = " ++ writeInline 0 item) :: writeEntries rest

end

def isTable : Value → Bool
  | .table _ => true
  | _ => false

/-- A table that fits a line of a hundred columns as an element of an array. -/
def fitsLine (v : Value) : Bool :=
  let line := indentation 1 ++ writeInline 0 v ++ ","
  decide (line.symbols.length ≤ 100) && !line.symbols.contains (.char '\n')

/-- Why it cannot be seen whether the tables of an array all fit a line. They are tried up to the
first one that does not. -/
def fitFault? : List Value → Option FileFault
  | [] => none
  | item :: rest =>
    match lineFault? item with
    | some fault => some fault
    | none => if fitsLine item then fitFault? rest else none

/-- Why it cannot be seen which entries of a table have sections of their own. -/
def sectionsFault? : List (Text × Value) → Option FileFault
  | [] => none
  | (_, .list items) :: rest | (_, .tuple items) :: rest =>
    (if items.all isTable then fitFault? items else none).or (sectionsFault? rest)
  | _ :: rest => sectionsFault? rest

/-- The value has sections of its own: it is a table, or an array of tables that do not all fit a
line. -/
def hasSections : Value → Bool
  | .table _ => true
  | .list items | .tuple items => !items.isEmpty && items.all isTable && !items.all fitsLine
  | _ => false

def sectionName (name key : Text) : Text :=
  if name.isEmpty then writeKeyPart key else name ++ "." ++ writeKeyPart key

def writeEntry (key : Text) (v : Value) : Written :=
  match lineFault? v with
  | some fault => .broken fault
  | none => .ofText (writeKeyPart key ++ " = " ++ writeInline 0 v ++ "\n")

/-- The header and the plain entries of a table. A table of tables alone needs no header. -/
def writeHead (name : Text) (element : Bool) (entries : List (Text × Value)) : Written :=
  -- The plain entries have to stand before the first section below, which would take them over.
  let plain := entries.filter fun entry => !hasSections entry.2
  let header :=
    if element then "[[" ++ name ++ "]]\n"
    else if !name.isEmpty && (!plain.isEmpty || entries.isEmpty) then "[" ++ name ++ "]\n"
    else ""
  Written.ofText header ++ Written.all (plain.map fun entry => writeEntry entry.1 entry.2)

mutual

def sections (name : Text) (element : Bool) : Value → List Written
  | .table entries =>
    match sectionsFault? entries with
    | some fault => [.broken fault]
    | none =>
      let head := writeHead name element entries
      let below := subsections name entries
      if head.isEmpty then below else head :: below
  | _ => []

def subsections (name : Text) : List (Text × Value) → List Written
  | [] => []
  | (key, .table entries) :: rest =>
    sections (sectionName name key) false (.table entries) ++ subsections name rest
  | (key, .list items) :: rest =>
    (if hasSections (.list items) then elementSections (sectionName name key) items else [])
      ++ subsections name rest
  | (key, .tuple items) :: rest =>
    (if hasSections (.tuple items) then elementSections (sectionName name key) items else [])
      ++ subsections name rest
  | _ :: rest => subsections name rest

def elementSections (name : Text) : List Value → List Written
  | [] => []
  | item :: rest => sections name true item ++ elementSections name rest

end

def write (entries : List (Text × Value)) : Written :=
  Written.joined "\n" (sections "" false (.table entries))

end Toml

end SplitScreen
