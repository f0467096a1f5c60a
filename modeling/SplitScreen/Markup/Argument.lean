import SplitScreen.Markup.Argument.Token
import SplitScreen.Text.Characters
import SplitScreen.Text.WordChar

namespace SplitScreen

namespace Argument

/-- Data as far as it matters for what stands around it. -/
inductive Datum
  | real
  | imaginary
  | signed
  /-- Other data that may be a key. -/
  | key
  | noKey
  /-- The start of a call for an empty set, which is no data alone. -/
  | setName
  deriving DecidableEq, Repr

namespace Datum

def isKey (d : Datum) : Bool := d != noKey

end Datum

inductive Progress
  | start
  | sign
  | quoted (bytes : Bool)
  | whole (d : Datum)
  /-- A real number and a sign, before an imaginary number. -/
  | half
  deriving DecidableEq, Repr

namespace Progress

/-- Goes on with data. A sign stands before numbers alone, and only an imaginary number can be
added. -/
def operand : Progress → Datum → Option Progress
  | start, d => some (whole d)
  | sign, .real => some (whole .signed)
  | sign, .imaginary | half, .imaginary => some (whole .key)
  | _, _ => none

def signed : Progress → Option Progress
  | start => some sign
  | whole .real | whole .signed => some half
  | _ => none

/-- Goes on with a text in quotes. Texts in a row are one text, and so are bytes. -/
def quotation (bytes : Bool) : Progress → Option Progress
  | start => some (quoted bytes)
  | quoted before => if before = bytes then some (quoted bytes) else none
  | _ => none

def awaits : Progress → Bool
  | start | sign | half => true
  | quoted _ | whole _ => false

def expression? : Progress → Option Datum
  | quoted _ => some .key
  | whole d => some d
  | start | sign | half => none

def datum? (p : Progress) : Option Datum :=
  match p.expression? with
  | some .setName => none
  | found => found

end Progress

/-- Brackets that are open, or the whole argument, with what has been read in them. -/
inductive Bracket
  /-- Round brackets, with a comma so far, and with keys alone. -/
  | round (comma keys : Bool)
  /-- Curly brackets of which the first data is still to come. -/
  | curly
  | set
  /-- A table of which a key comes next. -/
  | tableKey
  /-- A table of which a value comes next. -/
  | tableValue
  deriving DecidableEq, Repr

namespace Bracket

def comma (d : Datum) : Bracket → Option Bracket
  | round _ keys => some (round true (keys && d.isKey))
  | curly | set => if d.isKey then some set else none
  | tableKey => none
  | tableValue => some tableKey

def colon (d : Datum) : Bracket → Option Bracket
  | curly | tableKey => if d.isKey then some tableValue else none
  | round .. | set | tableValue => none

/-- The data of brackets that close. Without a comma, round brackets change nothing. -/
def close (curlyEnd : Bool) (p : Progress) : Bracket → Option Datum
  | round comma keys =>
    if curlyEnd then none
    else if p = .start then some (if keys then .key else .noKey)
    else if comma then p.datum?.map fun d => if keys && d.isKey then .key else .noKey
    else p.expression?
  | curly | set =>
    if !curlyEnd then none
    else if p = .start then some .noKey
    else p.datum?.bind fun d => if d.isKey then some .noKey else none
  | tableKey => if curlyEnd && p = .start then some .noKey else none
  | tableValue => if curlyEnd then p.datum?.map fun _ => .noKey else none

end Bracket

/-- Reads tokens to their end, in a bracket, after some progress, with the brackets around it and
what was read before them. The argument itself counts as a pair of round brackets. -/
def accepts (outer : List (Bracket × Progress)) (b : Bracket) (p : Progress) : List Token → Bool
  | [] =>
    outer.isEmpty &&
      match p.datum?, b with
      | some _, _ => true
      -- A comma may end the argument, which is a tuple then.
      | none, .round comma _ => comma && p = .start
      | none, _ => false
  | .opening false :: .closing false :: rest =>
    -- After the name of a call empty brackets are the call; elsewhere they are a tuple.
    if p = .whole .setName then accepts outer b (.whole .noKey) rest
    else
      match p.operand .key with
      | some p => accepts outer b p rest
      | none => false
  | t :: rest =>
    match t with
    | .number imaginary =>
      match p.operand (if imaginary then .imaginary else .real) with
      | some p => accepts outer b p rest
      | none => false
    | .quoted bytes =>
      match p.quotation bytes with
      | some p => accepts outer b p rest
      | none => false
    | .constant =>
      match p.operand .key with
      | some p => accepts outer b p rest
      | none => false
    | .setName =>
      match p.operand .setName with
      | some p => accepts outer b p rest
      | none => false
    | .sign =>
      match p.signed with
      | some p => accepts outer b p rest
      | none => false
    | .comma =>
      match p.datum?.bind fun d => b.comma d with
      | some b => accepts outer b .start rest
      | none => false
    | .colon =>
      match p.datum?.bind fun d => b.colon d with
      | some b => accepts outer b .start rest
      | none => false
    | .opening curly =>
      p.awaits &&
        accepts ((b, p) :: outer) (if curly then .curly else .round false true) .start rest
    | .closing curly =>
      match outer, b.close curly p with
      | (b, before) :: outer, some d =>
        match before.operand d with
        | some p => accepts outer b p rest
        | none => false
      | _, _ => false
    | .lineEnd =>
      rest.all (· = .lineEnd) && accepts outer b p []

def unifyLineEnds : List Char → List Char
  | '\r' :: '\n' :: rest => '\n' :: unifyLineEnds rest
  | '\r' :: rest => '\n' :: unifyLineEnds rest
  | c :: rest => c :: unifyLineEnds rest
  | [] => []

def isData (cs : List Char) : Bool :=
  !cs.contains '\x00' &&
    match Token.skipEmptyLines 0 0 (unifyLineEnds cs) with
    | none => false
    | some lines =>
      match Token.ofText (lines.length + 1) 0 lines with
      | none => false
      | some tokens => accepts [] (.round false true) .start tokens

/-- The data after the name of an action; without brackets it is an empty tuple. Where there is no
such name, the whole text is data. -/
def data (cs : List Char) : List Char :=
  match cs.dropWhile fun c => isWordChar c || c == '.' with
  | [] => ['(', ')']
  | '(' :: rest =>
    if rest.getLast? == some ')' && !rest.contains '\n' then '(' :: rest else cs
  | _ => cs

def isValid (isStandIn : Char → Bool) (cs : List Char) : Bool :=
  let found := data (Blank.trim cs)
  !found.any isStandIn && isData found

end Argument

end SplitScreen
