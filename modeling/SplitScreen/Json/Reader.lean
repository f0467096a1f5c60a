import SplitScreen.Assoc
import SplitScreen.Document
import SplitScreen.Text.Numeral
import SplitScreen.Value

namespace SplitScreen

namespace Json

def isBlank (c : Char) : Bool := c = ' ' || c = '\t' || c = '\n' || c = '\r'

def skipBlanks (cs : List Char) : List Char := cs.dropWhile isBlank

def isHighSurrogate (n : Nat) : Bool := decide (0xd800 ≤ n ∧ n < 0xdc00)

def isLowSurrogate (n : Nat) : Bool := decide (0xdc00 ≤ n ∧ n < 0xe000)

def joinSurrogates (high low : Nat) : Char :=
  Char.ofNat (0x10000 + (high - 0xd800) * 0x400 + (low - 0xdc00))

def escapedChar? : Char → Option Char
  | '"' => some '"'
  | '\\' => some '\\'
  | '/' => some '/'
  | 'b' => some '\x08'
  | 'f' => some '\x0c'
  | 'n' => some '\n'
  | 'r' => some '\r'
  | 't' => some '\t'
  | _ => none

def codeUnit? : List Char → Option (Nat × List Char)
  | a :: b :: c :: d :: rest => (Hex.ofDigits? [a, b, c, d]).map (·, rest)
  | _ => none

def unicodeEscape? (cs : List Char) : Option (Symbol × List Char) := do
  let (unit, rest) ← codeUnit? cs
  if isHighSurrogate unit then
    match rest with
    | '\\' :: 'u' :: more =>
      match codeUnit? more with
      | some (low, rest') =>
        -- The second escape is used up only when it makes a pair with the first.
        if isLowSurrogate low then return (.char (joinSurrogates unit low), rest')
        else return (Symbol.ofUnit unit, rest)
      | none => return (Symbol.ofUnit unit, rest)
    | _ => return (Symbol.ofUnit unit, rest)
  else return (Symbol.ofUnit unit, rest)

def stringBody : Nat → List Char → Except ReadError (List Symbol × List Char)
  | 0, _ | _, [] => .error .malformed
  | _ + 1, '"' :: rest => .ok ([], rest)
  | steps + 1, '\\' :: 'u' :: rest =>
    match unicodeEscape? rest with
    | none => .error .malformed
    | some (symbol, rest) => do
      let (body, rest) ← stringBody steps rest
      return (symbol :: body, rest)
  | steps + 1, '\\' :: e :: rest =>
    match escapedChar? e with
    | none => .error .malformed
    | some c => do
      let (body, rest) ← stringBody steps rest
      return (.char c :: body, rest)
  | steps + 1, c :: rest =>
    if c.toNat < 0x20 ∨ c = '\\' then .error .malformed
    else do
      let (body, rest) ← stringBody steps rest
      return (.char c :: body, rest)

def string (cs : List Char) : Except ReadError (Text × List Char) := do
  let (body, rest) ← stringBody (cs.length + 1) cs
  return (⟨body⟩, rest)

/-- The integer part of a number: a zero, or digits that do not start with one. -/
def integerPart : List Char → List Char × List Char
  | '0' :: rest => (['0'], rest)
  | cs => Digits.span cs

def fractionPart : List Char → List Char × List Char
  | '.' :: rest =>
    match Digits.span rest with
    | ([], _) => ([], '.' :: rest)
    | found => found
  | cs => ([], cs)

def exponentPart (cs : List Char) : Option Int × List Char :=
  match cs with
  | e :: rest =>
    if e = 'e' ∨ e = 'E' then
      let (negative, digits) := match rest with
        | '-' :: more => (true, more)
        | '+' :: more => (false, more)
        | more => (false, more)
      match Digits.span digits with
      | ([], _) => (none, cs)
      | (found, after) =>
        let n : Int := Digits.toNat found
        (some (if negative then -n else n), after)
    else (none, cs)
  | [] => (none, cs)

def number (negative : Bool) (cs : List Char) : Except ReadError (Value × List Char) :=
  let (whole, afterWhole) := integerPart cs
  if whole.isEmpty then .error .malformed
  else
    let (fraction, afterFraction) := fractionPart afterWhole
    let (exponent, rest) := exponentPart afterFraction
    if fraction.isEmpty && exponent.isNone then
      if LongInteger.digitLimit < whole.length then .error (.longInteger whole.length)
      else
        let n : Int := Digits.toNat whole
        .ok (.int (if negative then -n else n), rest)
    else
      let x := Double.ofDecimal (Digits.toNat (whole ++ fraction))
        (exponent.getD 0 - (fraction.length : Int))
      .ok (.float (if negative then -x else x), rest)

def word (text : String) (v : Value) (cs : List Char) : Except ReadError (Value × List Char) :=
  if text.toList.isPrefixOf cs then .ok (v, cs.drop text.length) else .error .malformed

mutual

def value : Nat → List Char → Except ReadError (Value × List Char)
  | 0, _ | _, [] => .error .malformed
  | steps + 1, c :: rest =>
    match c with
    | '"' => do
      let (s, rest) ← string rest
      return (.text s, rest)
    | '[' =>
      match skipBlanks rest with
      | ']' :: rest => .ok (.list [], rest)
      | rest => do
        let (items, rest) ← items steps rest
        return (.list items, rest)
    | '\x7b' =>
      match skipBlanks rest with
      | '\x7d' :: rest => .ok (.table [], rest)
      | rest => do
        let (entries, rest) ← members steps rest
        return (.table (Assoc.ofList entries), rest)
    | 'n' => word "null" .null (c :: rest)
    | 't' => word "true" (.bool true) (c :: rest)
    | 'f' => word "false" (.bool false) (c :: rest)
    | 'N' => word "NaN" (.float (0.0 / 0.0)) (c :: rest)
    | 'I' => word "Infinity" (.float (1.0 / 0.0)) (c :: rest)
    | '-' =>
      match rest with
      | 'I' :: _ => word "Infinity" (.float (-1.0 / 0.0)) rest
      | _ => number true rest
    | _ => number false (c :: rest)

def items : Nat → List Char → Except ReadError (List Value × List Char)
  | 0, _ => .error .malformed
  | steps + 1, cs => do
    let (v, rest) ← value steps cs
    match skipBlanks rest with
    | ']' :: rest => return ([v], rest)
    | ',' :: rest =>
      let (vs, rest) ← items steps (skipBlanks rest)
      return (v :: vs, rest)
    | _ => .error .malformed

def members : Nat → List Char → Except ReadError (List (Text × Value) × List Char)
  | 0, _ => .error .malformed
  | steps + 1, '"' :: cs => do
    let (key, rest) ← string cs
    match skipBlanks rest with
    | ':' :: rest =>
      let (v, rest) ← value steps (skipBlanks rest)
      match skipBlanks rest with
      | '\x7d' :: rest => return ([(key, v)], rest)
      | ',' :: rest =>
        let (entries, rest) ← members steps (skipBlanks rest)
        return ((key, v) :: entries, rest)
      | _ => .error .malformed
    | _ => .error .malformed
  | _ + 1, _ => .error .malformed

end

def read (s : String) : Except ReadError Value := do
  let cs := s.toList
  let (v, rest) ← value (2 * cs.length + 2) (skipBlanks cs)
  if (skipBlanks rest).isEmpty then return v else .error .malformed

end Json

end SplitScreen
