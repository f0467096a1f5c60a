import SplitScreen.Document
import SplitScreen.Text.Numeral
import SplitScreen.Value

namespace SplitScreen

namespace Date

def isLeap (year : Nat) : Bool := year % 4 = 0 && (year % 100 ≠ 0 || year % 400 = 0)

def daysIn (year month : Nat) : Nat :=
  match month with
  | 2 => if isLeap year then 29 else 28
  | 4 | 6 | 9 | 11 => 30
  | _ => 31

/-- The day is in the calendar, which starts with the year one. -/
def isValid (d : Date) : Bool :=
  decide (1 ≤ d.year ∧ 1 ≤ d.month ∧ d.month ≤ 12 ∧ 1 ≤ d.day ∧ d.day ≤ daysIn d.year d.month)

end Date

namespace Toml

def digitsAfter (isDigit : Char → Bool) : List Char → List Char × List Char
  | '_' :: c :: rest =>
    if isDigit c then
      let (found, after) := digitsAfter isDigit rest
      (c :: found, after)
    else ([], '_' :: c :: rest)
  | c :: rest =>
    if isDigit c then
      let (found, after) := digitsAfter isDigit rest
      (c :: found, after)
    else ([], c :: rest)
  | [] => ([], [])

def digits (isDigit : Char → Bool) : List Char → List Char × List Char
  | '_' :: rest => ([], '_' :: rest)
  | cs => digitsAfter isDigit cs

def isDigitOf (base : Nat) (c : Char) : Bool :=
  match Hex.value? c with
  | some n => decide (n < base)
  | none => false

def based (base : Nat) (cs : List Char) : Option (Value × List Char) :=
  match digits (isDigitOf base) cs with
  | ([], _) => none
  | (found, rest) =>
    let n := found.foldl (fun n c => base * n + (Hex.value? c).getD 0) 0
    some (.int (n : Int), rest)

/-- The whole part of a decimal number: a zero alone, or digits that do not start with one. -/
def wholePart : List Char → List Char × List Char
  | '0' :: rest => (['0'], rest)
  | cs => digits Char.isDigit cs

def fractionPart : List Char → List Char × List Char
  | '.' :: rest =>
    match digits Char.isDigit rest with
    -- A point without digits is no part of the number; it is left for what comes next.
    | ([], _) => ([], '.' :: rest)
    | found => found
  | cs => ([], cs)

def exponentPart (cs : List Char) : Option Int × List Char :=
  match cs with
  | e :: rest =>
    if e = 'e' ∨ e = 'E' then
      let (negative, more) := match rest with
        | '-' :: more => (true, more)
        | '+' :: more => (false, more)
        | more => (false, more)
      match digits Char.isDigit more with
      | ([], _) => (none, cs)
      | (found, after) =>
        let n : Int := Digits.toNat found
        (some (if negative then -n else n), after)
    else (none, cs)
  | [] => (none, cs)

def decimal (negative : Bool) (cs : List Char) : Except ReadError (Option (Value × List Char)) :=
  let (whole, afterWhole) := wholePart cs
  if whole.isEmpty then .ok none
  else
    let (fraction, afterFraction) := fractionPart afterWhole
    let (exponent, rest) := exponentPart afterFraction
    if fraction.isEmpty && exponent.isNone then
      -- Only integers have a limit; the digits of a double are rounded.
      if LongInteger.digitLimit < whole.length then .error (.longInteger whole.length)
      else
        let n : Int := Digits.toNat whole
        .ok (some (.int (if negative then -n else n), rest))
    else
      let x := Double.ofDecimal (Digits.toNat (whole ++ fraction))
        (exponent.getD 0 - (fraction.length : Int))
      .ok (some (.float (if negative then -x else x), rest))

def wordNumber (negative : Bool) : List Char → Option (Value × List Char)
  | 'i' :: 'n' :: 'f' :: rest => some (.float (if negative then -1.0 / 0.0 else 1.0 / 0.0), rest)
  | 'n' :: 'a' :: 'n' :: rest => some (.float (0.0 / 0.0), rest)
  | _ => none

def signedNumber (negative : Bool) (cs : List Char) : Except ReadError (Value × List Char) := do
  match ← decimal negative cs with
  | some found => return found
  | none =>
    match wordNumber negative cs with
    | some found => return found
    | none => .error .malformed

/-- A number. Only a number without a sign may be in another base. -/
def number : List Char → Except ReadError (Value × List Char)
  | '+' :: rest => signedNumber false rest
  | '-' :: rest => signedNumber true rest
  | cs =>
    let inBase := match cs with
      | '0' :: 'x' :: rest => based 16 rest
      | '0' :: 'o' :: rest => based 8 rest
      | '0' :: 'b' :: rest => based 2 rest
      | _ => none
    match inBase with
    | some found => .ok found
    | none => signedNumber false cs

def fixedNumber (width : Nat) (cs : List Char) : Option (Nat × List Char) :=
  let found := cs.take width
  if found.length = width && found.all Char.isDigit then
    some (Digits.toNat found, cs.drop width)
  else none

def expect (c : Char) : List Char → Option (List Char)
  | d :: rest => if c = d then some rest else none
  | [] => none

def date? (cs : List Char) : Option (Date × List Char) := do
  let (year, rest) ← fixedNumber 4 cs
  let (month, rest) ← fixedNumber 2 (← expect '-' rest)
  let (day, rest) ← fixedNumber 2 (← expect '-' rest)
  -- The calendar is looked at later on: what has this form is a day, or a fault, and no number.
  if 1 ≤ month ∧ month ≤ 12 ∧ 1 ≤ day ∧ day ≤ 31 then some (⟨year, month, day⟩, rest) else none

/-- The microseconds of a fraction of a second; further digits are ignored. -/
def micros (cs : List Char) : Nat × List Char :=
  match cs with
  | '.' :: rest =>
    match Digits.span rest with
    | ([], _) => (0, cs)
    | (found, after) =>
      let six := (found ++ List.replicate 6 '0').take 6
      (Digits.toNat six, after)
  | _ => (0, cs)

def time? (cs : List Char) : Option (TimeOfDay × List Char) := do
  let (hour, rest) ← fixedNumber 2 cs
  let (minute, rest) ← fixedNumber 2 (← expect ':' rest)
  let (second, rest) ← fixedNumber 2 (← expect ':' rest)
  if hour < 24 ∧ minute < 60 ∧ second < 60 then
    let (micro, rest) := micros rest
    some (⟨hour, minute, second, micro⟩, rest)
  else none

def offset (cs : List Char) : Option Int × List Char :=
  let found : Option (Int × List Char) := do
    let (sign, rest) ← match cs with
      | '+' :: rest => some (1, rest)
      | '-' :: rest => some (-1, rest)
      | _ => none
    let (hour, rest) ← fixedNumber 2 rest
    let (minute, rest) ← fixedNumber 2 (← expect ':' rest)
    if hour < 24 ∧ minute < 60 then some (sign * ((60 * hour + minute : Nat) : Int), rest) else none
  match cs, found with
  | 'Z' :: rest, _ | 'z' :: rest, _ => (some 0, rest)
  | _, some (minutes, rest) => (some minutes, rest)
  | _, none => (none, cs)

def dateOrMoment? (cs : List Char) : Option (Date × Value × List Char) := do
  let (d, rest) ← date? cs
  let timed : Option (TimeOfDay × List Char) := match rest with
    | mark :: more => if mark = 'T' ∨ mark = 't' ∨ mark = ' ' then time? more else none
    | [] => none
  match timed with
  | none => return (d, .date d, rest)
  | some (t, rest) =>
    let (minutes, rest) := offset rest
    return (d, .moment d t minutes, rest)

def scalar (cs : List Char) : Except ReadError (Value × List Char) :=
  match dateOrMoment? cs with
  | some (d, v, rest) => if d.isValid then .ok (v, rest) else .error .malformed
  | none =>
    match time? cs with
    | some (t, rest) => .ok (.time t, rest)
    | none => number cs

end Toml

end SplitScreen
