import SplitScreen.Document
import SplitScreen.Text
import SplitScreen.Text.Numeral

namespace SplitScreen

namespace Toml

def isBlank (c : Char) : Bool := c = ' ' || c = '\t'

def isBlankOrBreak (c : Char) : Bool := isBlank c || c = '\n'

def skipBlanks (cs : List Char) : List Char := cs.dropWhile isBlank

def isControl (c : Char) : Bool := decide (c.toNat < 0x20) || c = '\x7f'

def isIllegal (c : Char) : Bool := isControl c && c ≠ '\t'

/-- What may not stand in a string of several lines. -/
def isIllegalMultiline (c : Char) : Bool := isIllegal c && c ≠ '\n'

def skipComment : List Char → Except ReadError (List Char)
  | '#' :: rest =>
    if (rest.takeWhile (· ≠ '\n')).any isIllegal then .error .malformed
    else .ok (rest.dropWhile (· ≠ '\n'))
  | cs => .ok cs

def skipFiller : Nat → List Char → Except ReadError (List Char)
  | 0, cs => .ok cs
  | steps + 1, cs =>
    match cs.dropWhile isBlankOrBreak with
    | '#' :: rest => do skipFiller steps (← skipComment ('#' :: rest))
    | rest => .ok rest

/-- A string of one line in single quotes, after its opening mark: everything up to the next. -/
def literalString (cs : List Char) : Except ReadError (String × List Char) :=
  let body := cs.takeWhile (· ≠ '\'')
  match cs.dropWhile (· ≠ '\'') with
  | [] => .error .malformed
  | _ :: rest =>
    if body.any isIllegal then .error .malformed else .ok (String.ofList body, rest)

/-- A string of several lines may have up to two quotes right before its closing mark. -/
def trailingQuotes (mark : Char) (body rest : List Char) : String × List Char :=
  match rest with
  | a :: b :: more =>
    if a = mark then
      if b = mark then (String.ofList (body ++ [mark, mark]), more)
      else (String.ofList (body ++ [mark]), b :: more)
    else (String.ofList body, rest)
  | [a] => if a = mark then (String.ofList (body ++ [mark]), []) else (String.ofList body, rest)
  | [] => (String.ofList body, [])

def untilTripleQuote : List Char → Option (List Char × List Char)
  | [] => none
  | '\'' :: '\'' :: '\'' :: rest => some ([], rest)
  | c :: rest => (untilTripleQuote rest).map fun found => (c :: found.1, found.2)

/-- A line break right after an opening mark of three quotes is no part of the string. -/
def dropFirstBreak : List Char → List Char
  | '\n' :: rest => rest
  | cs => cs

def multilineLiteral (cs : List Char) : Except ReadError (String × List Char) :=
  match untilTripleQuote (dropFirstBreak cs) with
  | none => .error .malformed
  | some (body, rest) =>
    if body.any isIllegalMultiline then .error .malformed
    else .ok (trailingQuotes '\'' body rest)

def escapedChar? : Char → Option Char
  | 'b' => some '\x08'
  | 't' => some '\t'
  | 'n' => some '\n'
  | 'f' => some '\x0c'
  | 'r' => some '\r'
  | '"' => some '"'
  | '\\' => some '\\'
  | _ => none

def hexEscape (width : Nat) (cs : List Char) : Except ReadError (List Char × List Char) :=
  match Hex.ofDigits? (cs.take width) with
  | none => .error .malformed
  | some n =>
    if (cs.take width).length = width && n.isValidChar then .ok ([Char.ofNat n], cs.drop width)
    else .error .malformed

/-- A backslash at the end of a line joins it with the next text. -/
def joinLines : List Char → Except ReadError (List Char)
  | '\n' :: rest => .ok (rest.dropWhile isBlankOrBreak)
  | [] => .ok []
  | _ => .error .malformed

def escape (multiline : Bool) : List Char → Except ReadError (List Char × List Char)
  | 'u' :: rest => hexEscape 4 rest
  | 'U' :: rest => hexEscape 8 rest
  | c :: rest =>
    if multiline && c = '\n' then .ok ([], rest.dropWhile isBlankOrBreak)
    else if multiline && isBlank c then do return ([], ← joinLines (skipBlanks rest))
    else
      match escapedChar? c with
      | some e => .ok ([e], rest)
      | none => .error .malformed
  | [] => .error .malformed

def basicBody (multiline : Bool) : Nat → List Char → Except ReadError (List Char × List Char)
  | 0, _ | _, [] => .error .malformed
  | steps + 1, '"' :: rest =>
    if multiline then
      match rest with
      | '"' :: '"' :: rest => .ok ([], rest)
      -- One or two marks inside do not end a string of several lines.
      | rest => do
        let (body, rest) ← basicBody multiline steps rest
        return ('"' :: body, rest)
    else .ok ([], rest)
  | steps + 1, '\\' :: rest => do
    let (found, rest) ← escape multiline rest
    let (body, rest) ← basicBody multiline steps rest
    return (found ++ body, rest)
  | steps + 1, c :: rest =>
    if (if multiline then isIllegalMultiline c else isIllegal c) then .error .malformed
    else do
      let (body, rest) ← basicBody multiline steps rest
      return (c :: body, rest)

def basicString (cs : List Char) : Except ReadError (String × List Char) := do
  let (body, rest) ← basicBody false (cs.length + 1) cs
  return (String.ofList body, rest)

def multilineBasic (cs : List Char) : Except ReadError (String × List Char) := do
  let (body, rest) ← basicBody true (cs.length + 1) (dropFirstBreak cs)
  return trailingQuotes '"' body rest

def isBareKeyChar (c : Char) : Bool := c.isAlphanum || c = '-' || c = '_'

def keyPart : List Char → Except ReadError (String × List Char)
  | '\'' :: rest => literalString rest
  | '"' :: rest => basicString rest
  | cs =>
    match cs.takeWhile isBareKeyChar with
    | [] => .error .malformed
    | name => .ok (String.ofList name, cs.dropWhile isBareKeyChar)

def key : Nat → List Char → Except ReadError (List Text × List Char)
  | 0, _ => .error .malformed
  | steps + 1, cs => do
    let (part, rest) ← keyPart cs
    match skipBlanks rest with
    | '.' :: rest =>
      let (parts, rest) ← key steps (skipBlanks rest)
      return (part :: parts, rest)
    | rest => return ([part], rest)

end Toml

end SplitScreen
