import SplitScreen.Assoc
import SplitScreen.Toml.Lexical
import SplitScreen.Toml.Scalar

namespace SplitScreen

namespace Toml

abbrev Table := Assoc Text Value

/-- Changes the table at the end of a path and opens what is missing on the way. A path may lead
on from the last table of an array where that is allowed; through any other value it fails. -/
def changeAt (throughArrays : Bool) (path : List Text) (change : Table → Option Table)
    (t : Table) : Option Table :=
  match path with
  | [] => change t
  | k :: path =>
    match Assoc.find? k t with
    | none => do return Assoc.insert k (.table (← changeAt throughArrays path change [])) t
    | some (.table inner) => do
      return Assoc.insert k (.table (← changeAt throughArrays path change inner)) t
    | some (.list items) =>
      match throughArrays, items.getLast? with
      -- The path goes on in the element that was declared last.
      | true, some (.table inner) => do
        let last ← changeAt throughArrays path change inner
        return Assoc.insert k (.list (items.dropLast ++ [.table last])) t
      | _, _ => none
    | some _ => none

def setNew (k : Text) (v : Value) (t : Table) : Option Table :=
  if Assoc.contains k t then none else some (Assoc.insert k v t)

def appendTable (k : Text) (t : Table) : Option Table :=
  match Assoc.find? k t with
  | none => some (Assoc.insert k (.list [.table []]) t)
  | some (.list items) => some (Assoc.insert k (.list (items ++ [.table []])) t)
  | some _ => none

/-- Arrays and inline tables are whole as they are written. -/
def isInline : Value → Bool
  | .list _ | .table _ => true
  | _ => false

def isBelow (paths : List (List Text)) (path : List Text) : Bool :=
  paths.any (·.isPrefixOf path)

mutual

def value : Nat → List Char → Except ReadError (Value × List Char)
  | 0, _ => .error .malformed
  | steps + 1, cs =>
    match cs with
    | '"' :: '"' :: '"' :: rest => do
      let (s, rest) ← multilineBasic rest
      return (.text s, rest)
    | '"' :: rest => do
      let (s, rest) ← basicString rest
      return (.text s, rest)
    | '\'' :: '\'' :: '\'' :: rest => do
      let (s, rest) ← multilineLiteral rest
      return (.text s, rest)
    | '\'' :: rest => do
      let (s, rest) ← literalString rest
      return (.text s, rest)
    | 't' :: 'r' :: 'u' :: 'e' :: rest => .ok (.bool true, rest)
    | 'f' :: 'a' :: 'l' :: 's' :: 'e' :: rest => .ok (.bool false, rest)
    | '[' :: rest => do
      let (items, rest) ← array steps rest
      return (.list items, rest)
    | '\x7b' :: rest =>
      match skipBlanks rest with
      | '\x7d' :: rest => .ok (.table [], rest)
      | rest => do
        let (t, rest) ← inlineTable steps [] [] rest
        return (.table t, rest)
    | cs => scalar cs

/-- The elements of an array up to its closing bracket; a comma may stand before it. -/
def array : Nat → List Char → Except ReadError (List Value × List Char)
  | 0, _ => .error .malformed
  | steps + 1, cs => do
    match ← skipFiller (cs.length + 1) cs with
    | ']' :: rest => return ([], rest)
    | rest =>
      let (v, rest) ← value steps rest
      match ← skipFiller (rest.length + 1) rest with
      | ']' :: rest => return ([v], rest)
      | ',' :: rest =>
        let (vs, rest) ← array steps rest
        return (v :: vs, rest)
      | _ => .error .malformed

def keyValue : Nat → List Char → Except ReadError ((List Text × Value) × List Char)
  | 0, _ => .error .malformed
  | steps + 1, cs => do
    let (path, rest) ← key (cs.length + 1) cs
    match rest with
    | '=' :: rest =>
      let (v, rest) ← value steps (skipBlanks rest)
      return ((path, v), rest)
    | _ => .error .malformed

def inlineTable : Nat → List (List Text) → Table → List Char →
    Except ReadError (Table × List Char)
  | 0, _, _, _ => .error .malformed
  | steps + 1, fixedPaths, t, cs => do
    let ((path, v), rest) ← keyValue steps cs
    if isBelow fixedPaths path then .error .malformed
    else
      -- No path leads through an array here: its elements are whole.
      match changeAt false path.dropLast (setNew (path.getLast?.getD "") v) t with
      | none => .error .malformed
      | some t =>
        match skipBlanks rest with
        | '\x7d' :: rest => return (t, rest)
        | ',' :: rest =>
          inlineTable steps (if isInline v then path :: fixedPaths else fixedPaths) t
            (skipBlanks rest)
        | _ => .error .malformed

end

/-- A document in the making: its table, the section that keys go to, the paths that cannot be
declared, those that join them with the next section, and the paths of inline values. -/
structure Draft where
  table : Table
  section_ : List Text
  declared : List (List Text)
  opened : List (List Text)
  fixedPaths : List (List Text)

namespace Draft

def empty : Draft := ⟨[], [], [], [], []⟩

/-- Ends a section: what its dotted keys opened cannot be declared any more. -/
def endSection (d : Draft) : Draft := { d with declared := d.declared ++ d.opened, opened := [] }

def declareTable (d : Draft) (path : List Text) : Option Draft :=
  if d.declared.contains path || isBelow d.fixedPaths path then none
  else do
    let table ← changeAt true path some d.table
    return { d with table := table, section_ := path, declared := path :: d.declared }

/-- Declares the next table of an array. What was declared below the last one is free again. -/
def declareElement (d : Draft) (path : List Text) : Option Draft :=
  if isBelow d.fixedPaths path then none
  else do
    let table ← changeAt true path.dropLast (appendTable (path.getLast?.getD "")) d.table
    return { d with
      table := table
      section_ := path
      declared := path :: d.declared.filter (!path.isPrefixOf ·)
      fixedPaths := d.fixedPaths.filter (!path.isPrefixOf ·) }

/-- The tables that a dotted key opens, from the outermost. -/
def openedBy (d : Draft) (path : List Text) : List (List Text) :=
  (List.range path.length).filterMap fun n =>
    if n = 0 then none else some (d.section_ ++ path.take n)

def set (d : Draft) (path : List Text) (v : Value) : Option Draft :=
  let parent := d.section_ ++ path.dropLast
  if (d.openedBy path).any d.declared.contains || isBelow d.fixedPaths parent then none
  else do
    -- What the key opens is noted for the next section only: this one may go on using it.
    let table ← changeAt true parent (setNew (path.getLast?.getD "") v) d.table
    return { d with
      table := table
      opened := d.opened ++ d.openedBy path
      fixedPaths :=
        if isInline v then (d.section_ ++ path) :: d.fixedPaths else d.fixedPaths }

end Draft

def orMalformed {α : Type} : Option α → Except ReadError α
  | some a => .ok a
  | none => .error .malformed

def declaration (d : Draft) (cs : List Char) : Except ReadError (Draft × List Char) := do
  match cs with
  | '[' :: rest =>
    let (path, rest) ← key (rest.length + 1) (skipBlanks rest)
    let d ← orMalformed (d.endSection.declareElement path)
    match rest with
    | ']' :: ']' :: rest => return (d, rest)
    | _ => .error .malformed
  | rest =>
    let (path, rest) ← key (rest.length + 1) (skipBlanks rest)
    let d ← orMalformed (d.endSection.declareTable path)
    match rest with
    | ']' :: rest => return (d, rest)
    | _ => .error .malformed

def startsKey (c : Char) : Bool := isBareKeyChar c || c = '"' || c = '\''

def statement (d : Draft) (cs : List Char) : Except ReadError (Draft × List Char) := do
  match cs with
  | '[' :: rest =>
    let (d, rest) ← declaration d rest
    return (d, skipBlanks rest)
  | '#' :: rest => return (d, '#' :: rest)
  | c :: rest =>
    if startsKey c then
      let ((path, v), rest) ← keyValue (2 * cs.length + 2) (c :: rest)
      let d ← orMalformed (d.set path v)
      return (d, skipBlanks rest)
    else .error .malformed
  | [] => return (d, [])

def statements : Nat → Draft → List Char → Except ReadError Draft
  | 0, _, _ => .error .malformed
  | steps + 1, d, cs => do
    match skipBlanks cs with
    | [] => return d
    | '\n' :: rest => statements steps d rest
    | cs =>
      let (d, rest) ← statement d cs
      match ← skipComment rest with
      | [] => return d
      | '\n' :: rest => statements steps d rest
      | _ => .error .malformed

/-- A carriage return before a line break is no part of the text. -/
def joinBreaks : List Char → List Char
  | '\r' :: '\n' :: rest => '\n' :: joinBreaks rest
  | c :: rest => c :: joinBreaks rest
  | [] => []

def read (s : String) : Except ReadError Table := do
  let cs := joinBreaks s.toList
  return (← statements (cs.length + 1) .empty cs).table

end Toml

end SplitScreen
