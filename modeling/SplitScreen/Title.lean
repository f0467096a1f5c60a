import SplitScreen.Markup.Tag
import SplitScreen.Text.Characters
import SplitScreen.Text.Cluster
import SplitScreen.Text.StandIn
import SplitScreen.Text.Styled
import SplitScreen.Title.TagStyle

/-!
Titles of panes. A title is one line of text with tags. It is read, and then written again with
every tag that is open at the end closed there, and with backslashes before what is no tag but looks
like one.
-/

namespace SplitScreen

namespace Title

structure Body where
  chars : List Char
  /-- It is made of what may stand in a tag. -/
  isClean : Bool
  /-- The closing bracket is there. -/
  isClosed : Bool
  /-- The brackets after keys that are left open. -/
  depth : Nat
  /-- The text after it. -/
  rest : List Char
  deriving DecidableEq, Repr

namespace Body

def unclosed (depth : Nat) : Body := ⟨[], true, false, depth, []⟩

def closed (depth : Nat) (rest : List Char) : Body := ⟨[], true, true, depth, rest⟩

def after (cs : List Char) (b : Body) : Body := { b with chars := cs ++ b.chars }

/-- What stands after a key, up to the closing bracket; fails at what may not stand there. A bracket
that closes nothing ends the tag too. -/
def readValue? (depth : Nat) : Nat → List Char → Option Body
  | _, [] => some (unclosed depth)
  | _, ']' :: rest => some (closed depth rest)
  | 0, _ => none
  | steps + 1, cs => do
    let token ← Token.readValue? cs
    -- The bracket that ends the tag here is lost: it is no part of the tag and not shown.
    if token.kind = .closing ∧ depth = 0 then return closed 0 token.rest
    else
      let depth := match token.kind with
        | .opening => depth + 1
        | .closing => depth - 1
        | _ => depth
      return (← readValue? depth steps token.rest).after token.chars

/-- Reads a tag after the bracket or the character before it, with some brackets left open by the
tags before it. -/
def read? (depth : Nat) (before : Option Char) : Nat → List Char → Option Body
  | 0, _ | _, [] => some (unclosed depth)
  | steps + 1, c :: rest =>
    if c = ']' && before ≠ some '\\' then some (closed depth rest)
    else
      match Token.read? (c :: rest) with
      | none => do
        let b ← read? depth (some c) steps rest
        return { b.after [c] with isClean := false }
      | some token => do
        let b ← if token.kind = .key then readValue? depth steps token.rest
          else read? depth token.chars.getLast? steps token.rest
        return b.after token.chars

end Body

inductive Part
  | text (cs : List Char)
  | opening (body : List Char)
  | closing (body : List Char)
  deriving DecidableEq, Repr

/-- The part that an opening bracket starts. A tag without an end, with other text in it or of
blanks alone is text. -/
def Part.ofBody (b : Body) : Part :=
  if !b.isClosed then .text ('[' :: b.chars)
  else if b.isClean && !b.chars.all isBlank then .opening b.chars
  else .text ('[' :: b.chars ++ [']'])

def addChar (c : Char) : List Part → List Part
  | .text cs :: rest => .text (c :: cs) :: rest
  | rest => .text [c] :: rest

/-- The parts of a text. A backslash before an opening bracket makes it text. -/
def parts (depth : Nat) : Nat → List Char → Option (List Part)
  | 0, _ | _, [] => some []
  | steps + 1, '\\' :: '[' :: rest => (parts depth steps rest).map (addChar '[')
  | steps + 1, '[' :: '/' :: rest => do
    let b ← Body.read? depth (some '/') steps rest
    return .closing b.chars :: (← parts b.depth steps b.rest)
  | steps + 1, '[' :: rest => do
    let b ← Body.read? depth (some '[') steps rest
    return .ofBody b :: (← parts b.depth steps b.rest)
  | steps + 1, c :: rest => (parts depth steps rest).map (addChar c)

/-- A tag that is open: where its text starts, what stands in it, and its normal form. -/
structure Opened where
  start : Nat
  body : List Char
  normal : String
  deriving DecidableEq, Repr

def Opened.span? (t : Opened) (stop : Nat) : Option Span :=
  if t.start = stop then none else some ⟨t.start, stop, String.ofList t.body⟩

/-- The tag that a closing tag closes, and the others that are open, the last one first. One of no
normal form closes the last one. -/
def close? (normal : String) (opened : List Opened) : Option (Opened × List Opened) :=
  if normal.isEmpty then
    match opened with
    | [] => none
    | last :: rest => some (last, rest)
  else (opened.find? (·.normal = normal)).map fun t => (t, opened.eraseP (·.normal = normal))

def build? (opened : List Opened) (before : Styled) : List Part → Option Styled
  | [] =>
    let length := before.chars.length
    some { before with spans := before.spans ++ opened.filterMap (·.span? length) }
  | .text cs :: rest => build? opened { before with chars := before.chars ++ cs } rest
  | .opening body :: rest =>
    build? (⟨before.chars.length, body, TagStyle.normal body⟩ :: opened) before rest
  | .closing body :: rest => do
    let (closed, remaining) ← close? (TagStyle.normal body) opened
    build? remaining
      { before with spans := before.spans ++ (closed.span? before.chars.length).toList } rest

def styled? (cs : List Char) : Option Styled := do
  let s ← build? [] ⟨[], []⟩ (← parts 0 cs.length cs)
  return { s with spans := s.spans.reverse.mergeSort fun a b => decide (a.start ≤ b.start) }

def tabWidth : Nat := 4

def expand (column : Nat) : List Char → List Char
  | [] => []
  | c :: rest =>
    if c = '\t' then
      List.replicate (tabWidth - column % tabWidth) ' ' ++ expand 0 rest
    else c :: expand (if c = '\n' then 0 else column + 1) rest

/-- The lengths of the pieces of a text that end with tabs and line breaks, and of what is left. -/
def pieceLengths (length : Nat) : List Char → List Nat
  | [] => [length]
  | c :: rest =>
    if c = '\t' ∨ c = '\n' then (length + 1) :: pieceLengths 0 rest
    else pieceLengths (length + 1) rest

/-- Pieces of a line with tags, from a column on. A tab becomes a blank and others up to the next
place, and the tags on it go on over them. -/
def expandPieces (column : Nat) : List Styled → List Styled
  | [] => []
  | piece :: rest =>
    match piece.chars.getLast? with
    | some '\t' =>
      let spaced := { piece with chars := piece.chars.dropLast ++ [' '] }
      let reached := column + Columns.ofText spaced.chars
      let stop := (reached + tabWidth - 1) / tabWidth * tabWidth
      spaced.extend (stop - reached) :: expandPieces stop rest
    | some '\n' => piece :: expandPieces 0 rest
    | _ => piece :: expandPieces (column + Columns.ofText piece.chars) rest

def withoutTabs (s : Styled) : Styled :=
  if !s.chars.contains '\t' then s
  else if s.spans.isEmpty then ⟨expand 0 s.chars, []⟩
  else Styled.join (expandPieces 0 (s.slices 0 (pieceLengths 0 s.chars)))

def firstLine (s : Styled) : Styled :=
  if s.chars.contains '\n' then s.slice 0 (s.chars.takeWhile (· ≠ '\n')).length else s

/-- A text with backslashes before what looks like a tag, and before a backslash at its end. -/
def escape (cs : List Char) : List Char :=
  match h : Markup.tag? cs with
  | some (backslashes, body, rest) =>
    have := Markup.length_lt_of_tag? h
    List.replicate (2 * backslashes + 1) '\\' ++ '[' :: body ++ ']' :: escape rest
  | none =>
    match cs with
    | [] => []
    | c :: rest => c :: escape rest
termination_by cs.length

/-- A backslash alone at the end of a text would escape what comes after it. -/
def closeEscape (cs : List Char) : List Char :=
  match cs.reverse with
  | '\\' :: '\\' :: _ => cs
  | '\\' :: _ => cs ++ ['\\']
  | _ => cs

structure Boundary where
  offset : Nat
  isClosing : Bool
  body : String
  deriving DecidableEq, Repr

namespace Boundary

/-- Tags stand in the order of their places, at one place the opening ones first. -/
def precedes (a b : Boundary) : Bool :=
  decide (a.offset < b.offset) || (a.offset == b.offset && (!a.isClosing || b.isClosing))

def chars (b : Boundary) : List Char :=
  if b.isClosing then '[' :: '/' :: b.body.toList ++ [']'] else '[' :: b.body.toList ++ [']']

end Boundary

def boundaries (s : Styled) : List Boundary :=
  let openings := s.spans.map fun span => Boundary.mk span.start false span.style
  let closings := s.spans.map fun span => Boundary.mk span.stop true span.style
  (openings ++ closings).mergeSort Boundary.precedes

def fragment (cs : List Char) (start stop : Nat) : List Char :=
  if start < stop then closeEscape (escape ((cs.drop start).take (stop - start))) else []

def writeFrom (cs : List Char) (position : Nat) : List Boundary → List Char
  | [] => fragment cs position cs.length
  | b :: rest =>
    fragment cs position b.offset ++ b.chars ++ writeFrom cs (max position b.offset) rest

def write (s : Styled) : List Char := writeFrom s.chars 0 (boundaries s)

def line? (cs : List Char) : Option (List Char) := do
  let cs := strip cs
  let s ← if cs.contains '[' then styled? cs else some ⟨cs, []⟩
  return write (firstLine (withoutTabs s))

end Title

def Text.title? (t : Text) : Option Text :=
  let block := StandIn.block [t]
  (Title.line? (StandIn.veil block t)).map (StandIn.unveil block)

end SplitScreen
