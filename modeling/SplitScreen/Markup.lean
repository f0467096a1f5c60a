import SplitScreen.Markup.Argument
import SplitScreen.Markup.Highlight
import SplitScreen.Markup.Style
import SplitScreen.Markup.Tag
import SplitScreen.Text.Characters
import SplitScreen.Text.Emoji
import SplitScreen.Text.Styled

/-!
Text with markup. A tag in square brackets opens a style, and one that starts with a slash closes
it; a backslash before a tag makes it text. Tags are not shown, and names of emoji are replaced.
Without colours the styles show only in how a line is cut, segment by segment, and in the faults of
colours that cannot be drawn.
-/

namespace SplitScreen

namespace Markup

inductive Fault
  /-- A closing tag without its opening tag. -/
  | unopened
  | badArgument
  | emptyNumber
  deriving DecidableEq, Repr

namespace Fault

def message : Fault → String
  | unopened => "A closing tag has nothing to close"
  | badArgument => "The argument of an action is no plain data"
  | emptyNumber => "A colour has a component without a number"

end Fault

inductive Piece
  | text (cs : List Char)
  | tag (name : String) (argument : Option String)
  deriving DecidableEq, Repr

/-- The pieces of a tag with backslashes before it. Two of them are one backslash, and one that is
left over makes the tag text. -/
def ofTag (backslashes : Nat) (body : List Char) : List Piece :=
  let shown := List.replicate (backslashes / 2) '\\'
  let piece :=
    if backslashes % 2 = 1 then .text ('[' :: body ++ [']'])
    else
      let (name, rest) := body.span (· ≠ '=')
      .tag (String.ofList name) (rest.tail? |>.map String.ofList)
  if shown.isEmpty then [piece] else [.text shown, piece]

def piecesAfter (plain cs : List Char) : List Piece :=
  let before := if plain.isEmpty then [] else [.text plain]
  match h : tag? cs with
  | some (backslashes, body, rest) =>
    have := length_lt_of_tag? h
    before ++ ofTag backslashes body ++ piecesAfter [] rest
  | none =>
    match cs with
    | [] => before
    | c :: rest => piecesAfter (plain ++ [c]) rest
termination_by cs.length

def pieces (s : String) : List Piece := piecesAfter [] s.toList

def unescape : List Char → List Char
  | '\\' :: '[' :: rest => '[' :: unescape rest
  | c :: rest => c :: unescape rest
  | [] => []

def shown (cs : List Char) : List Char :=
  strip (Emoji.replace (unescape cs))

/-- A tag that is open: where its text starts, its normal name, and what stands after an equals
sign. -/
structure Opened where
  start : Nat
  name : String
  argument : Option String
  deriving DecidableEq, Repr

namespace Opened

/-- The style on the text of a tag that ends at a place. A tag for an action has none when it is
closed. -/
def span (t : Opened) (closed : Bool) (stop : Nat) : Span :=
  let style :=
    if closed && t.name.startsWith "@" then ""
    else
      match t.argument with
      | none => t.name
      | some argument => t.name ++ " " ++ argument
  ⟨t.start, stop, style⟩

def check (isStandIn : Char → Bool) (t : Opened) : Except Fault Unit :=
  let argument := (t.argument.getD "").toList
  if t.name.startsWith "@" && !argument.isEmpty && !Argument.isValid isStandIn argument then
    .error .badArgument
  else .ok ()

end Opened

/-- The tag that a closing tag closes, and the others that are open, the last one first. Without a
name it is the last one. -/
def close (name : String) (opened : List Opened) : Except Fault (Opened × List Opened) :=
  match Blank.trim name.toList with
  | [] =>
    match opened with
    | [] => .error .unopened
    | last :: rest => .ok (last, rest)
  | target =>
    match Style.normal (String.ofList target) with
    | .error _ => .error .emptyNumber
    | .ok normal =>
      match opened.find? (·.name = normal) with
      | none => .error .unopened
      | some found => .ok (found, opened.eraseP (·.name = normal))

def render (isStandIn : Char → Bool) (opened : List Opened) (before : Styled) :
    List Piece → Except Fault Styled
  | [] =>
    .ok { before with
      spans := before.spans ++ opened.map fun t => t.span false before.chars.length }
  | .text cs :: rest =>
    render isStandIn opened { before with chars := before.chars ++ shown cs } rest
  | .tag name argument :: rest =>
    match name.toList with
    | '/' :: target => do
      let (closed, remaining) ← close (String.ofList target) opened
      closed.check isStandIn
      render isStandIn remaining
        { before with spans := before.spans ++ [closed.span true before.chars.length] } rest
    | _ =>
      match Style.normal name with
      | .error _ => .error .emptyNumber
      | .ok normal =>
        -- The tag gets its span when it is closed, so spans stand in the order of their ends.
        render isStandIn (⟨before.chars.length, normal, argument⟩ :: opened) before rest

def styled (isStandIn : Char → Bool) (s : String) : Except Fault Styled :=
  render isStandIn [] ⟨[], []⟩ (pieces s)

def highlight (s : Styled) : Styled :=
  { s with
    spans :=
      (Highlight.stretches s.chars).map (fun part => ⟨part.start, part.stop, ""⟩) ++ s.spans }

def segments (line : Styled) : Except Fault (List (List Char)) :=
  if line.spans.all fun span => Style.isDrawable span.style then .ok line.segments
  else .error .emptyNumber

end Markup

end SplitScreen
