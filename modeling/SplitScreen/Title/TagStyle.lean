import SplitScreen.Assoc
import SplitScreen.Title.Shade

namespace SplitScreen

structure TagStyle where
  colour : Option Shade
  background : Option Shade
  flags : Assoc String Bool
  isLink : Bool
  /-- The keys that have something after them. -/
  keys : List String

namespace TagStyle

def plain : TagStyle := ⟨none, none, [], false, []⟩

def allFlags : List String :=
  ["bold", "dim", "italic", "underline", "underline2", "blink", "reverse", "strike"]

def shortNames : Assoc String String :=
  [("b", "bold"), ("d", "dim"), ("i", "italic"), ("u", "underline"), ("uu", "underline2"),
    ("r", "reverse"), ("s", "strike")]

def flag? (name : String) : Option String :=
  if name ∈ allFlags then some name else shortNames.find? name

def text (s : TagStyle) : String :=
  let shown := (allFlags.filter (· ≠ "reverse")).filterMap fun flag =>
    (s.flags.find? flag).map fun on => if on then flag else "not " ++ flag
  " ".intercalate
    ((s.colour.map Shade.text).toList
      ++ (s.background.map fun ground => "on " ++ ground.text).toList
      ++ shown ++ (if s.isLink then ["link"] else [])
      ++ s.keys.map (· ++ "="))

/-- A style in the making: whether colours are for the background, and whether the next flag is set
or unset. -/
structure Draft where
  style : TagStyle
  onGround : Bool
  positive : Bool

namespace Draft

def setColour (d : Draft) (shade : Shade) : Draft :=
  { d with
    style :=
      if d.onGround then { d.style with background := some shade }
      else { d.style with colour := some shade } }

/-- Makes the last colour less opaque. Without a colour it changes nothing. -/
def fade (d : Draft) (share : Float) : Draft :=
  { d with
    style :=
      if d.onGround then { d.style with background := d.style.background.map (Shade.fade share) }
      else { d.style with colour := d.style.colour.map (Shade.fade share) } }

def setFlag (d : Draft) (flag : String) : Draft :=
  { d with
    style := { d.style with flags := d.style.flags.insert flag d.positive }
    positive := true }

def takeName (d : Draft) (name : String) : Option Draft :=
  if name = "link" then some { d with style := { d.style with isLink := true } }
  else if name = "on" then some { d with onGround := true }
  else if name = "not" then some { d with positive := false }
  else if name = "auto" then some (d.setColour (.automatic 1.0))
  else
    match flag? name with
    | some flag => some (d.setFlag flag)
    | none => (Shade.ofName? name).map d.setColour

def setKey (d : Draft) (key : String) : Draft :=
  if key = "link" then { d with style := { d.style with isLink := true } }
  else if key ∈ d.style.keys then d
  else { d with style := { d.style with keys := d.style.keys ++ [key] } }

end Draft

/-- The share that a percentage stands for. It is a whole number, and not too large for a double. -/
def share? (written : List Char) : Option Float := do
  let n ← Numeral.int? (String.ofList written.dropLast)
  match Double.ofInt n with
  | .ok x => some (x / 100.0)
  | .error _ => none

def readFrom (d : Draft) : Nat → List Char → Option TagStyle
  | _, [] => some d.style
  | 0, _ => none
  | steps + 1, cs => do
    let token ← Title.Token.readSetting? cs
    match token.kind with
    | .blank | .quoted => readFrom d steps token.rest
    | .name => readFrom (← d.takeName (String.ofList token.chars)) steps token.rest
    | .colour => readFrom (d.setColour (← Shade.ofWritten? token.chars)) steps token.rest
    | .percentage => readFrom (d.fade (← share? token.chars)) steps token.rest
    -- There is nowhere that colours are set, so a reference makes the tag unreadable.
    | .reference => none
    | .key => readFrom (d.setKey (String.ofList (token.chars.takeWhile (· ≠ '=')))) steps token.rest

/-- Beside a key the background has to be seen. -/
def settle (s : TagStyle) : TagStyle :=
  if s.keys.isEmpty then s else { s with background := s.background.filter (!·.isClear) }

def read? (cs : List Char) : Option TagStyle :=
  (readFrom ⟨plain, false, true⟩ cs.length cs).map settle

/-- The normal form of a tag; of one that cannot be read, what stands in it. -/
def normal (cs : List Char) : String :=
  match read? (Blank.trim cs) with
  | some s => s.text
  | none => String.ofList (Blank.trim cs)

end TagStyle

end SplitScreen
