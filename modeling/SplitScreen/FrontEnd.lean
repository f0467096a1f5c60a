import SplitScreen.Decimal
import SplitScreen.Screen
import SplitScreen.Title

namespace SplitScreen

inductive Command
  | quit
  | focus (side : Side)
  | split (direction : Direction)
  | close
  | merge
  | fullScreen
  | enterTerminal
  | release
  | small
  | large
  deriving DecidableEq, Repr

namespace Command

def name : Command → String
  | quit => "quit"
  | focus .left => "focus_left"
  | focus .down => "focus_down"
  | focus .up => "focus_up"
  | focus .right => "focus_right"
  | split .horizontal => "split_horizontal"
  | split .vertical => "split_vertical"
  | close => "close_pane"
  | merge => "merge_pane"
  | fullScreen => "toggle_full_screen"
  | enterTerminal => "enter_terminal"
  | release => "release_input"
  | small => "small_screen"
  | large => "large_screen"

def ofKey? : String → Option Command
  | "q" => some quit
  | "h" | "left" => some (focus .left)
  | "j" | "down" => some (focus .down)
  | "k" | "up" => some (focus .up)
  | "l" | "right" => some (focus .right)
  | "|" => some (split .horizontal)
  | "-" => some (split .vertical)
  | "x" => some close
  | "m" => some merge
  | "f" => some fullScreen
  | "t" => some enterTerminal
  | "escape" => some release
  | "1" => some small
  | "2" => some large
  | _ => none

/-- While a pane has the keys, only giving them back and leaving are allowed. -/
def allowedWhenCaptured : Command → Bool
  | quit | release => true
  | _ => false

def edit : Command → Edit Screen Unit
  | quit => return ()
  | focus side => Screen.focusTowards side
  | split direction => do let _ ← Screen.splitFocused direction Ratio.even.toValue
  | close => do let _ ← Screen.closeFocused
  | merge => Screen.mergeFocused
  | fullScreen => modify Screen.toggleFullScreen
  | enterTerminal => Screen.enterTerminal
  | release => modify Screen.release
  | small => Screen.switchTo Screen.smallName
  | large => Screen.switchTo Screen.largeName

def apply (s : Screen) (c : Command) : Except Fault Unit × Screen := c.edit.on s

end Command

inductive Event
  | key (name : String)
  /-- The pointer moved to a cell of the terminal. -/
  | pointer (cell : Point)
  /-- The area of the panes has another size. -/
  | resize (width height : Int)
  deriving DecidableEq, Repr

inductive Reaction
  | mounted
  | ignored
  | blocked (c : Command)
  | ran (c : Command)
  | pointed
  | resized
  deriving DecidableEq, Repr

/-- The front end: the screen, the area of the panes on the terminal, and what is shown. -/
structure FrontEnd where
  screen : Screen
  origin : Point
  width : Int
  height : Int
  drawn : List Tile
  bar : Text
  status : Option String
  deriving DecidableEq

namespace FrontEnd

def barText (s : Screen) : Text :=
  let modes := (if s.fullScreen then ["full screen"] else [])
    ++ if s.captured then ["input: pane (esc to release)"] else []
  Text.joined " | " (("profile: " ++ s.current) :: modes.map Text.ofString)

/-- The title of a pane, if it can be read. The names of views may have tags. -/
def title? (t : Tile) : Option Text := (s!"{t.id}: " ++ t.view.name : Text).title?

def content (t : Tile) : Text := ⟨t.view.name.symbols.filter (!·.isOf isStripped)⟩

/-- The place of a pane on the terminal, which is given in doubles. -/
def placed (t : Tile) : Rect :=
  ⟨Double.nearestInt t.rect.x, Double.nearestInt t.rect.y, Double.nearestInt t.rect.width,
    Double.nearestInt t.rect.height⟩

/-- Puts a pane in its place under its title. A place too far away has no doubles. -/
def place (t : Tile) : Except Fault Unit := do
  let _ ← Fault.ofOverflow
    ([t.rect.x, t.rect.y, t.rect.width, t.rect.height].mapM Double.ofInt)
  -- The place is set before the title, so a pane with both faults has the fault of its place.
  if (title? t).isNone then .error .badMarkup

def area (f : FrontEnd) : Rect := ⟨0, 0, f.width, f.height⟩

abbrev After (α : Type) := Except Fault α × FrontEnd

def refresh (f : FrontEnd) : After Unit :=
  let s := if f.area.area = 0 then f.screen else f.screen.resize f.area
  match s.flatten f.area with
  -- A drawing that fails here leaves the old picture, but the area is recorded already.
  | .error r => (.error (.refused r), { f with screen := s })
  | .ok tiles =>
    match tiles.forM place with
    -- The old panes have gone before the new ones get their places.
    | .error fault => (.error fault, { f with screen := s, drawn := [] })
    | .ok () =>
      -- The bar comes last, and the name of a profile may have tags as that of a view may.
      if (barText s).title?.isNone then (.error .badMarkup, { f with screen := s, drawn := tiles })
      else (.ok (), { f with screen := s, drawn := tiles, bar := barText s })

structure Report where
  reaction : Reaction
  notices : List String
  deriving DecidableEq, Repr

def ofScreen (s : Screen) (origin : Point) (width height : Int) : FrontEnd :=
  ⟨s, origin, width, height, [], "", none⟩

def refreshed (f : FrontEnd) (reaction : Reaction) : After Report :=
  let (r, g) := f.refresh
  (r.map fun _ => ⟨reaction, []⟩, g)

def mount (f : FrontEnd) : After Report := f.refreshed .mounted

def run (f : FrontEnd) (c : Command) : After Report :=
  match c.apply f.screen with
  | (.ok (), s) => { f with screen := s }.refreshed (.ran c)
  -- A refusal changes nothing that is drawn, so the picture stays as it is.
  | (.error (.refused r), s) =>
    (.ok ⟨.ran c, [r.message]⟩, { f with screen := s, status := some r.message })
  | (.error fault, s) => (.error fault, { f with screen := s })

def key (f : FrontEnd) (name : String) : After Report :=
  match Command.ofKey? name with
  | none => (.ok ⟨.ignored, []⟩, f)
  | some c =>
    if f.screen.captured && !c.allowedWhenCaptured then (.ok ⟨.blocked c, []⟩, f)
    -- Leaving draws nothing: the session ends here.
    else if c = .quit then (.ok ⟨.ran c, []⟩, f)
    else f.run c

def pointer (f : FrontEnd) (cell : Point) : After Report :=
  let moved := f.screen.movePointer ⟨cell.x - f.origin.x, cell.y - f.origin.y⟩
  let before := f.screen.active.map Profile.focused
  let (hit, s) := Screen.dispatchPointer.on moved
  let after := s.active.map Profile.focused
  let g := { f with screen := s }
  match before, hit, after with
  | .error r, _, _ => (.error (.refused r), f)
  | _, .error fault, _ => (.error fault, g)
  | _, _, .error r => (.error (.refused r), g)
  | .ok before, .ok hit, .ok after =>
    -- A movement within the focused pane changes nothing that is drawn.
    if hit && after ≠ before then g.refreshed .pointed else (.ok ⟨.pointed, []⟩, g)

def handle (f : FrontEnd) : Event → After Report
  | .key name => f.key name
  | .pointer cell => f.pointer cell
  | .resize width height => { f with width := width, height := height }.refreshed .resized

end FrontEnd

end SplitScreen
