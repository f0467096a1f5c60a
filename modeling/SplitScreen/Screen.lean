import SplitScreen.Profile

namespace SplitScreen

structure Screen where
  profiles : Assoc Text Profile
  current : Text
  fullScreen : Bool
  captured : Bool
  /-- Where the pointer moved to, until that is handled. -/
  pending : Option Point
  viewport : Rect
  deriving DecidableEq

namespace Screen

def smallName : Text := "small"

def largeName : Text := "large"

def builtin : List Text := [smallName, largeName]

def addProfile (s : Screen) (name : Text) (p : Profile) : Screen :=
  { s with profiles := s.profiles.insert name (p.setViewport s.viewport) }

def initial : Screen :=
  let bare : Screen := ⟨[], smallName, false, false, none, Profile.defaultViewport⟩
  (bare.addProfile smallName (Profile.ofLayout Layout.small)).addProfile largeName
    (Profile.ofLayout Layout.large)

def profileNames (s : Screen) : List Text := s.profiles.keys.mergeSort Text.precedes

def active (s : Screen) : Except Refusal Profile :=
  match s.profiles.find? s.current with
  | some p => .ok p
  | none => .error (.noProfile s.current)

def setActive (s : Screen) (p : Profile) : Screen :=
  { s with profiles := s.profiles.insert s.current p }

def showing (s : Screen) (name : Text) : Except Refusal Screen :=
  if s.profiles.contains name then .ok { s with current := name }
  else .error (.noProfile name)

/-- A screen with the given profiles besides the built-in ones, which they replace, and a profile
to start with. -/
def ofProfiles (profiles : Assoc Text (Layout Ratio)) (start : Text) :
    Except Refusal Screen :=
  let s := profiles.foldl (fun s entry => s.addProfile entry.1 (Profile.ofLayout entry.2)) initial
  -- The small profile is current already, and always there.
  if start = smallName then .ok s else s.showing start

def checkLiterals : List (Text × Layout Value) → Except Fault (List (Text × Layout Ratio))
  | [] => .ok []
  | (name, l) :: rest =>
    match l.check with
    | .error ratio => .error (.invalidRatio ratio)
    | .ok l => return (name, l) :: (← checkLiterals rest)

def ofLiterals (literals : Assoc Text (Layout Value)) (start : Text) :
    Except Fault Screen := do
  (ofProfiles (← checkLiterals literals) start).mapError .refused

def resize (s : Screen) (area : Rect) : Screen :=
  { s with
    viewport := area
    profiles := s.profiles.map fun entry => (entry.1, entry.2.setViewport area) }

def layouts (s : Screen) : Assoc Text (Layout Ratio) :=
  s.profiles.map fun entry => (entry.1, entry.2.toLayout)

/-- Switches full screen; going to it forgets a pending pointer. -/
def toggleFullScreen (s : Screen) : Screen :=
  { s with
    fullScreen := !s.fullScreen
    pending := if s.fullScreen then s.pending else none }

def capture (s : Screen) : Screen := { s with captured := true }

def release (s : Screen) : Screen := { s with captured := false }

def movePointer (s : Screen) (point : Point) : Screen :=
  if s.fullScreen then s else { s with pending := some point }

def switchTo (name : Text) : Edit Screen Unit := do
  set (← Edit.read fun s => s.showing name)

def onActive {α : Type} (x : Edit Profile α) : Edit Screen α := do
  let p ← Edit.read active
  let (outcome, q) := x.on p
  -- The profile is written back before the outcome is looked at.
  modify fun s => s.setActive q
  .ofOutcome outcome

def dispatchPointer : Edit Screen Bool := do
  let s ← get
  -- The movement is used up whether it hits a pane or not.
  set { s with pending := none }
  match s.pending with
  | none => return false
  | some point => if s.fullScreen then return false else onActive (Profile.focusAt point)

def enterTerminal : Edit Screen Unit := do
  if (← get).fullScreen then .refuse .fullScreen
  else
    onActive (Profile.gotoOrFocus (.kind .terminal))
    -- By now the focused pane shows the terminal.
    modify capture

def focusedPane (s : Screen) : Except Refusal Pane := do (← s.active).focusedPane

def focusedView (s : Screen) : Except Refusal View := do (← s.active).focusedView

def splitFocused (direction : Direction) (ratio : Value) : Edit Screen PaneId :=
  onActive do Profile.split (← get).focused direction ratio

def mergeFocused : Edit Screen Unit :=
  onActive do
    let p ← get
    match ← Edit.read fun p => p.siblingOf p.focused with
    | none => .refuse .noSibling
    | some sibling => Profile.merge p.focused sibling

def closeFocused : Edit Screen PaneId :=
  onActive do Profile.remove (← get).focused

def focusTowards (side : Side) : Edit Screen Unit := onActive (Profile.focusTowards side)

/-- The panes of one frame. In full screen the focused pane covers the area. -/
def flatten (s : Screen) (area : Rect) : Except Refusal (List Tile) := do
  if s.fullScreen then
    let pane ← s.focusedPane
    return [⟨pane.id, pane.view, area, true⟩]
  else return (← s.active).flatten area

end Screen

namespace Screen

inductive Action
  | toggleFullScreen
  | capture
  | release
  | movePointer (point : Point)
  | dispatchPointer
  | enterTerminal
  | mergeFocused
  | closeFocused
  | splitFocused (direction : Direction) (ratio : Value)
  | focusTowards (side : Side)
  | switchTo (name : Text)
  | resize (area : Rect)
  | addProfile (name : Text) (literal : Layout Value) (viewport : Rect)
  | focusedPane
  | profileNames
  | flatten (area : Rect)
  | onActive (call : Profile.Call)
  /-- Names another profile as current, whether it exists or not. -/
  | setCurrent (name : Text)
  /-- Sets the pending pointer whatever the mode. -/
  | setPending (point : Option Point)

inductive Answer
  | of (answer : Profile.Answer)
  | names (names : List Text)
  deriving DecidableEq

def done : Answer := .of .done

def silent (x : Edit Screen Unit) : Edit Screen Answer := do
  x
  return done

def Action.edit : Action → Edit Screen Answer
  | .toggleFullScreen => silent (modify Screen.toggleFullScreen)
  | .capture => silent (modify Screen.capture)
  | .release => silent (modify Screen.release)
  | .movePointer point => silent (modify fun s => s.movePointer point)
  | .dispatchPointer => (fun hit => .of (.yes hit)) <$> Screen.dispatchPointer
  | .enterTerminal => silent Screen.enterTerminal
  | .mergeFocused => silent Screen.mergeFocused
  | .closeFocused => (fun id => .of (.id id)) <$> Screen.closeFocused
  | .splitFocused direction ratio =>
    (fun id => .of (.id id)) <$> Screen.splitFocused direction ratio
  | .focusTowards side => silent (Screen.focusTowards side)
  | .switchTo name => silent (Screen.switchTo name)
  | .resize area => silent (modify fun s => s.resize area)
  | .addProfile name literal viewport => do
    let p ← Edit.ofOutcome (Profile.ofLiteral literal viewport)
    silent (modify fun s => s.addProfile name p)
  | .focusedPane => .read fun s => s.focusedPane.map fun pane => .of (.pane pane)
  | .profileNames => .read fun s => .ok (.names s.profileNames)
  | .flatten area => .read fun s => (s.flatten area).map fun tiles => .of (.tiles tiles)
  | .onActive call => .of <$> Screen.onActive call.edit
  | .setCurrent name => silent (modify fun s => { s with current := name })
  | .setPending point => silent (modify fun s => { s with pending := point })

def act (s : Screen) (a : Action) : Except Fault Answer × Screen := a.edit.on s

def run (s : Screen) (actions : List Action) : Screen :=
  actions.foldl (fun t a => (t.act a).2) s

end Screen

end SplitScreen
