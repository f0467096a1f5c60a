import SplitScreen.FrontEnd
import SplitScreen.Text.Characters

namespace SplitScreen

inductive Note
  | started
  | loaded (count : Nat)
  | switched (profile : Text)
  | split (id : PaneId) (direction : Direction) (ratio : Value) (new : PaneId)
  | merged (dropped kept : PaneId)
  | removed (id focused : PaneId)
  | closed (id : PaneId) (profile : Text)
  | fullScreen (on : Bool)
  | rejected (message : String)

namespace Note

/-- The part of the program that writes the note, with the level of the note. -/
def source : Note → String
  | started => "[INFO] root"
  | loaded _ => "[DEBUG] panekit.store"
  | switched _ | closed .. | fullScreen _ => "[DEBUG] panekit.screen"
  | split .. | merged .. | removed .. => "[DEBUG] panekit.manager"
  | rejected _ => "[DEBUG] panekit.tui_textual"

def message : Note → Text
  | started => "Panekit starting (debug logging enabled)"
  | loaded count => s!"Loaded {count} saved layouts"
  | switched profile => "Switched to profile " ++ profile
  | split id direction ratio new =>
    s!"Split pane {id} {direction.name} {ratio.describe} -> new pane {new}"
  | merged dropped kept => s!"Merged pane {dropped} into {kept}"
  | removed id focused => s!"Removed pane {id}, focus on {focused}"
  | closed id profile => s!"Closed pane {id} in profile " ++ profile
  | fullScreen on => if on then "Full screen on" else "Full screen off"
  | rejected message => s!"Rejected: {message}"

/-- A note takes one line. One that has no UTF-8 is left out. -/
def line? (n : Note) : Option String :=
  n.message.toString?.map fun message => n.source ++ ": " ++ firstLine message

end Note

/-- A pane that is closed beside a pane is noted as a merge into it. -/
def Profile.removalNotes (p : Profile) (id : PaneId) : List Note :=
  match ((Profile.remove id).on p).1, p.siblingOf id with
  | .ok _, .ok (some sibling) => [.merged id sibling]
  | .ok focused, _ => [.removed id focused]
  | .error _, _ => []

def Command.notes (c : Command) (s : Screen) : List Note :=
  match (c.apply s).1, s.active with
  | .error (.refused r), _ => [.rejected r.message]
  | .error _, _ | _, .error _ => []
  | .ok (), .ok p =>
    match c with
    | .split direction => [.split p.focused direction Ratio.even.toValue p.arena.nextPane]
    | .close => p.removalNotes p.focused ++ [.closed p.focused s.current]
    | .merge =>
      match p.siblingOf p.focused with
      | .ok (some sibling) => [.merged sibling p.focused]
      | _ => []
    | .fullScreen => [.fullScreen !s.fullScreen]
    | .small => [.switched Screen.smallName]
    | .large => [.switched Screen.largeName]
    | .quit | .focus _ | .enterTerminal | .release => []

/-- What an event notes. Only a key that runs a command does, whether the panes can be drawn anew
afterwards or not. -/
def FrontEnd.notes (f : FrontEnd) : Event → List Note
  | .key name =>
    match Command.ofKey? name with
    | some c => if f.screen.captured && !c.allowedWhenCaptured then [] else c.notes f.screen
    | none => []
  | _ => []

inductive Input
  | event (e : Event)
  | interrupt
  deriving DecidableEq, Repr

/-- A handled event: the report and the front end afterwards. -/
structure Frame where
  report : FrontEnd.Report
  shown : FrontEnd

/-- A session: what was shown, how it ended and what was noted. -/
structure Session where
  frames : List Frame
  last : FrontEnd
  fault : Option Fault
  notes : List Note

namespace Session

def proceed (f : FrontEnd) : List Input → Session
  | [] | .interrupt :: _ => ⟨[], f, none, []⟩
  | .event e :: rest =>
    match f.handle e with
    -- What the event changed before its fault is in the last state, though no frame shows it.
    | (.error fault, g) => ⟨[], g, some fault, f.notes e⟩
    | (.ok report, g) =>
      if report.reaction = .ran .quit then ⟨[⟨report, g⟩], g, none, f.notes e⟩
      else
        let later := proceed g rest
        { later with frames := ⟨report, g⟩ :: later.frames, notes := f.notes e ++ later.notes }

def start (s : Screen) (origin : Point) (width height : Int) (inputs : List Input) : Session :=
  match (FrontEnd.ofScreen s origin width height).mount with
  | (.error fault, f) => ⟨[], f, some fault, []⟩
  | (.ok report, f) =>
    let later := proceed f inputs
    { later with frames := ⟨report, f⟩ :: later.frames }

end Session

end SplitScreen
