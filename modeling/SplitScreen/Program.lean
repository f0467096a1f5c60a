import SplitScreen.Markup
import SplitScreen.Request
import SplitScreen.Session
import SplitScreen.Store
import SplitScreen.Table
import SplitScreen.Text.StandIn

namespace SplitScreen

inductive Crash
  | markup (f : Markup.Fault)
  | file (f : FileFault)
  | event (f : Fault)

def Crash.message : Crash → String
  | .markup f => f.message
  | .file f => f.message
  | .event f => f.message

inductive Ending
  | misused (m : Misuse)
  /-- The reason has been printed. -/
  | failed
  | crashed (c : Crash)

structure Files where
  config : Document
  store : Document
  deriving DecidableEq, Repr

/-- What a run finds besides its files: the environment, the path of the configuration file as it is
shown, the width of the terminal, and for the front end the area of the panes and what comes in. -/
structure Surroundings where
  env : Environment
  configPath : String
  terminal : Nat
  origin : Point
  width : Int
  height : Int
  inputs : List Input

structure Trace where
  files : Files
  printed : List String
  warnings : List Warning
  frames : List Frame
  /-- The notes, when the journal is kept. -/
  journal : Option (List Note)

namespace Trace

def start (files : Files) : Trace := ⟨files, [], [], [], none⟩

def warn (t : Trace) (warnings : List Warning) : Trace :=
  { t with warnings := t.warnings ++ warnings }

def note (t : Trace) (notes : List Note) : Trace :=
  { t with journal := t.journal.map (· ++ notes) }

def output (t : Trace) : String := String.join (t.printed.map (· ++ "\n"))

end Trace

/-- A run, which leaves a trace also when it ends badly. -/
abbrev Program := ExceptT Ending (StateM Trace)

namespace Program

def printLines (lines : List Text) : Program Unit :=
  -- The lines are encoded together, so one half of a pair keeps all of them back.
  match lines.mapM Text.toString? with
  | some lines => modify fun t => { t with printed := t.printed ++ lines }
  | none => throw (.crashed (.file .unencodable))

def rendered {α : Type} (r : Except Markup.Fault α) : Program α :=
  match r with
  | .ok a => return a
  | .error f => throw (.crashed (.markup f))

def wrapped (terminal : Nat) (isStandIn : Char → Bool) (markup : String) :
    Except Markup.Fault (List (List Char)) := do
  let text := Markup.highlight (← Markup.styled isStandIn markup)
  (Wrap.lines terminal .fold .natural false text).mapM fun line =>
    return (Columns.cropSegments terminal (← Markup.segments line)).flatten

def say (sur : Surroundings) (markup : Text) : Program Unit := do
  let block := StandIn.block [markup]
  let lines ← rendered
    (wrapped sur.terminal (StandIn.isIn block) (String.ofList (StandIn.veil block markup)))
  printLines (lines.map (StandIn.unveil block))

def access {α : Type} (a : Access α) : Program α := do
  -- The warnings of an access that fails have been given by then.
  modify (·.warn a.warnings)
  match a.outcome with
  | .ok result => return result
  | .error f => throw (.crashed (.file f))

def loadConfig (sur : Surroundings) : Program (Config Ratio) := do
  access (Config.load (← get).files.config sur.env)

/-- The screen of a run. A profile that does not exist is an error for the user. -/
def openScreen (sur : Surroundings) (c : Config Ratio) (profile : Option Text) :
    Program Screen := do
  let saved ← access (Startup.saved c (some (← get).files.store))
  modify (·.note (if saved.isEmpty then [] else [.loaded saved.length]))
  match Startup.screen c saved profile with
  | .ok s =>
    let name := Startup.chosen c profile
    modify (·.note (if name = Screen.smallName then [] else [.switched name]))
    return s
  | .error r =>
    say sur s!"[red]Error:[/red] {r.message}"
    throw .failed

/-- Runs the front end and saves the layouts on the way out, however it ends. -/
def runFrontEnd (sur : Surroundings) (c : Config Ratio) (profile : Option Text) :
    Program Unit := do
  if c.debugLogging then modify fun t => { t with journal := some [.started] }
  let s ← openScreen sur c profile
  let session := Session.start s sur.origin sur.width sur.height sur.inputs
  modify fun t => { t.note session.notes with frames := session.frames }
  -- The session is over, with or without a fault. A fault of saving takes the place of its own.
  if c.restoreLayouts then
    let t ← get
    let (outcome, store) := Store.saveScreen t.files.store session.last.screen
    modify fun t => { t with files := { t.files with store := store } }
    access outcome
  match session.fault with
  | none => return ()
  | some f => throw (.crashed (.event f))

def layoutTable (block : Nat) (title : Text) (tiles : List Tile) : Program Table := do
  let styled (t : Text) :=
    rendered (Markup.styled (StandIn.isIn block) (String.ofList (StandIn.veil block t)))
  let views ← tiles.mapM fun t => styled t.view.name
  let title ← styled title
  let number (heading : String) (value : Tile → Int) : Column :=
    ⟨heading, .right, tiles.map fun t => Styled.ofString (toString (value t))⟩
  return ⟨title,
    [number "Id" Tile.id, ⟨"View", .left, views⟩, number "X" (·.rect.x), number "Y" (·.rect.y),
      number "Width" (·.rect.width), number "Height" (·.rect.height),
      ⟨"Focused", .left, tiles.map fun t => Styled.ofString (if t.focused then "*" else "")⟩]⟩

def printLayout (sur : Surroundings) (profile : Option Text) (width height : Int)
    (fullScreen : Bool) : Program Unit := do
  let c ← loadConfig sur
  let s ← openScreen sur c profile
  let s := if fullScreen then s.toggleFullScreen else s
  let area : Rect := ⟨0, 0, width, height⟩
  match s.flatten area with
  | .error r => throw (.crashed (.event (.refused r)))
  | .ok tiles =>
    let title := s.current ++ s!" ({area.width}x{area.height})"
    let block := StandIn.block (title :: tiles.map fun t => t.view.name)
    let lines ← rendered ((← layoutTable block title tiles).draw sur.terminal)
    printLines (lines.map (StandIn.unveil block))

def padded (length : Nat) (name : Text) : Text :=
  name ++ String.ofList (Wrap.blanks (length - name.symbols.length))

def printProfiles (sur : Surroundings) : Program Unit := do
  let c ← loadConfig sur
  let s ← openScreen sur c none
  for name in s.profileNames do
    let count := ((s.profiles.find? name).map fun p => p.paneIds.length).getD 0
    let plural := if count = 1 then "" else "s"
    let marker := if name = c.defaultProfile then " [dim](default)[/dim]" else ""
    say sur ("  [cyan]" ++ padded 12 name ++ s!"[/cyan] {count} pane{plural}{marker}")

def flagText (b : Bool) : String := if b then "True" else "False"

def saySettings (sur : Surroundings) (c : Config Ratio) : Program Unit := do
  say sur ("  Default Profile: [cyan]" ++ c.defaultProfile ++ "[/cyan]")
  say sur s!"  Debug Logging:   [cyan]{flagText c.debugLogging}[/cyan]"
  say sur s!"  Restore Layouts: [cyan]{flagText c.restoreLayouts}[/cyan]"

def showSettings (sur : Surroundings) : Program Unit := do
  let c ← loadConfig sur
  say sur "\n[bold]Current Configuration:[/bold]"
  saySettings sur c
  unless c.profiles.isEmpty do
    say sur "\n[bold]User Profiles:[/bold]"
    for name in c.profiles.keys.mergeSort Text.precedes do
      say sur ("  [cyan]" ++ name ++ "[/cyan]")
  say sur s!"\nConfig file: [dim]{sur.configPath}[/dim]"

def changed (c : Config Ratio) (changes : Changes) : Config Ratio :=
  { c with
    defaultProfile := changes.defaultProfile.getD c.defaultProfile
    debugLogging := changes.debugLogging.getD c.debugLogging
    restoreLayouts := changes.restoreLayouts.getD c.restoreLayouts }

def isKnown (c : Config Ratio) (name : Text) : Bool :=
  Screen.builtin.contains name || c.profiles.contains name

def changeSettings (sur : Surroundings) (changes : Changes) : Program Unit := do
  let c ← loadConfig sur
  if changes = .unset then
    say sur "Use --default-profile, --debug-logging or --restore-layouts to change settings."
    say sur "Use --show to view current configuration."
  else
    if let some name := changes.defaultProfile then
      unless isKnown c name do
        say sur ("[red]Error:[/red] Unknown profile '" ++ name ++ "'")
        throw .failed
    let new := changed c changes
    -- Nothing is said of a change before it is in the file.
    let (outcome, doc) := new.literal.save (← get).files.config
    modify fun t => { t with files := { t.files with config := doc } }
    access (Access.ofExcept outcome)
    say sur "\n[green]Configuration saved![/green]"
    saySettings sur new
    say sur s!"\nSaved to: [dim]{sur.configPath}[/dim]"

def version : String := "0.1.0"

def help (names : List String) : Program Unit :=
  printLines ["Options: " ++ ", ".intercalate names]

def run (sur : Surroundings) : Request → Program Unit
  | .layout profile width height fullScreen => printLayout sur profile width height fullScreen
  | .profiles => printProfiles sur
  | .showSettings => showSettings sur
  | .changeSettings changes => changeSettings sur changes
  | .help name => help (Request.optionNames name)

def understand {α : Type} (r : Except Misuse α) : Program α :=
  match r with
  | .ok a => return a
  | .error m => throw (.misused m)

/-- The whole program. The arguments of a command are read only after the general options have had
their effect. -/
def perform (sur : Surroundings) (args : List Text) : Program Unit := do
  let line ← understand (Line.ofArguments args)
  if line.help then return (← help (General.switches.map Prod.fst))
  -- A command is run after the version is said, the front end is not.
  if line.general.version then say sur s!"panekit v{version}"
  match line.command with
  | some (name, rest) => run sur (← understand (Request.ofArguments rest name))
  | none =>
    unless line.general.version do
      let c ← loadConfig sur
      let c := { c with debugLogging := line.general.debugLogging.getD c.debugLogging }
      runFrontEnd sur c line.general.profile

def execute (sur : Surroundings) (files : Files) (args : List Text) :
    Except Ending Unit × Trace :=
  StateT.run (ExceptT.run (perform sur args)) (Trace.start files)

end Program

namespace Ending

def message? : Except Ending Unit → Option String
  | .ok () | .error .failed => none
  | .error (.misused m) => some m.message
  | .error (.crashed c) => some c.message

def code : Except Ending Unit → Nat
  | .ok () => 0
  | .error (.misused _) => 2
  | .error .failed | .error (.crashed _) => 1

end Ending

end SplitScreen
