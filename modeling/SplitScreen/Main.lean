import SplitScreen.Program

namespace SplitScreen

namespace Main

/-- What stands at a path. What cannot be read as a file counts as a directory. -/
def readDocument (path : String) : IO Document := do
  try
    return .ofBytes (← IO.FS.readBinFile path).toList
  catch e =>
    match e with
    | .noFileOrDirectory .. => return .missing
    | _ => return .directory

def writeDocument (folder name : String) (old new : Document) : IO Unit := do
  match new with
  | .text s =>
    if old ≠ new then
      IO.FS.createDirAll folder
      IO.FS.writeFile (folder ++ "/" ++ name) s
  | _ => return ()

/-- An event on a line of its own: `key k`, `mouse x y`, `resize w h` or `interrupt`. -/
def readInput (line : String) : Option Input :=
  match ((Blank.words line.toList).map String.ofList) with
  | ["key", name] => some (.event (.key name))
  | ["mouse", x, y] => do return .event (.pointer ⟨← Numeral.int? x, ← Numeral.int? y⟩)
  | ["resize", w, h] => do return .event (.resize (← Numeral.int? w) (← Numeral.int? h))
  | ["interrupt"] => some .interrupt
  | _ => none

partial def readInputs (input : IO.FS.Stream) : IO (List Input) := do
  let line ← input.getLine
  if line.isEmpty then return []
  let rest ← readInputs input
  return (readInput line).toList ++ rest

/-- The front end is started by a line without a command. -/
def startsFrontEnd (args : List String) : Bool :=
  match Line.ofArguments (args.map Text.ofString) with
  | .ok line => line.command.isNone && !line.help && !line.general.version
  | .error _ => false

def printFrame (f : Frame) : IO Unit := do
  for t in f.shown.drawn do
    let title := (FrontEnd.title? t).getD default
    let r := FrontEnd.placed t
    IO.println s!"{title.shown} at {r.x},{r.y}, {r.width}x{r.height}"
  IO.println (f.shown.bar.title?.getD default).shown

def run (args : List String) : IO UInt32 := do
  let home := (← IO.getEnv "HOME").getD "."
  let configFolder := home ++ "/.panekit"
  let storeFolder := home ++ "/.cache/panekit"
  let files : Files :=
    ⟨← readDocument (configFolder ++ "/config.toml"),
      ← readDocument (storeFolder ++ "/layouts.json")⟩
  let setting (name : String) : IO (Option Text) :=
    return (← IO.getEnv name).map Text.ofString
  let env : Environment :=
    ⟨← setting "PANEKIT_DEFAULT_PROFILE", ← setting "PANEKIT_DEBUG_LOGGING",
      ← setting "PANEKIT_RESTORE_LAYOUTS"⟩
  let inputs ← if startsFrontEnd args then readInputs (← IO.getStdin) else pure []
  let sur : Surroundings :=
    ⟨env, configFolder ++ "/config.toml", 80, ⟨0, 0⟩, 80, 22, inputs⟩
  let (ending, trace) := Program.execute sur files (args.map Text.ofString)
  IO.print trace.output
  trace.frames.forM printFrame
  for w in trace.warnings do IO.eprintln w.message
  for line in (trace.journal.getD []).filterMap Note.line? do IO.eprintln line
  if let some message := Ending.message? ending then IO.eprintln message
  writeDocument configFolder "config.toml" files.config trace.files.config
  writeDocument storeFolder "layouts.json" files.store trace.files.store
  return (Ending.code ending).toUInt32

end Main

end SplitScreen

def main (args : List String) : IO UInt32 := SplitScreen.Main.run args
