import SplitScreen.Switches
import SplitScreen.Text.Numeral

namespace SplitScreen

structure General where
  profile : Option Text
  debugLogging : Option Bool
  version : Bool
  deriving DecidableEq, Repr

namespace General

def unset : General := ⟨none, none, false⟩

def switches : Switches General :=
  [("-p", .value fun s g => { g with profile := some s }),
    ("--profile", .value fun s g => { g with profile := some s }),
    ("--debug-logging", .flag fun g => { g with debugLogging := some true }),
    ("--no-debug-logging", .flag fun g => { g with debugLogging := some false }),
    ("-v", .flag fun g => { g with version := true }),
    ("--version", .flag fun g => { g with version := true }),
    ("--help", .help)]

end General

structure LayoutOptions where
  profile : Option Text
  width : Option Text
  height : Option Text
  fullScreen : Bool
  deriving DecidableEq, Repr

namespace LayoutOptions

def unset : LayoutOptions := ⟨none, none, none, false⟩

def switches : Switches LayoutOptions :=
  [("-p", .value fun s o => { o with profile := some s }),
    ("--profile", .value fun s o => { o with profile := some s }),
    ("-W", .value fun s o => { o with width := some s }),
    ("--width", .value fun s o => { o with width := some s }),
    ("-H", .value fun s o => { o with height := some s }),
    ("--height", .value fun s o => { o with height := some s }),
    ("--full-screen", .flag fun o => { o with fullScreen := true }),
    ("--help", .help)]

end LayoutOptions

structure Changes where
  defaultProfile : Option Text
  debugLogging : Option Bool
  restoreLayouts : Option Bool
  deriving DecidableEq, Repr

namespace Changes

def unset : Changes := ⟨none, none, none⟩

end Changes

structure SettingsOptions where
  changes : Changes
  display : Bool
  deriving DecidableEq, Repr

namespace SettingsOptions

def unset : SettingsOptions := ⟨.unset, false⟩

def change (f : Changes → Changes) (o : SettingsOptions) : SettingsOptions :=
  { o with changes := f o.changes }

def switches : Switches SettingsOptions :=
  [("--default-profile", .value fun s => change fun c => { c with defaultProfile := some s }),
    ("--debug-logging", .flag (change fun c => { c with debugLogging := some true })),
    ("--no-debug-logging", .flag (change fun c => { c with debugLogging := some false })),
    ("--restore-layouts", .flag (change fun c => { c with restoreLayouts := some true })),
    ("--no-restore-layouts", .flag (change fun c => { c with restoreLayouts := some false })),
    ("--show", .flag fun o => { o with display := true }),
    ("--help", .help)]

end SettingsOptions

inductive CommandName
  | layout
  | profiles
  | config
  deriving DecidableEq, Repr

namespace CommandName

def ofText? : String → Option CommandName
  | "layout" => some layout
  | "profiles" => some profiles
  | "config" => some config
  | _ => none

end CommandName

inductive Request
  | layout (profile : Option Text) (width height : Int) (fullScreen : Bool)
  | profiles
  | showSettings
  | changeSettings (changes : Changes)
  | help (command : CommandName)
  deriving DecidableEq, Repr

namespace Request

def cells (name : String) (default : Int) : Option Text → Except Misuse Int
  | none => .ok default
  | some text =>
    match text.toString?.bind Numeral.int? with
    | some n => if 1 ≤ n then .ok n else .error (.invalidValue name)
    | none => .error (.invalidValue name)

/-- Reads the arguments of a command that takes options alone. A value is looked at only when help
is not asked for, and another argument last. -/
def ofOptions {σ : Type} (command : CommandName) (switches : Switches σ) (start : σ)
    (request : σ → Except Misuse Request) (args : List Text) : Except Misuse Request := do
  let (p, others) ← switches.scan true ⟨start, false⟩ args
  if p.help then return .help command
  let r ← request p.settings
  match others with
  | [] => return r
  | extra :: _ => throw (.extraArgument extra)

def helpAlone : Switches Unit := [("--help", .help)]

def optionNames : CommandName → List String
  | .layout => LayoutOptions.switches.map Prod.fst
  | .profiles => helpAlone.map Prod.fst
  | .config => SettingsOptions.switches.map Prod.fst

def ofArguments (args : List Text) : CommandName → Except Misuse Request
  | .layout =>
    ofOptions .layout LayoutOptions.switches .unset (fun o => do
      let width ← cells "--width" 80 o.width
      let height ← cells "--height" 24 o.height
      return layout o.profile width height o.fullScreen) args
  | .profiles => ofOptions .profiles helpAlone () (fun _ => return profiles) args
  | .config =>
    ofOptions .config SettingsOptions.switches .unset (fun o =>
      return if o.display then showSettings else changeSettings o.changes) args

end Request

structure Line where
  general : General
  command : Option (CommandName × List Text)
  help : Bool
  deriving DecidableEq, Repr

namespace Line

def ofArguments (args : List Text) : Except Misuse Line := do
  let (p, others) ← General.switches.scan false ⟨.unset, false⟩ args
  if p.help then return ⟨p.settings, none, true⟩
  match others with
  | [] => return ⟨p.settings, none, false⟩
  | name :: rest =>
    match name.toString?.bind CommandName.ofText? with
    | some c => return ⟨p.settings, some (c, rest), false⟩
    | none => throw (.unknownCommand name)

end Line

end SplitScreen
