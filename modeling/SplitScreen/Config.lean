import SplitScreen.Document
import SplitScreen.Layout.Codec
import SplitScreen.Screen
import SplitScreen.Text.Lower
import SplitScreen.Toml.Reader
import SplitScreen.Toml.Writer

namespace SplitScreen

inductive Warning
  | configUnreadable
  | storeUnreadable
  | storeUnwritable
  | storeNoTable
  | savedSkipped (name : Text) (why : ShapeError)
  /-- A setting of another kind than the expected one. -/
  | settingIgnored (key : String) (found : Value) (expected : String)
  | profilesIgnored (found : Value)
  | profileReserved (name : Text)
  | profileIgnored (name : Text) (why : ShapeError)

namespace Warning

def message : Warning → String
  | configUnreadable => "Failed to read config file"
  | storeUnreadable => "Failed to read layout store"
  | storeUnwritable => "Failed to write layout store"
  | storeNoTable => "Ignoring layout store: top level is not an object"
  | savedSkipped name why => s!"Skipping saved layout {quoted name}: {why.message}"
  | settingIgnored key found expected => s!"Ignoring {key} = {found.describe}: expected {expected}"
  | profilesIgnored found => s!"Ignoring profiles: expected a table, got {found.kindName}"
  | profileReserved name =>
    s!"Ignoring profile {quoted name}: name is reserved for a built-in profile"
  | profileIgnored name why => s!"Ignoring invalid profile {quoted name}: {why.message}"

/-- A warning that quotes an integer that is too long has no words. -/
def hasWords : Warning → Bool
  | settingIgnored _ found _ => !found.hasLongInteger
  | _ => true

def readEach {α : Type} (read : Text → Value → Except Warning α) :
    List (Text × Value) → List (Text × α) × List Warning
  | [] => ([], [])
  | (name, v) :: rest =>
    let (found, warnings) := readEach read rest
    match read name v with
    | .ok a => ((name, a) :: found, warnings)
    | .error warning => (found, warning :: warnings)

end Warning

/-- An access to a file: its outcome, and what is warned about on the way. -/
structure Access (α : Type) where
  outcome : Except FileFault α
  warnings : List Warning

namespace Access

variable {α β : Type}

def failed (fault : FileFault) : Access α := ⟨.error fault, []⟩

def ofExcept (outcome : Except FileFault α) : Access α := ⟨outcome, []⟩

/-- A result with its warnings. The first warning without words ends the access. -/
def warned (a : α) (warnings : List Warning) : Access α :=
  if warnings.all Warning.hasWords then ⟨.ok a, warnings⟩
  else ⟨.error (.longInteger none), warnings.takeWhile Warning.hasWords⟩

def andThen (a : Access α) (f : α → Access β) : Access β :=
  match a.outcome with
  | .error fault => ⟨.error fault, a.warnings⟩
  | .ok result =>
    let next := f result
    ⟨next.outcome, a.warnings ++ next.warnings⟩

instance : Monad Access where
  pure a := ⟨.ok a, []⟩
  bind := andThen

end Access

structure Environment where
  defaultProfile : Option Text
  debugLogging : Option Text
  restoreLayouts : Option Text
  deriving DecidableEq, Repr

namespace Environment

def empty : Environment := ⟨none, none, none⟩

/-- A flag is on when its text is one of three words, in any case. -/
def isOn (text : Text) : Bool :=
  match text.toString? with
  | some word => ["true", "1", "yes"].contains (lower word)
  | none => false

end Environment

/-- Settings and user profiles. The ratios of the profiles are of a type, as those of a layout. -/
structure Config (ρ : Type) where
  /-- The profile to start with. -/
  defaultProfile : Text
  /-- Whether the journal is kept. -/
  debugLogging : Bool
  /-- Whether profiles come up as they were left. -/
  restoreLayouts : Bool
  profiles : Assoc Text (Layout ρ)
  deriving DecidableEq

namespace Config

def default {ρ : Type} : Config ρ := ⟨Screen.smallName, false, true, []⟩

def literal (c : Config Ratio) : Config Value :=
  { c with profiles := c.profiles.map fun entry => (entry.1, entry.2.literal) }

def setting {α : Type} (table : Assoc Text Value) (key expected : String)
    (get? : Value → Option α) (default : α) : α × List Warning :=
  match Assoc.find? (key : Text) table with
  | none => (default, [])
  | some v =>
    match get? v with
    | some a => (a, [])
    | none => (default, [.settingIgnored key v expected])

def text? : Value → Option Text
  | .text s => some s
  | _ => none

def bool? : Value → Option Bool
  | .bool b => some b
  | _ => none

/-- A user profile. The names of the built-in profiles are not for users. -/
def readProfile (name : Text) (v : Value) : Except Warning (Layout Ratio) :=
  if name ∈ Screen.builtin then .error (.profileReserved name)
  else (Layout.ofValue v).mapError (.profileIgnored name)

def readProfiles (table : Assoc Text Value) : Assoc Text (Layout Ratio) × List Warning :=
  match Assoc.find? ("profiles" : Text) table with
  | none => ([], [])
  | some (.table entries) => Warning.readEach readProfile entries
  | some v => ([], [.profilesIgnored v])

def ofTable (table : Assoc Text Value) : Config Ratio × List Warning :=
  let (defaultProfile, w₁) := setting table "default_profile" "str" text? Screen.smallName
  let (debugLogging, w₂) := setting table "debug_logging" "bool" bool? false
  let (restoreLayouts, w₃) := setting table "restore_layouts" "bool" bool? true
  let (profiles, w₄) := readProfiles table
  (⟨defaultProfile, debugLogging, restoreLayouts, profiles⟩, w₁ ++ w₂ ++ w₃ ++ w₄)

def override {ρ : Type} (c : Config ρ) (env : Environment) : Config ρ :=
  { c with
    defaultProfile := env.defaultProfile.getD c.defaultProfile
    debugLogging := (env.debugLogging.map Environment.isOn).getD c.debugLogging
    restoreLayouts := (env.restoreLayouts.map Environment.isOn).getD c.restoreLayouts }

def ofDocument (doc : Document) : Access (Config Ratio) := do
  match ← Access.ofExcept (doc.read Toml.read) with
  | .absent => return default
  | .failed => Access.warned default [.configUnreadable]
  | .content table =>
    let (c, warnings) := ofTable table
    Access.warned c warnings

def load (doc : Document) (env : Environment) : Access (Config Ratio) := do
  return (← ofDocument doc).override env

/-- The table of a configuration. Without user profiles it has no entry for them. -/
def toTable (c : Config Value) : Assoc Text Value :=
  ("default_profile", .text c.defaultProfile) :: ("debug_logging", .bool c.debugLogging)
    :: ("restore_layouts", .bool c.restoreLayouts)
    :: if c.profiles.isEmpty then []
      else [("profiles", .table (c.profiles.map fun entry => (entry.1, entry.2.toValue)))]

/-- Replaces the file by one that holds the configuration, as far as that can be written. -/
def save (c : Config Value) (doc : Document) : Except FileFault Unit × Document :=
  if c.profiles.all fun entry => entry.2.isWritable then
    -- Unlike the store, the file is replaced as a whole: nothing of it is read before.
    match doc with
    | .directory => (.error .isDirectory, .directory)
    | _ => (Toml.write c.toTable).outcome
  else (.error .noForm, doc)

end Config

end SplitScreen
