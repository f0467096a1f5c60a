import SplitScreen.Config
import SplitScreen.Json.Reader
import SplitScreen.Json.Writer

namespace SplitScreen

namespace Store

def entries (doc : Document) : Access (Assoc Text Value) := do
  match ← Access.ofExcept (doc.read Json.read) with
  | .absent => return []
  | .failed => Access.warned [] [.storeUnreadable]
  | .content (.table entries) => return entries
  | .content _ => Access.warned [] [.storeNoTable]

def readSaved (name : Text) (v : Value) : Except Warning (Layout Ratio) :=
  (Layout.ofValue v).mapError (.savedSkipped name)

def load (doc : Document) : Access (Assoc Text (Layout Ratio)) := do
  let (layouts, warnings) := Warning.readEach readSaved (← entries doc)
  Access.warned layouts warnings

def merge (entries : Assoc Text Value) (layouts : Assoc Text (Layout Value)) :
    Assoc Text Value :=
  entries.insertAll (layouts.map fun entry => (entry.1, entry.2.toValue))

def write (entries : Assoc Text Value) : Document → Access Unit × Document
  | .directory => (Access.warned () [.storeUnwritable], .directory)
  | _ =>
    let (outcome, doc) := (Json.write (.table entries)).outcome
    (Access.ofExcept outcome, doc)

/-- Saves some layouts. A file that cannot be read as text is left as it is, and so is any file when
a layout cannot be written down. -/
def save (doc : Document) (layouts : Assoc Text (Layout Value)) : Access Unit × Document :=
  let read := entries doc
  match read.outcome with
  -- The old entries have to be known before anything is written over them.
  | .error fault => (⟨.error fault, read.warnings⟩, doc)
  | .ok found =>
    let (written, doc) :=
      if layouts.all fun entry => entry.2.isWritable then write (merge found layouts) doc
      else (Access.failed .noForm, doc)
    (read.andThen fun _ => written, doc)

def saveScreen (doc : Document) (s : Screen) : Access Unit × Document :=
  save doc (s.layouts.map fun entry => (entry.1, entry.2.literal))

end Store

namespace Startup

def saved (c : Config Ratio) (store : Option Document) :
    Access (Assoc Text (Layout Ratio)) :=
  match store with
  | some doc => if c.restoreLayouts then Store.load doc else pure []
  | none => pure []

/-- The profile asked for, else the default one. An empty name asks for none. -/
def chosen (c : Config Ratio) : Option Text → Text
  | none => c.defaultProfile
  | some name => if name.isEmpty then c.defaultProfile else name

def screen (c : Config Ratio) (saved : Assoc Text (Layout Ratio)) (profile : Option Text) :
    Except Refusal Screen :=
  Screen.ofProfiles (c.profiles.insertAll saved) (chosen c profile)

end Startup

end SplitScreen
