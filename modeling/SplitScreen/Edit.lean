import SplitScreen.Geometry
import SplitScreen.Value.Described

/-!
Edits of a state. An edit is answered or ends in a fault. A fault ends it where it stands: what was
written before it stays written, so an edit that is to leave no trace of a refusal has to check
before it writes.
-/

namespace SplitScreen

/-- Panes are numbered from zero in the order in which they come up. Ids are small integers: what has
more digits than a message can name is no id. -/
abbrev PaneId := Int

inductive Refusal
  | noPane (id : PaneId)
  | noProfile (name : Text)
  | notSiblings (a b : PaneId)
  | noSibling
  | invalidRatio (ratio : Value)
  | terminalDiscarded (id : PaneId)
  | terminalClosed
  | lastPaneClosed
  | fullScreen

namespace Refusal

/-- The kinds of refusals: something named does not exist, panes that are not siblings, a
forbidden edit, a mode that does not allow the action, the last pane. -/
inductive Kind
  | notFound
  | invalidMerge
  | invalidOperation
  | invalidState
  | unmergeable
  deriving DecidableEq, Repr

def kind : Refusal → Kind
  | noPane _ | noProfile _ => .notFound
  | notSiblings .. | noSibling => .invalidMerge
  | invalidRatio _ | terminalDiscarded _ | terminalClosed => .invalidOperation
  | fullScreen => .invalidState
  | lastPaneClosed => .unmergeable

def message : Refusal → String
  | noPane id => s!"No pane with id {id}"
  | noProfile name => s!"No profile named {quoted name}"
  | notSiblings a b => s!"Panes {a} and {b} are not siblings"
  | noSibling => "Focused pane has no sibling pane to merge with"
  | invalidRatio ratio => ratio.describeAfter "Invalid split ratio "
  | terminalDiscarded id => s!"Pane {id} shows the terminal and cannot be discarded"
  | terminalClosed => "Cannot close the terminal pane"
  | lastPaneClosed => "Cannot close the last pane"
  | fullScreen => "Cannot enter terminal in full screen mode"

end Refusal

inductive Fault
  | refused (r : Refusal)
  /-- A refusal is to name an integer that is too long, and is lost over it. -/
  | longInteger
  /-- A coordinate does not fit a double. -/
  | overflow
  /-- What is named is not there, such as a focused pane that is not on screen. -/
  | focusLost
  /-- The title of a pane or the status bar has a tag that cannot be read. -/
  | badMarkup

namespace Fault

def message : Fault → String
  | refused r => r.message
  | longInteger => LongInteger.message none
  | overflow => "A coordinate is too large"
  | focusLost => "The focused pane is not on screen"
  | badMarkup => "A title has a tag that cannot be read"

/-- The refusal of what should be a ratio. Its message names the whole of it. -/
def invalidRatio (ratio : Value) : Fault :=
  if ratio.hasLongInteger then longInteger else refused (.invalidRatio ratio)

theorem invalidRatio_cases (ratio : Value) :
    invalidRatio ratio = longInteger ∨ invalidRatio ratio = refused (.invalidRatio ratio) := by
  unfold invalidRatio
  split
  · exact Or.inl rfl
  · exact Or.inr rfl

def ofOverflow {α : Type} : Except Overflow α → Except Fault α
  | .ok a => .ok a
  | .error _ => .error .overflow

end Fault

abbrev Edit (σ : Type) := ExceptT Fault (StateM σ)

namespace Edit

variable {σ α β : Type}

def on (x : Edit σ α) (s : σ) : Except Fault α × σ := StateT.run (ExceptT.run x) s

def ofOutcome (r : Except Fault α) : Edit σ α :=
  match r with
  | .ok a => pure a
  | .error fault => throw fault

def refuse (r : Refusal) : Edit σ α := throw (.refused r)

/-- Goes on with what is read from the state, unless that is refused. -/
def read (f : σ → Except Refusal α) : Edit σ α := do
  match f (← get) with
  | .ok a => return a
  | .error r => refuse r

@[simp] theorem on_pure (a : α) (s : σ) : (pure a : Edit σ α).on s = (.ok a, s) := rfl

@[simp] theorem on_get (s : σ) : (get : Edit σ σ).on s = (.ok s, s) := rfl

@[simp] theorem on_set (s t : σ) : (set t : Edit σ Unit).on s = (.ok (), t) := rfl

@[simp] theorem on_modify (f : σ → σ) (s : σ) :
    (modify f : Edit σ Unit).on s = (.ok (), f s) := rfl

@[simp] theorem on_throw (fault : Fault) (s : σ) :
    (throw fault : Edit σ α).on s = (.error fault, s) := rfl

@[simp] theorem on_refuse (r : Refusal) (s : σ) :
    (refuse r : Edit σ α).on s = (.error (.refused r), s) := rfl

@[simp] theorem on_ofOutcome (r : Except Fault α) (s : σ) :
    (ofOutcome r : Edit σ α).on s = (r, s) := by
  cases r <;> rfl

theorem on_bind (x : Edit σ α) (f : α → Edit σ β) (s : σ) :
    (x >>= f).on s =
      match x.on s with
      | (.ok a, t) => (f a).on t
      | (.error fault, t) => (.error fault, t) := by
  simp only [on, ExceptT.run_bind, StateT.run_bind]
  rcases StateT.run (ExceptT.run x) s with ⟨a | fault, t⟩ <;> rfl

@[simp] theorem on_map (f : α → β) (x : Edit σ α) (s : σ) :
    (f <$> x).on s = ((x.on s).1.map f, (x.on s).2) := by
  rw [map_eq_pure_bind, on_bind]
  rcases x.on s with ⟨a | fault, t⟩ <;> rfl

theorem on_read (f : σ → Except Refusal α) (s : σ) :
    (read f).on s = ((f s).mapError .refused, s) := by
  cases h : f s <;> simp [read, on_bind, h] <;> rfl

theorem on_read_of_ok {f : σ → Except Refusal α} {s : σ} {a : α} (h : f s = .ok a) :
    (read f).on s = (.ok a, s) := by
  rw [on_read, h]
  rfl

theorem on_read_of_error {f : σ → Except Refusal α} {s : σ} {r : Refusal}
    (h : f s = .error r) : (read f).on s = (.error (.refused r), s) := by
  rw [on_read, h]
  rfl

end Edit

end SplitScreen
