import SplitScreen.Arena
import SplitScreen.Edit

namespace SplitScreen

inductive Side
  | up
  | down
  | left
  | right
  deriving DecidableEq, Repr

namespace Side

/-- A centre lies on a side of another by the sign of one of the two offsets. -/
def admits (origin target : Centre) : Side → Bool
  | up => decide (target.y - origin.y < 0.0)
  | down => decide (target.y - origin.y > 0.0)
  | left => decide (target.x - origin.x < 0.0)
  | right => decide (target.x - origin.x > 0.0)

end Side

structure Tile where
  id : PaneId
  view : View
  rect : Rect
  focused : Bool
  deriving DecidableEq, Repr

structure Profile where
  arena : Arena
  focused : PaneId
  viewport : Rect
  deriving DecidableEq

namespace Profile

def defaultViewport : Rect := ⟨0, 0, 80, 24⟩

/-- The profile of a layout: the panes are numbered first part before second, and the first
marked pane has the focus, the first pane of all when none is marked. -/
def ofLayout (l : Layout Ratio) (viewport : Rect := defaultViewport) : Profile where
  arena := Arena.ofLayout l
  -- In a new arena the id of a pane is its place in the order of the panes.
  focused := (((l.marks.findIdx? (· = true)).getD 0 : Nat) : PaneId)
  viewport := viewport

def ofLiteral (l : Layout Value) (viewport : Rect := defaultViewport) :
    Except Fault Profile :=
  match l.check with
  | .ok l => .ok (ofLayout l viewport)
  | .error ratio => .error (.invalidRatio ratio)

def toLayout (p : Profile) : Layout Ratio := p.arena.toLayout p.focused

def panes (p : Profile) : List Pane := p.arena.panes

def paneIds (p : Profile) : List PaneId := p.panes.map Pane.id

def pane (p : Profile) (id : PaneId) : Except Refusal Pane := do
  return (← p.arena.leaf id).content

def focusedPane (p : Profile) : Except Refusal Pane := p.pane p.focused

def focusedView (p : Profile) : Except Refusal View := do
  return (← p.focusedPane).view

/-- The pane that shares the split of a pane, if it is a pane and not a subtree. -/
def siblingOf (p : Profile) (id : PaneId) : Except Refusal (Option PaneId) := do
  return p.arena.siblingPane? (← p.arena.leaf id)

def flatten (p : Profile) (area : Rect) : List Tile :=
  (p.arena.place area).filterMap fun placed => do
    let l ← p.arena.leaf? placed.1
    return ⟨placed.1, l.content.view, placed.2, decide (placed.1 = p.focused)⟩

def findLeaf (id : PaneId) : Edit Profile Leaf := .read fun p => p.arena.leaf id

def setFocus (id : PaneId) : Edit Profile Unit := modify fun p => { p with focused := id }

def setArena (arena : Arena) : Edit Profile Unit := modify fun p => { p with arena := arena }

/-- Splits a pane in two. The pane keeps its id and becomes the first child; the new pane, whose
id is the answer, shows the same view. -/
def split (id : PaneId) (direction : Direction) (ratio : Value) : Edit Profile PaneId := do
  -- A pane that is not there is refused before a bad ratio, and no id is used up by either.
  let l ← findLeaf id
  match Ratio.ofValue? ratio with
  | none => throw (.invalidRatio ratio)
  | some ratio =>
    let arena := (← get).arena
    setArena (arena.split l direction ratio)
    return arena.nextPane

def collapse (l : Leaf) : Edit Profile NodeIndex := do
  match (← get).arena.collapse? l with
  | none => throw .focusLost
  | some (sibling, arena) =>
    setArena arena
    return sibling

/-- Merges two siblings into the first. The terminal is not discarded for another view. -/
def merge (a b : PaneId) : Edit Profile Unit := do
  let kept ← findLeaf a
  let dropped ← findLeaf b
  if a = b ∨ kept.parent = none ∨ kept.parent ≠ dropped.parent then
    .refuse (.notSiblings a b)
  else if dropped.content.view.isTerminal && !kept.content.view.isTerminal then
    .refuse (.terminalDiscarded b)
  else
    let _ ← collapse dropped
    if (← get).focused = b then setFocus a

def nearer (origin : Rect) (best : Option (Float × PaneId)) (candidate : PaneId × Rect) :
    Except Overflow (Option (Float × PaneId)) := do
  let d ← origin.distance candidate.2
  match best with
  | none => return some (d, candidate.1)
  -- Of two panes at the same distance the earlier one stays.
  | some (least, _) => return if d < least then some (d, candidate.1) else best

def nearest? (origin : Rect) (candidates : List (PaneId × Rect)) :
    Except Overflow (Option PaneId) := do
  return (← candidates.foldlM (nearer origin) none).map Prod.snd

def rectOf (id : PaneId) : Edit Profile Rect := do
  let p ← get
  match Assoc.find? id (p.arena.place p.viewport) with
  | some rect => return rect
  | none => throw .focusLost

def heirs (p : Profile) (subtree : NodeIndex) : List (PaneId × Rect) :=
  let placed := p.arena.place p.viewport
  (p.arena.panesFrom subtree).filterMap fun pane =>
    (Assoc.find? pane.id placed).map fun rect => (pane.id, rect)

/-- Gives the focus of a closed pane to the nearest of its heirs, the panes below a node, by where
the pane was and where the heirs are now. -/
def inherit (origin : Rect) (subtree : NodeIndex) : Edit Profile Unit := do
  let heirs := (← get).heirs subtree
  match ← Edit.ofOutcome (Fault.ofOverflow (nearest? origin heirs)) with
  | some id => setFocus id
  | none => throw .focusLost

/-- Drops a leaf beside a subtree, which moves up as a whole. The focus of the closed pane goes to
the nearest pane of the subtree. -/
def close (id : PaneId) (l : Leaf) : Edit Profile Unit := do
  -- The place is read while the pane is still there; the heirs are placed in what it left them.
  let origin ← rectOf id
  let subtree ← collapse l
  if (← get).focused = id then inherit origin subtree

/-- Closes a pane and answers with the focused pane. A sibling pane absorbs the closed one as in a
merge. -/
def remove (id : PaneId) : Edit Profile PaneId := do
  let l ← findLeaf id
  if l.content.view.isTerminal then .refuse .terminalClosed
  else if l.parent = none then .refuse .lastPaneClosed
  else
    match (← get).arena.siblingPane? l with
    -- The sibling comes first: it is the one that stays.
    | some sibling => merge sibling id
    | none => close id l
    return (← get).focused

def focus (id : PaneId) : Edit Profile Unit := do
  let _ ← findLeaf id
  setFocus id

def focusAt (point : Point) : Edit Profile Bool := do
  let p ← get
  match (p.arena.place p.viewport).find? fun placed => placed.2.contains point with
  | some placed =>
    setFocus placed.1
    return true
  | none => return false

def onSide (side : Side) (origin : Centre) (placed : List (PaneId × Rect)) :
    Except Overflow (List (PaneId × Rect)) :=
  placed.filterM fun candidate => do
    let centre ← candidate.2.centre
    return side.admits origin centre

def nearestOnSide? (side : Side) (current : Rect) (placed : List (PaneId × Rect)) :
    Except Overflow (Option PaneId) := do
  let origin ← current.centre
  -- The pane itself is no candidate: it is on no side of itself.
  nearest? current (← onSide side origin placed)

def focusTowards (side : Side) : Edit Profile Unit := do
  let p ← get
  let placed := p.arena.place p.viewport
  match Assoc.find? p.focused placed with
  | none => throw .focusLost
  | some current =>
    match ← Edit.ofOutcome (Fault.ofOverflow (nearestOnSide? side current placed)) with
    | some id => setFocus id
    | none => return ()

def setViewport (p : Profile) (area : Rect) : Profile := { p with viewport := area }

def setView (id : PaneId) (view : View) : Edit Profile Unit := do
  let l ← findLeaf id
  setArena ((← get).arena.setView l view)

def goto (view : View) : Edit Profile Unit := do
  setView (← get).focused view

def gotoOrFocus (view : View) : Edit Profile Unit := do
  match (← get).panes.find? fun pane => decide (pane.view = view) with
  | some pane => setFocus pane.id
  | none => goto view

end Profile

namespace Profile

inductive Call
  | split (id : PaneId) (direction : Direction) (ratio : Value)
  | merge (a b : PaneId)
  | remove (id : PaneId)
  | siblingOf (id : PaneId)
  | focus (id : PaneId)
  | focusAt (point : Point)
  | setViewport (area : Rect)
  | focusTowards (side : Side)
  | goto (view : View)
  | gotoOrFocus (view : View)
  | pane (id : PaneId)
  | setView (id : PaneId) (view : View)
  | focusedPane
  | panes
  | flatten (area : Rect)
  | toLayout
  /-- Whether the profile of the layout has the same layout. -/
  | roundTrip

inductive Answer
  | done
  | id (id : PaneId)
  | id? (id : Option PaneId)
  | yes (b : Bool)
  | pane (pane : Pane)
  | panes (panes : List Pane)
  | tiles (tiles : List Tile)
  | layout (l : Layout Ratio)
  deriving DecidableEq

def done (x : Edit Profile Unit) : Edit Profile Answer := do
  x
  return .done

def tell (f : Profile → Except Refusal Answer) : Edit Profile Answer := .read f

def Call.edit : Call → Edit Profile Answer
  | .split id direction ratio => .id <$> Profile.split id direction ratio
  | .merge a b => done (Profile.merge a b)
  | .remove id => .id <$> Profile.remove id
  | .siblingOf id => tell fun p => (p.siblingOf id).map .id?
  | .focus id => done (Profile.focus id)
  | .focusAt point => .yes <$> Profile.focusAt point
  | .setViewport area => done (modify fun p => p.setViewport area)
  | .focusTowards side => done (Profile.focusTowards side)
  | .goto view => done (Profile.goto view)
  | .gotoOrFocus view => done (Profile.gotoOrFocus view)
  | .pane id => tell fun p => (p.pane id).map .pane
  | .setView id view => done (Profile.setView id view)
  | .focusedPane => tell fun p => p.focusedPane.map .pane
  | .panes => tell fun p => .ok (.panes p.panes)
  | .flatten area => tell fun p => .ok (.tiles (p.flatten area))
  | .toLayout => tell fun p => .ok (.layout p.toLayout)
  | .roundTrip => tell fun p =>
    .ok (.yes (decide ((ofLayout p.toLayout p.viewport).toLayout = p.toLayout)))

def call (p : Profile) (c : Call) : Except Fault Answer × Profile := c.edit.on p

def run (p : Profile) (calls : List Call) : Profile :=
  calls.foldl (fun q c => (q.call c).2) p

end Profile

end SplitScreen
