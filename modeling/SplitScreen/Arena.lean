import SplitScreen.Assoc
import SplitScreen.Edit
import SplitScreen.Layout

/-!
The pane tree as an arena: nodes under small indices that name each other. Every node records its
parent and every split its two children, so an edit touches only the nodes around one split, and
the sibling of a pane is its parent's other child. A second map leads from the id of a pane to its
node.

The traversals follow the child links. They take as many steps as there are nodes, which is
enough in every arena that an edit can lead to.
-/

namespace SplitScreen

abbrev NodeIndex := Nat

structure Pane where
  id : PaneId
  view : View
  deriving DecidableEq, Repr

inductive Node
  | pane (content : Pane) (parent : Option NodeIndex)
  | split (direction : Direction) (ratio : Ratio) (first second : NodeIndex)
      (parent : Option NodeIndex)
  deriving DecidableEq

namespace Node

def parent : Node → Option NodeIndex
  | pane _ parent => parent
  | split _ _ _ _ parent => parent

def withParent (parent : Option NodeIndex) : Node → Node
  | pane content _ => pane content parent
  | split direction ratio first second _ => split direction ratio first second parent

/-- Puts another child in the place of one of the two; nothing but a split has children. -/
def replaceChild (old new : NodeIndex) : Node → Node
  | pane content parent => pane content parent
  | split direction ratio first second parent =>
    if first = old then split direction ratio new second parent
    else split direction ratio first new parent

def otherChild? (child : NodeIndex) : Node → Option NodeIndex
  | pane .. => none
  | split _ _ first second _ => some (if first = child then second else first)

end Node

/-- A pane tree, with the next unused node index and pane id. -/
structure Arena where
  nodes : Assoc NodeIndex Node
  leaves : Assoc PaneId NodeIndex
  root : NodeIndex
  nextNode : NodeIndex
  nextPane : PaneId
  deriving DecidableEq

/-- The node of a pane. -/
structure Leaf where
  index : NodeIndex
  content : Pane
  parent : Option NodeIndex
  deriving DecidableEq

namespace Arena

def empty : Arena := ⟨[], [], 0, 0, 0⟩

def addNode (a : Arena) (node : Node) : Arena :=
  { a with nodes := a.nodes.insert a.nextNode node, nextNode := a.nextNode + 1 }

def addPane (a : Arena) (view : View) (parent : Option NodeIndex) : Arena :=
  { a.addNode (.pane ⟨a.nextPane, view⟩ parent) with
    leaves := a.leaves.insert a.nextPane a.nextNode
    nextPane := a.nextPane + 1 }

/-- Adds the nodes of a layout, a split before its parts and the first part before the second. The
first part follows its split, and the second follows the nodes of the first. -/
def plant (a : Arena) (parent : Option NodeIndex) : Layout Ratio → Arena
  | .pane view _ => a.addPane view parent
  | .split direction ratio first second =>
    let index := a.nextNode
    -- The children are not there yet, but their indices follow from the sizes of the parts.
    let node := .split direction ratio (index + 1) (index + 1 + first.nodeCount) parent
    ((a.addNode node).plant (some index) first).plant (some index) second

def ofLayout (l : Layout Ratio) : Arena := empty.plant none l

def node? (a : Arena) (index : NodeIndex) : Option Node := a.nodes.find? index

theorem node?_addNode (a : Arena) (node : Node) (index : NodeIndex) :
    (a.addNode node).node? index = if a.nextNode = index then some node else a.node? index :=
  Assoc.find?_insert ..

theorem node?_addPane (a : Arena) (view : View) (parent : Option NodeIndex) (index : NodeIndex) :
    (a.addPane view parent).node? index =
      if a.nextNode = index then some (.pane ⟨a.nextPane, view⟩ parent) else a.node? index :=
  node?_addNode ..

def leaf? (a : Arena) (id : PaneId) : Option Leaf := do
  let index ← a.leaves.find? id
  match ← a.node? index with
  | .pane content parent => some ⟨index, content, parent⟩
  | .split .. => none

def leaf (a : Arena) (id : PaneId) : Except Refusal Leaf :=
  match a.leaf? id with
  | some l => .ok l
  | none => .error (.noPane id)

def siblingIndex? (a : Arena) (l : Leaf) : Option NodeIndex := do
  (← a.node? (← l.parent)).otherChild? l.index

/-- The pane that shares the split of a leaf; none at the root and beside a subtree. -/
def siblingPane? (a : Arena) (l : Leaf) : Option PaneId := do
  match ← a.node? (← a.siblingIndex? l) with
  | .pane content _ => some content.id
  | .split .. => none

def size (a : Arena) : Nat := a.nodes.length

def panesOfStack (a : Arena) : Nat → List NodeIndex → List Pane
  | 0, _ => []
  | _, [] => []
  | steps + 1, index :: stack =>
    match a.node? index with
    | some (.pane content _) => content :: a.panesOfStack steps stack
    | some (.split _ _ first second _) => a.panesOfStack steps (first :: second :: stack)
    -- A link that leads nowhere is passed over, so it hides no pane further down the stack.
    | none => a.panesOfStack steps stack

def panesFrom (a : Arena) (start : NodeIndex) : List Pane := a.panesOfStack a.size [start]

def panes (a : Arena) : List Pane := a.panesFrom a.root

/-- Divides an area among the panes below a node, first child before second. -/
def placeFrom (a : Arena) : Nat → NodeIndex → Rect → List (PaneId × Rect)
  | 0, _, _ => []
  | depth + 1, index, area =>
    match a.node? index with
    | some (.pane content _) => [(content.id, area)]
    | some (.split direction ratio first second _) =>
      let parts := area.split direction ratio
      a.placeFrom depth first parts.1 ++ a.placeFrom depth second parts.2
    | none => []

def place (a : Arena) (area : Rect) : List (PaneId × Rect) := a.placeFrom a.size a.root area

/-- The layout below a node, with the given pane as the only one marked. A link that leads nowhere
is written as a pane without a view. -/
def layoutFrom (a : Arena) (focused : PaneId) : Nat → NodeIndex → Layout Ratio
  | 0, _ => .pane (.custom "") false
  | depth + 1, index =>
    match a.node? index with
    | some (.pane content _) => .pane content.view (decide (content.id = focused))
    | some (.split direction ratio first second _) =>
      .split direction ratio (a.layoutFrom focused depth first) (a.layoutFrom focused depth second)
    | none => .pane (.custom "") false

def toLayout (a : Arena) (focused : PaneId) : Layout Ratio := a.layoutFrom focused a.size a.root

def update (a : Arena) (index : NodeIndex) (f : Node → Node) : Arena :=
  match a.node? index with
  | some node => { a with nodes := a.nodes.insert index (f node) }
  | none => a

theorem node?_update (a : Arena) (index other : NodeIndex) (f : Node → Node) :
    (a.update index f).node? other =
      if index = other then (a.node? other).map f else a.node? other := by
  unfold update
  split
  · next node h => grind [node?, Assoc.find?_insert]
  · next h => grind [node?]

@[simp] theorem leaves_update (a : Arena) (index : NodeIndex) (f : Node → Node) :
    (a.update index f).leaves = a.leaves := by
  unfold update; split <;> rfl

@[simp] theorem root_update (a : Arena) (index : NodeIndex) (f : Node → Node) :
    (a.update index f).root = a.root := by
  unfold update; split <;> rfl

/-- Puts another node in the place of a child of a split, or of the root. -/
def replaceChild (a : Arena) (parent : Option NodeIndex) (old new : NodeIndex) : Arena :=
  match parent with
  | none => { a with root := new }
  | some index => a.update index (Node.replaceChild old new)

@[simp] theorem leaves_replaceChild (a : Arena) (parent : Option NodeIndex)
    (old new : NodeIndex) : (a.replaceChild parent old new).leaves = a.leaves := by
  cases parent <;> simp [replaceChild]

/-- Only the root has no parent, so only there another root is named. -/
theorem root_replaceChild (a : Arena) (parent : Option NodeIndex) (old new : NodeIndex) :
    (a.replaceChild parent old new).root = if parent = none then new else a.root := by
  cases parent <;> simp [replaceChild]

/-- Puts a split in the place of a leaf, with the leaf as its first child and a new pane with the
same view as its second. -/
def split (a : Arena) (l : Leaf) (direction : Direction) (ratio : Ratio) : Arena :=
  let index := a.nextNode
  -- The split takes the next index and the new pane the one after, so the split can name both
  -- children before the new one is there.
  let grown := (a.addNode (.split direction ratio l.index (index + 1) l.parent)).addPane
    l.content.view (some index)
  (grown.replaceChild l.parent l.index index).update l.index (Node.withParent (some index))

/-- Drops a leaf and lets its sibling take the place of their split. Gives the sibling too. There
is nothing to drop at the root. -/
def collapse? (a : Arena) (l : Leaf) : Option (NodeIndex × Arena) := do
  let index ← l.parent
  let parent ← a.node? index
  let sibling ← parent.otherChild? l.index
  -- The sibling moves up while the split is still there; only then the split and the leaf go.
  let lifted := (a.update sibling (Node.withParent parent.parent)).replaceChild
    parent.parent index sibling
  return (sibling, { lifted with
    nodes := (lifted.nodes.erase index).erase l.index
    leaves := lifted.leaves.erase l.content.id })

def setView (a : Arena) (l : Leaf) (view : View) : Arena :=
  a.update l.index fun _ => .pane { l.content with view := view } l.parent

end Arena

end SplitScreen
