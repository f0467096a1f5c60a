import SplitScreen.Proofs.Tree

/-!
Pane trees with the index of every node. A subtree is singled out by the path that leads from it up
to the root, a list of open splits; `plug` puts a subtree at the end of a path. So every edit of a
tree is the exchange of what is plugged in, and what it leaves alone is the path. Main statements:
what a plugged tree consists of (`indices_plug`, `entries_plug`), that every pane and every node is
at the end of some path (`exists_plug`, `exists_plug_of_mem`), and that plugging in another subtree
replaces just that (`replaced_plug`).
-/

namespace SplitScreen

inductive IndexedTree
  | pane (index : NodeIndex) (content : Pane)
  | split (index : NodeIndex) (direction : Direction) (ratio : Ratio)
      (first second : IndexedTree)

/-- A split of which one child is taken out. -/
structure OpenSplit where
  index : NodeIndex
  direction : Direction
  ratio : Ratio
  /-- Whether it is the first child that is taken out. -/
  lacksFirst : Bool
  other : IndexedTree

namespace IndexedTree

def index : IndexedTree → NodeIndex
  | pane index _ => index
  | split index _ _ _ _ => index

@[simp] theorem index_pane (i : NodeIndex) (content : Pane) : (pane i content).index = i := rfl

@[simp] theorem index_split (i : NodeIndex) (direction : Direction) (ratio : Ratio)
    (first second : IndexedTree) : (split i direction ratio first second).index = i := rfl

def tree : IndexedTree → Tree Pane
  | pane _ content => .leaf content
  | split _ direction ratio first second => .split direction ratio first.tree second.tree

/-- The indices of all nodes, a split before its children. -/
def indices : IndexedTree → List NodeIndex
  | pane index _ => [index]
  | split index _ _ first second => index :: (first.indices ++ second.indices)

def entries : IndexedTree → List (NodeIndex × Pane)
  | pane index content => [(index, content)]
  | split _ _ _ first second => first.entries ++ second.entries

theorem map_snd_entries (t : IndexedTree) : t.entries.map Prod.snd = t.tree.leaves := by
  induction t with
  | pane index content => rfl
  | split index direction ratio first second ih₁ ih₂ => simp [entries, tree, Tree.leaves, ih₁, ih₂]

theorem index_mem_indices (t : IndexedTree) : t.index ∈ t.indices := by
  cases t <;> simp [indices]

theorem length_indices (t : IndexedTree) : t.indices.length + 1 = 2 * t.entries.length := by
  induction t with
  | pane index content => rfl
  | split index direction ratio first second ih₁ ih₂ =>
      simp only [indices, entries, List.length_cons, List.length_append]
      omega

end IndexedTree

namespace OpenSplit

def fill (f : OpenSplit) (t : IndexedTree) : IndexedTree :=
  if f.lacksFirst then .split f.index f.direction f.ratio t f.other
  else .split f.index f.direction f.ratio f.other t

def node (f : OpenSplit) (child : NodeIndex) (parent : Option NodeIndex) : Node :=
  if f.lacksFirst then .split f.direction f.ratio child f.other.index parent
  else .split f.direction f.ratio f.other.index child parent

@[simp] theorem index_fill (f : OpenSplit) (t : IndexedTree) : (f.fill t).index = f.index := by
  unfold fill
  split <;> rfl

theorem indices_fill (f : OpenSplit) (t : IndexedTree) :
    (f.fill t).indices.Perm (t.indices ++ f.index :: f.other.indices) := by
  unfold fill
  split
  · exact List.perm_middle.symm
  · exact (List.Perm.cons _ List.perm_append_comm).trans List.perm_middle.symm

theorem entries_fill (f : OpenSplit) (t : IndexedTree) :
    (f.fill t).entries.Perm (t.entries ++ f.other.entries) := by
  unfold fill
  split
  · exact List.Perm.refl _
  · exact List.perm_append_comm

theorem replaced_fill (f : OpenSplit) {old new : Tree Pane} {t t' : IndexedTree}
    (h : Tree.Replaced old new t.tree t'.tree) :
    Tree.Replaced old new (f.fill t).tree (f.fill t').tree := by
  unfold fill
  split
  · exact h.first
  · exact h.second

theorem replaceChild_node (f : OpenSplit) {old : NodeIndex} (new : NodeIndex)
    (parent : Option NodeIndex) (h : f.other.index ≠ old) :
    (f.node old parent).replaceChild old new = f.node new parent := by
  unfold node
  split <;> simp [Node.replaceChild, h]

@[simp] theorem parent_node (f : OpenSplit) (child : NodeIndex) (parent : Option NodeIndex) :
    (f.node child parent).parent = parent := by
  unfold node
  split <;> rfl

theorem otherChild?_node (f : OpenSplit) {child : NodeIndex} (parent : Option NodeIndex)
    (h : f.other.index ≠ child) :
    (f.node child parent).otherChild? child = some f.other.index := by
  unfold node
  split <;> simp [Node.otherChild?, h]

theorem child_of_node_eq {f g : OpenSplit} {i j : NodeIndex} {parent parent' : Option NodeIndex}
    (h : f.node i parent = g.node j parent') : j = i ∨ j = f.other.index := by
  unfold node at h
  split at h <;> split at h <;> grind

end OpenSplit

/-- The splits around a subtree, from the innermost to the root. -/
abbrev TreePath := List OpenSplit

namespace TreePath

def parent : TreePath → Option NodeIndex
  | [] => none
  | f :: _ => some f.index

/-- Puts a subtree at the end of the path. -/
def plug : TreePath → IndexedTree → IndexedTree
  | [], t => t
  | f :: path, t => plug path (f.fill t)

/-- The indices of all nodes but those of the subtree at the end. -/
def indices : TreePath → List NodeIndex
  | [] => []
  | f :: path => f.index :: f.other.indices ++ indices path

def entries : TreePath → List (NodeIndex × Pane)
  | [] => []
  | f :: path => f.other.entries ++ entries path

theorem parent_mem {path : TreePath} {k : NodeIndex} (h : path.parent = some k) :
    k ∈ path.indices := by
  cases path with
  | nil => simp [parent] at h
  | cons f path =>
      obtain rfl : f.index = k := by simpa [parent] using h
      simp [indices]

theorem parent_ne {path : TreePath} {i : NodeIndex} (h : i ∉ path.indices) :
    path.parent ≠ some i :=
  fun hi => h (parent_mem hi)

theorem plug_append (inner outer : TreePath) (t : IndexedTree) :
    plug (inner ++ outer) t = plug outer (plug inner t) := by
  induction inner generalizing t with
  | nil => rfl
  | cons f inner ih => exact ih (f.fill t)

theorem indices_plug (path : TreePath) (t : IndexedTree) :
    (path.plug t).indices.Perm (t.indices ++ path.indices) := by
  induction path generalizing t with
  | nil => simp [plug, indices]
  | cons f path ih =>
      calc
        (plug path (f.fill t)).indices.Perm ((f.fill t).indices ++ indices path) := ih _
        List.Perm _ ((t.indices ++ f.index :: f.other.indices) ++ indices path) :=
          (f.indices_fill t).append_right _
        _ = t.indices ++ indices (f :: path) := by simp [indices]

theorem entries_plug (path : TreePath) (t : IndexedTree) :
    (path.plug t).entries.Perm (t.entries ++ path.entries) := by
  induction path generalizing t with
  | nil => simp [plug, entries]
  | cons f path ih =>
      calc
        (plug path (f.fill t)).entries.Perm ((f.fill t).entries ++ entries path) := ih _
        List.Perm _ ((t.entries ++ f.other.entries) ++ entries path) :=
          (f.entries_fill t).append_right _
        _ = t.entries ++ entries (f :: path) := by simp [entries]

theorem mem_leaves_plug (path : TreePath) {t : IndexedTree} {content : Pane}
    (h : content ∈ t.tree.leaves) : content ∈ (path.plug t).tree.leaves := by
  rw [← (path.plug t).map_snd_entries, ((path.entries_plug t).map Prod.snd).mem_iff,
    List.map_append, t.map_snd_entries]
  exact List.mem_append_left _ h

theorem exists_plug {t : IndexedTree} {index : NodeIndex} {content : Pane}
    (h : (index, content) ∈ t.entries) : ∃ path, t = plug path (.pane index content) := by
  induction t with
  | pane i c =>
      obtain ⟨rfl, rfl⟩ : index = i ∧ content = c := by simpa [IndexedTree.entries] using h
      exact ⟨[], rfl⟩
  | split i direction ratio first second ih₁ ih₂ =>
      rcases List.mem_append.mp h with h | h
      · obtain ⟨path, rfl⟩ := ih₁ h
        exact ⟨path ++ [⟨i, direction, ratio, true, second⟩], by rw [plug_append]; rfl⟩
      · obtain ⟨path, rfl⟩ := ih₂ h
        exact ⟨path ++ [⟨i, direction, ratio, false, first⟩], by rw [plug_append]; rfl⟩

theorem exists_plug_of_mem {t : IndexedTree} {i : NodeIndex} (h : i ∈ t.indices) :
    ∃ path s, t = plug path s ∧ s.index = i := by
  induction t with
  | pane index content =>
      exact ⟨[], .pane index content, rfl, (List.mem_singleton.mp h).symm⟩
  | split index direction ratio first second ih₁ ih₂ =>
      rcases List.mem_cons.mp h with rfl | h
      · exact ⟨[], .split i direction ratio first second, rfl, rfl⟩
      · rcases List.mem_append.mp h with h | h
        · obtain ⟨path, s, rfl, hs⟩ := ih₁ h
          exact ⟨path ++ [⟨index, direction, ratio, true, second⟩], s, by rw [plug_append]; rfl, hs⟩
        · obtain ⟨path, s, rfl, hs⟩ := ih₂ h
          exact ⟨path ++ [⟨index, direction, ratio, false, first⟩], s, by rw [plug_append]; rfl, hs⟩

theorem replaced_plug (path : TreePath) {old new : Tree Pane} {t t' : IndexedTree}
    (h : Tree.Replaced old new t.tree t'.tree) :
    Tree.Replaced old new (path.plug t).tree (path.plug t').tree := by
  induction path generalizing t t' with
  | nil => exact h
  | cons f path ih => exact ih (f.replaced_fill h)

end TreePath

end SplitScreen
