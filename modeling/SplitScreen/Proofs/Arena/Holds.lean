import SplitScreen.Proofs.IndexedTree

/-!
What an arena holds. An arena holds a tree when it has every node of the tree under its index and
with its parent, the leaf of every pane, and nothing else. The tree is given as a path and what is
plugged in at its end, so that the same statement speaks of the whole tree and of the surroundings
of any subtree (`holds_plug_iff`). Main statements: where a leaf that is found stands
(`Holds.exists_path`), and what its neighbours are.
-/

namespace SplitScreen

namespace Arena

/-- The nodes of a tree are there, each under its index and with its parent. -/
def Shows (a : Arena) : Option NodeIndex → IndexedTree → Prop
  | parent, .pane index content => a.node? index = some (.pane content parent)
  | parent, .split index direction ratio first second =>
    a.node? index = some (.split direction ratio first.index second.index parent) ∧
      a.Shows (some index) first ∧ a.Shows (some index) second

/-- The splits of a path are there and lead from a node up to the root. -/
def ShowsPath (a : Arena) : TreePath → NodeIndex → Prop
  | [], child => a.root = child
  | f :: path, child =>
    a.node? f.index = some (f.node child (TreePath.parent path)) ∧
      a.Shows (some f.index) f.other ∧ a.ShowsPath path f.index

variable {a b : Arena} {path : TreePath} {t : IndexedTree} {f : OpenSplit}

theorem Shows.congr {parent : Option NodeIndex} (h : a.Shows parent t)
    (hnode : ∀ i ∈ t.indices, b.node? i = a.node? i) : b.Shows parent t := by
  induction t generalizing parent with
  | pane index content => exact (hnode index (by simp [IndexedTree.indices])).trans h
  | split index direction ratio first second ih₁ ih₂ =>
      obtain ⟨hself, hfirst, hsecond⟩ := h
      refine ⟨(hnode index (by simp [IndexedTree.indices])).trans hself, ih₁ hfirst ?_,
        ih₂ hsecond ?_⟩
      · exact fun i hi => hnode i (by simp [IndexedTree.indices, hi])
      · exact fun i hi => hnode i (by simp [IndexedTree.indices, hi])

theorem ShowsPath.congr {child : NodeIndex} (h : a.ShowsPath path child)
    (hroot : b.root = a.root) (hnode : ∀ i ∈ path.indices, b.node? i = a.node? i) :
    b.ShowsPath path child := by
  induction path generalizing child with
  | nil => exact hroot.trans h
  | cons f path ih =>
      obtain ⟨hself, hother, hpath⟩ := h
      refine ⟨(hnode f.index (by simp [TreePath.indices])).trans hself, hother.congr ?_,
        ih hpath ?_⟩
      · exact fun i hi => hnode i (by simp [TreePath.indices, hi])
      · exact fun i hi => hnode i (by simp [TreePath.indices, hi])

theorem shows_fill_iff {parent : Option NodeIndex} :
    a.Shows parent (f.fill t) ↔
      a.node? f.index = some (f.node t.index parent) ∧ a.Shows (some f.index) t ∧
        a.Shows (some f.index) f.other := by
  unfold OpenSplit.fill OpenSplit.node
  split
  · exact Iff.rfl
  · exact and_congr_right fun _ => and_comm

theorem Shows.exists_node {parent : Option NodeIndex} (h : a.Shows parent t) :
    ∃ node, a.node? t.index = some node ∧ node.parent = parent := by
  cases t with
  | pane index content => exact ⟨_, h, rfl⟩
  | split index direction ratio first second => exact ⟨_, h.1, rfl⟩

/-- The arena holds the tree that a path and the subtree at its end make up. -/
structure Holds (a : Arena) (path : TreePath) (t : IndexedTree) : Prop where
  showsPath : a.ShowsPath path t.index
  shows : a.Shows path.parent t
  /-- Nothing is left over. -/
  mem_indices {i : NodeIndex} {node : Node} (h : a.node? i = some node) :
    i ∈ t.indices ++ path.indices
  leaf_iff {id : PaneId} {i : NodeIndex} :
    a.leaves.find? id = some i ↔
      ∃ content, (i, content) ∈ t.entries ++ path.entries ∧ content.id = id
  nodup_indices : (t.indices ++ path.indices).Nodup
  nodup_ids : ((t.entries ++ path.entries).map fun entry => entry.2.id).Nodup
  index_lt {i : NodeIndex} (h : i ∈ t.indices ++ path.indices) : i < a.nextNode
  id_lt {entry : NodeIndex × Pane} (h : entry ∈ t.entries ++ path.entries) :
    entry.2.id < a.nextPane
  nodup_nodes : a.nodes.keys.Nodup
  nodup_leaves : a.leaves.keys.Nodup

/-- A path that is one split longer is about the same tree. -/
theorem holds_cons_iff : a.Holds (f :: path) t ↔ a.Holds path (f.fill t) := by
  have hindices : ((f.fill t).indices ++ path.indices).Perm
      (t.indices ++ TreePath.indices (f :: path)) := by
    simpa [TreePath.indices] using (f.indices_fill t).append_right path.indices
  have hentries : ((f.fill t).entries ++ path.entries).Perm
      (t.entries ++ TreePath.entries (f :: path)) := by
    simpa [TreePath.entries] using (f.entries_fill t).append_right path.entries
  constructor
  · intro h
    obtain ⟨hself, hother, hpath⟩ := h.showsPath
    exact {
      showsPath := by simpa using hpath
      shows := shows_fill_iff.mpr ⟨hself, h.shows, hother⟩
      mem_indices := fun hi => hindices.mem_iff.mpr (h.mem_indices hi)
      leaf_iff := by
        intro id i
        simp only [h.leaf_iff, hentries.mem_iff]
      nodup_indices := hindices.nodup_iff.mpr h.nodup_indices
      nodup_ids := (hentries.map _).nodup_iff.mpr h.nodup_ids
      index_lt := fun hi => h.index_lt (hindices.mem_iff.mp hi)
      id_lt := fun hentry => h.id_lt (hentries.mem_iff.mp hentry)
      nodup_nodes := h.nodup_nodes
      nodup_leaves := h.nodup_leaves }
  · intro h
    obtain ⟨hself, ht, hother⟩ := shows_fill_iff.mp h.shows
    exact {
      showsPath := ⟨hself, hother, by simpa using h.showsPath⟩
      shows := ht
      mem_indices := fun hi => hindices.mem_iff.mp (h.mem_indices hi)
      leaf_iff := by
        intro id i
        simp only [h.leaf_iff, ← hentries.mem_iff]
      nodup_indices := hindices.nodup_iff.mp h.nodup_indices
      nodup_ids := (hentries.map _).nodup_iff.mp h.nodup_ids
      index_lt := fun hi => h.index_lt (hindices.mem_iff.mpr hi)
      id_lt := fun hentry => h.id_lt (hentries.mem_iff.mpr hentry)
      nodup_nodes := h.nodup_nodes
      nodup_leaves := h.nodup_leaves }

theorem holds_plug_iff : a.Holds path t ↔ a.Holds [] (path.plug t) := by
  induction path generalizing t with
  | nil => exact Iff.rfl
  | cons f path ih => exact holds_cons_iff.trans ih

namespace Holds

variable {index : NodeIndex} {content : Pane}

theorem node?_pane (h : a.Holds path (.pane index content)) :
    a.node? index = some (.pane content path.parent) := h.shows

theorem leaf?_eq (h : a.Holds path (.pane index content)) :
    a.leaf? content.id = some ⟨index, content, path.parent⟩ := by
  have hindex : a.leaves.find? content.id = some index :=
    h.leaf_iff.mpr ⟨content, by simp [IndexedTree.entries], rfl⟩
  simp [leaf?, hindex, h.node?_pane]

theorem exists_path (h : a.Holds [] t) {id : PaneId} {l : Leaf} (hl : a.leaf? id = some l) :
    ∃ path : TreePath, t = path.plug (.pane l.index l.content) ∧
      a.Holds path (.pane l.index l.content) ∧ l.parent = path.parent ∧ l.content.id = id := by
  obtain ⟨index, hindex⟩ : ∃ index, a.leaves.find? id = some index := by
    cases hfind : a.leaves.find? id with
    | none => simp [leaf?, hfind] at hl
    | some index => exact ⟨index, rfl⟩
  obtain ⟨content, hmem, rfl⟩ := h.leaf_iff.mp hindex
  rw [TreePath.entries, List.append_nil] at hmem
  obtain ⟨path, rfl⟩ := TreePath.exists_plug hmem
  have hpath : a.Holds path (.pane index content) := holds_plug_iff.mpr h
  obtain rfl : ⟨index, content, path.parent⟩ = l := by
    simpa [hpath.leaf?_eq] using hl
  exact ⟨path, rfl, hpath, rfl, rfl⟩

theorem exists_path_of_mem (h : a.Holds [] t) (hmem : content ∈ t.tree.leaves) :
    ∃ (path : TreePath) (index : NodeIndex), t = path.plug (.pane index content) ∧
      a.Holds path (.pane index content) := by
  rw [← t.map_snd_entries] at hmem
  obtain ⟨⟨index, _⟩, hentry, rfl⟩ := List.mem_map.mp hmem
  obtain ⟨path, rfl⟩ := TreePath.exists_plug hentry
  exact ⟨path, index, rfl, holds_plug_iff.mpr h⟩

theorem index_ne (h : a.Holds path t) {i j : NodeIndex} (hi : i ∈ t.indices)
    (hj : j ∈ path.indices) : i ≠ j :=
  (List.nodup_append.mp h.nodup_indices).2.2 i hi j hj

theorem notMem_of_le (h : a.Holds path t) {i : NodeIndex} (hi : a.nextNode ≤ i) :
    i ∉ t.indices ++ path.indices :=
  fun hmem => absurd (h.index_lt hmem) (Nat.not_lt.mpr hi)

theorem other_ne (h : a.Holds (f :: path) t) : f.other.index ≠ t.index := by
  refine (h.index_ne t.index_mem_indices ?_).symm
  simp [TreePath.indices, f.other.index_mem_indices]

theorem nodup_path (h : a.Holds path t) : path.indices.Nodup :=
  (List.nodup_append.mp h.nodup_indices).2.1

end Holds

end Arena

end SplitScreen
