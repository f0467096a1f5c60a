import SplitScreen.Proofs.Arena.Reading

namespace SplitScreen

def Node.children : Node → List NodeIndex
  | pane .. => []
  | split _ _ first second _ => [first, second]

namespace Arena

def IsChild (a : Arena) (child parent : NodeIndex) : Prop :=
  ∃ node, a.node? parent = some node ∧ child ∈ node.children

/-- A node is reached from another by child links. -/
inductive Below (a : Arena) (top : NodeIndex) : NodeIndex → Prop
  | refl : a.Below top top
  | child {parent child : NodeIndex} (h : a.Below top parent) (hchild : a.IsChild child parent) :
    a.Below top child

structure WellFormed (a : Arena) : Prop where
  /-- The root is there and has no parent. -/
  root : ∃ node, a.node? a.root = some node ∧ node.parent = none
  not_isChild_root (k : NodeIndex) : ¬ a.IsChild a.root k
  /-- Every other node is a child of exactly one node, the one that it names as its parent. -/
  isChild_iff {i : NodeIndex} {node : Node} (h : a.node? i = some node) (hroot : i ≠ a.root) :
    ∃ parent, node.parent = some parent ∧ ∀ k, a.IsChild i k ↔ k = parent
  /-- The two children of a split are there and apart. -/
  children {i first second : NodeIndex} {direction : Direction} {ratio : Ratio}
    {parent : Option NodeIndex}
    (h : a.node? i = some (.split direction ratio first second parent)) :
    first ≠ second ∧ (a.node? first).isSome ∧ (a.node? second).isSome
  /-- No node is out of reach. -/
  below {i : NodeIndex} (h : (a.node? i).isSome) : a.Below a.root i
  /-- There is one split less than panes. -/
  length_nodes : a.nodes.length + 1 = 2 * a.leaves.length
  /-- The leaf map leads from the id of every pane to its node, and nowhere else. -/
  leaf_iff {id : PaneId} {i : NodeIndex} :
    a.leaves.find? id = some i ↔ ∃ view parent, a.node? i = some (.pane ⟨id, view⟩ parent)
  nodup_nodes : a.nodes.keys.Nodup
  nodup_leaves : a.leaves.keys.Nodup
  index_lt {i : NodeIndex} (h : (a.node? i).isSome) : i < a.nextNode
  id_lt {id : PaneId} (h : (a.leaves.find? id).isSome) : id < a.nextPane
  ratio_pos {i first second : NodeIndex} {direction : Direction} {ratio : Ratio}
    {parent : Option NodeIndex}
    (h : a.node? i = some (.split direction ratio first second parent)) :
    0 < ratio.first ∧ 0 < ratio.second

variable {a : Arena} {path : TreePath} {t : IndexedTree} {f : OpenSplit}

theorem Shows.mem_entries_iff {parent : Option NodeIndex} (h : a.Shows parent t)
    {i : NodeIndex} {content : Pane} :
    (i, content) ∈ t.entries ↔ i ∈ t.indices ∧ ∃ k, a.node? i = some (.pane content k) := by
  induction t generalizing parent with
  | pane index c =>
      simp only [IndexedTree.entries, IndexedTree.indices, List.mem_singleton, Prod.mk.injEq]
      constructor
      · rintro ⟨rfl, rfl⟩
        exact ⟨rfl, parent, h⟩
      · rintro ⟨rfl, k, hk⟩
        have hnode := h.symm.trans hk
        simp only [Option.some.injEq, Node.pane.injEq] at hnode
        exact ⟨rfl, hnode.1.symm⟩
  | split index direction ratio first second ih₁ ih₂ =>
      obtain ⟨hself, hfirst, hsecond⟩ := h
      simp only [IndexedTree.entries, IndexedTree.indices, List.mem_append, List.mem_cons,
        ih₁ hfirst, ih₂ hsecond]
      constructor
      · rintro (⟨hi, hnode⟩ | ⟨hi, hnode⟩)
        · exact ⟨Or.inr (Or.inl hi), hnode⟩
        · exact ⟨Or.inr (Or.inr hi), hnode⟩
      · rintro ⟨rfl | hi | hi, hnode⟩
        · obtain ⟨k, hk⟩ := hnode
          rw [hself] at hk
          cases hk
        · exact Or.inl ⟨hi, hnode⟩
        · exact Or.inr ⟨hi, hnode⟩

namespace Holds

theorem exists_path_of_node (h : a.Holds [] t) {i : NodeIndex} (hi : (a.node? i).isSome) :
    ∃ (path : TreePath) (s : IndexedTree), a.Holds path s ∧ s.index = i := by
  obtain ⟨path, s, rfl, hs⟩ := TreePath.exists_plug_of_mem (h.isSome_node?_iff.mp hi)
  exact ⟨path, s, holds_plug_iff.mpr h, hs⟩

theorem isChild (h : a.Holds (f :: path) t) : a.IsChild t.index f.index := by
  obtain ⟨hself, -, -⟩ := h.showsPath
  refine ⟨_, hself, ?_⟩
  unfold OpenSplit.node
  split <;> simp [Node.children]

theorem exists_children (h : a.Holds [] t) {i first second : NodeIndex} {direction : Direction}
    {ratio : Ratio} {parent : Option NodeIndex}
    (hi : a.node? i = some (.split direction ratio first second parent)) :
    ∃ left right : IndexedTree, left.index = first ∧ right.index = second ∧
      a.Shows (some i) left ∧ a.Shows (some i) right ∧
      (left.indices ++ right.indices).Nodup := by
  obtain ⟨path, s, hs, rfl⟩ := h.exists_path_of_node (Option.isSome_of_eq_some hi)
  cases s with
  | pane index content => simp [hs.node?_pane] at hi
  | split index d r left right =>
      obtain ⟨hself, hleft, hright⟩ := hs.shows
      have hnodup := (List.nodup_append.mp hs.nodup_indices).1
      simp only [IndexedTree.index_split, hself, Option.some.injEq, Node.split.injEq] at hi
      exact ⟨left, right, hi.2.2.1, hi.2.2.2.1, hleft, hright, (List.nodup_cons.mp hnodup).2⟩

theorem parent_of_isChild (h : a.Holds [] t) {i k : NodeIndex} (hi : a.IsChild i k) :
    ∃ node, a.node? i = some node ∧ node.parent = some k := by
  obtain ⟨node, hnode, hmem⟩ := hi
  cases node with
  | pane content parent => simp [Node.children] at hmem
  | split direction ratio first second parent =>
      obtain ⟨left, right, rfl, rfl, hleft, hright, -⟩ := h.exists_children hnode
      have hside : i = left.index ∨ i = right.index := by simpa [Node.children] using hmem
      rcases hside with rfl | rfl
      · exact hleft.exists_node
      · exact hright.exists_node

/-- What is at the end of a path is reached from the root, one split of the path after another. -/
theorem below (h : a.Holds path t) : a.Below a.root t.index := by
  induction path generalizing t with
  | nil =>
      have hroot : a.root = t.index := h.showsPath
      rw [hroot]
      exact .refl
  | cons f path ih =>
      have hparent := ih (holds_cons_iff.mp h)
      rw [f.index_fill t] at hparent
      exact hparent.child h.isChild

theorem length_nodes (h : a.Holds [] t) : a.nodes.length + 1 = 2 * a.leaves.length := by
  have hnodes : a.nodes.length = t.indices.length := h.size_eq
  have hleaves : a.leaves.length = t.entries.length := by
    simpa [Assoc.keys] using h.keys_leaves_perm.length_eq
  rw [hnodes, hleaves]
  exact t.length_indices

theorem mem_entries_iff (h : a.Holds [] t) {i : NodeIndex} {content : Pane} :
    (i, content) ∈ t.entries ↔ ∃ parent, a.node? i = some (.pane content parent) := by
  rw [h.shows.mem_entries_iff, and_iff_right_iff_imp]
  rintro ⟨parent, hi⟩
  exact h.isSome_node?_iff.mp (Option.isSome_of_eq_some hi)

theorem wellFormed (h : a.Holds [] t) : a.WellFormed where
  root := by
    have hroot : a.root = t.index := h.showsPath
    rw [hroot]
    exact h.shows.exists_node
  not_isChild_root k hchild := by
    have hroot : a.root = t.index := h.showsPath
    obtain ⟨node, hnode, hparent⟩ := h.shows.exists_node
    obtain ⟨node', hnode', hparent'⟩ := h.parent_of_isChild hchild
    rw [hroot, hnode] at hnode'
    obtain rfl := Option.some.inj hnode'
    rw [hparent] at hparent'
    cases hparent'
  isChild_iff := by
    intro i node hi hne
    obtain ⟨path, s, hs, rfl⟩ := h.exists_path_of_node (Option.isSome_of_eq_some hi)
    cases path with
    | nil => exact absurd hs.showsPath.symm hne
    | cons f path =>
        obtain ⟨node', hnode', hparent⟩ := hs.shows.exists_node
        obtain rfl : node' = node := Option.some.inj (hnode'.symm.trans hi)
        refine ⟨f.index, hparent, fun k => ⟨fun hchild => ?_, ?_⟩⟩
        · obtain ⟨node, hnode, hk⟩ := h.parent_of_isChild hchild
          obtain rfl := Option.some.inj (hnode.symm.trans hi)
          exact Option.some.inj (hk.symm.trans hparent)
        · rintro rfl
          exact hs.isChild
  children := by
    intro i first second direction ratio parent hi
    obtain ⟨left, right, rfl, rfl, hleft, hright, hnodup⟩ := h.exists_children hi
    refine ⟨?_, hleft.isSome_node? left.index_mem_indices,
      hright.isSome_node? right.index_mem_indices⟩
    exact (List.nodup_append.mp hnodup).2.2 _ left.index_mem_indices _ right.index_mem_indices
  below hi := by
    obtain ⟨path, s, hs, rfl⟩ := h.exists_path_of_node hi
    exact hs.below
  length_nodes := h.length_nodes
  leaf_iff := by
    intro id i
    rw [h.leaf_iff]
    simp only [TreePath.entries, List.append_nil, h.mem_entries_iff]
    constructor
    · rintro ⟨⟨_, view⟩, ⟨parent, hi⟩, rfl⟩
      exact ⟨view, parent, hi⟩
    · rintro ⟨view, parent, hi⟩
      exact ⟨⟨id, view⟩, ⟨parent, hi⟩, rfl⟩
  nodup_nodes := h.nodup_nodes
  nodup_leaves := h.nodup_leaves
  index_lt hi := h.index_lt (List.mem_append_left _ (h.isSome_node?_iff.mp hi))
  id_lt := by
    intro id hid
    obtain ⟨i, hi⟩ := Option.isSome_iff_exists.mp hid
    obtain ⟨content, hmem, rfl⟩ := h.leaf_iff.mp hi
    exact h.id_lt hmem
  ratio_pos := by
    intro i first second direction ratio parent _
    exact ⟨ratio.first_pos, ratio.second_pos⟩

end Holds

end Arena

end SplitScreen
