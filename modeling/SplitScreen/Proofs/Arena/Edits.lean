import SplitScreen.Proofs.Arena.Holds

namespace SplitScreen

namespace Arena

variable {a b : Arena} {path : TreePath} {t : IndexedTree} {f : OpenSplit} {index : NodeIndex}
  {content : Pane}

theorem node?_replaceChild (a : Arena) (parent : Option NodeIndex) (old new i : NodeIndex) :
    (a.replaceChild parent old new).node? i =
      if parent = some i then (a.node? i).map (Node.replaceChild old new) else a.node? i := by
  cases parent with
  | none => simp [replaceChild, node?]
  | some k => simp [replaceChild, node?_update]

theorem ShowsPath.relink {old : NodeIndex} (h : a.ShowsPath path old)
    (hnodup : path.indices.Nodup) (hold : old ∉ path.indices) (new : NodeIndex) :
    (a.replaceChild path.parent old new).ShowsPath path new := by
  cases path with
  | nil => rfl
  | cons f path =>
      obtain ⟨hself, hother, hpath⟩ := h
      simp only [TreePath.indices, List.cons_append, List.nodup_cons, List.mem_append,
        not_or] at hnodup
      have hne : f.other.index ≠ old := by
        rintro rfl
        exact hold (by simp [TreePath.indices, f.other.index_mem_indices])
      have hkeep : ∀ i, i ≠ f.index →
          (a.replaceChild (some f.index) old new).node? i = a.node? i := by
        intro i hi
        rw [node?_replaceChild, if_neg (by simpa using hi.symm)]
      refine ⟨?_, hother.congr fun i hi => hkeep i ?_, hpath.congr ?_ fun i hi => hkeep i ?_⟩
      · simp [TreePath.parent, node?_replaceChild, hself, f.replaceChild_node new _ hne]
      · rintro rfl
        exact hnodup.1.1 hi
      · simp [TreePath.parent, root_replaceChild]
      · rintro rfl
        exact hnodup.1.2 hi

theorem node?_replaceChild_of_notMem {i : NodeIndex} (hi : i ∉ path.indices)
    (old new : NodeIndex) : (a.replaceChild path.parent old new).node? i = a.node? i := by
  rw [node?_replaceChild, if_neg (TreePath.parent_ne hi)]

@[simp] theorem isSome_node?_update (a : Arena) (i j : NodeIndex) (g : Node → Node) :
    ((a.update i g).node? j).isSome = (a.node? j).isSome := by
  rw [node?_update]
  split <;> simp

@[simp] theorem isSome_node?_replaceChild (a : Arena) (parent : Option NodeIndex)
    (old new j : NodeIndex) :
    ((a.replaceChild parent old new).node? j).isSome = (a.node? j).isSome := by
  rw [node?_replaceChild]
  split <;> simp

@[simp] theorem keys_nodes_update (a : Arena) (i : NodeIndex) (g : Node → Node) :
    (a.update i g).nodes.keys = a.nodes.keys := by
  unfold update
  split
  · next node hnode =>
      have hmem : i ∈ a.nodes.keys := by
        rw [Assoc.mem_keys_iff_find?]
        simpa [node?] using Option.isSome_of_eq_some hnode
      rw [Assoc.keys_insert, if_pos hmem]
  · rfl

@[simp] theorem keys_nodes_replaceChild (a : Arena) (parent : Option NodeIndex)
    (old new : NodeIndex) : (a.replaceChild parent old new).nodes.keys = a.nodes.keys := by
  cases parent <;> simp [replaceChild]

@[simp] theorem nextNode_update (a : Arena) (i : NodeIndex) (g : Node → Node) :
    (a.update i g).nextNode = a.nextNode := by
  unfold update
  split <;> rfl

@[simp] theorem nextPane_update (a : Arena) (i : NodeIndex) (g : Node → Node) :
    (a.update i g).nextPane = a.nextPane := by
  unfold update
  split <;> rfl

@[simp] theorem nextNode_replaceChild (a : Arena) (parent : Option NodeIndex)
    (old new : NodeIndex) : (a.replaceChild parent old new).nextNode = a.nextNode := by
  cases parent <;> simp [replaceChild]

@[simp] theorem nextPane_replaceChild (a : Arena) (parent : Option NodeIndex)
    (old new : NodeIndex) : (a.replaceChild parent old new).nextPane = a.nextPane := by
  cases parent <;> simp [replaceChild]

theorem Holds.setView (h : a.Holds path (.pane index content)) (view : View) :
    (a.setView ⟨index, content, path.parent⟩ view).Holds path
      (.pane index { content with view := view }) := by
  have hkeep : ∀ i ∈ path.indices,
      (a.setView ⟨index, content, path.parent⟩ view).node? i = a.node? i := by
    intro i hi
    rw [Arena.setView, node?_update, if_neg]
    exact h.index_ne (by simp [IndexedTree.indices]) hi
  exact {
    showsPath := h.showsPath.congr (by simp [Arena.setView]) hkeep
    shows := by simp [Shows, Arena.setView, node?_update, h.node?_pane]
    mem_indices := by
      intro i node hi
      have hsome : (a.node? i).isSome := by
        simpa [Arena.setView] using Option.isSome_of_eq_some hi
      obtain ⟨old, hold⟩ := Option.isSome_iff_exists.mp hsome
      exact h.mem_indices hold
    leaf_iff := by
      intro id i
      rw [Arena.setView, leaves_update, h.leaf_iff]
      simp [IndexedTree.entries, or_and_right, exists_or, and_assoc]
    nodup_indices := h.nodup_indices
    nodup_ids := by simpa [IndexedTree.entries] using h.nodup_ids
    index_lt := fun hi => by simpa [Arena.setView] using h.index_lt hi
    id_lt := by simpa [Arena.setView, IndexedTree.entries] using @h.id_lt
    nodup_nodes := by simpa [Arena.setView] using h.nodup_nodes
    nodup_leaves := by simpa [Arena.setView] using h.nodup_leaves }

theorem node?_split (a : Arena) (l : Leaf) (direction : Direction) (ratio : Ratio)
    (i : NodeIndex) :
    (a.split l direction ratio).node? i =
      let grown :=
        if a.nextNode + 1 = i then some (.pane ⟨a.nextPane, l.content.view⟩ (some a.nextNode))
        else if a.nextNode = i then
          some (.split direction ratio l.index (a.nextNode + 1) l.parent)
        else a.node? i
      let linked :=
        if l.parent = some i then grown.map (Node.replaceChild l.index a.nextNode) else grown
      if l.index = i then linked.map (Node.withParent (some a.nextNode)) else linked := by
  simp only [Arena.split, node?_update, node?_replaceChild, node?_addPane, node?_addNode]
  rfl

@[simp] theorem leaves_split (a : Arena) (l : Leaf) (direction : Direction) (ratio : Ratio) :
    (a.split l direction ratio).leaves = a.leaves.insert a.nextPane (a.nextNode + 1) := by
  simp [Arena.split, addPane, addNode]

@[simp] theorem nextNode_split (a : Arena) (l : Leaf) (direction : Direction) (ratio : Ratio) :
    (a.split l direction ratio).nextNode = a.nextNode + 2 := by
  simp [Arena.split, addPane, addNode]

@[simp] theorem nextPane_split (a : Arena) (l : Leaf) (direction : Direction) (ratio : Ratio) :
    (a.split l direction ratio).nextPane = a.nextPane + 1 := by
  simp [Arena.split, addPane, addNode]

theorem root_split (a : Arena) (l : Leaf) (direction : Direction) (ratio : Ratio) :
    (a.split l direction ratio).root = if l.parent = none then a.nextNode else a.root := by
  simp [Arena.split, root_replaceChild, addPane, addNode]

theorem isSome_node?_split (a : Arena) (l : Leaf) (direction : Direction) (ratio : Ratio)
    (i : NodeIndex) :
    ((a.split l direction ratio).node? i).isSome =
      (decide (i = a.nextNode) || decide (i = a.nextNode + 1) || (a.node? i).isSome) := by
  simp only [Arena.split, isSome_node?_update, isSome_node?_replaceChild, node?_addPane,
    node?_addNode]
  grind [addNode]

theorem nodup_nodes_split (l : Leaf) (direction : Direction) (ratio : Ratio)
    (h : a.nodes.keys.Nodup) : (a.split l direction ratio).nodes.keys.Nodup := by
  simpa [Arena.split, addPane, addNode] using
    Assoc.nodup_keys_insert _ _ (Assoc.nodup_keys_insert _ _ h)

/-- What stands in the place of a leaf that is split. -/
def splitLeaf (a : Arena) (index : NodeIndex) (content : Pane) (direction : Direction)
    (ratio : Ratio) : IndexedTree :=
  .split a.nextNode direction ratio (.pane index content)
    (.pane (a.nextNode + 1) ⟨a.nextPane, content.view⟩)

theorem indices_splitLeaf (a : Arena) (index : NodeIndex) (content : Pane)
    (direction : Direction) (ratio : Ratio) (rest : List NodeIndex) :
    ((a.splitLeaf index content direction ratio).indices ++ rest).Perm
      (a.nextNode :: (a.nextNode + 1) :: ((IndexedTree.pane index content).indices ++ rest)) :=
  (List.Perm.swap _ _ _).cons _

theorem entries_splitLeaf (a : Arena) (index : NodeIndex) (content : Pane)
    (direction : Direction) (ratio : Ratio) (rest : List (NodeIndex × Pane)) :
    ((a.splitLeaf index content direction ratio).entries ++ rest).Perm
      ((a.nextNode + 1, ⟨a.nextPane, content.view⟩) ::
        ((IndexedTree.pane index content).entries ++ rest)) :=
  List.Perm.swap _ _ _

namespace Holds

theorem node?_split_of_mem (h : a.Holds path (.pane index content)) (direction : Direction)
    (ratio : Ratio) {i : NodeIndex} (hi : i ∈ path.indices) :
    (a.split ⟨index, content, path.parent⟩ direction ratio).node? i =
      (a.replaceChild path.parent index a.nextNode).node? i := by
  have hapart : index ≠ i := h.index_ne (by simp [IndexedTree.indices]) hi
  have hlt : i < a.nextNode := h.index_lt (List.mem_append_right _ hi)
  have hsplit : a.nextNode ≠ i := Nat.ne_of_gt hlt
  have hnew : a.nextNode + 1 ≠ i := Nat.ne_of_gt (Nat.lt_succ_of_lt hlt)
  rw [node?_split, node?_replaceChild]
  simp [hapart, hsplit, hnew]

theorem showsPath_split (h : a.Holds path (.pane index content)) (direction : Direction)
    (ratio : Ratio) :
    (a.split ⟨index, content, path.parent⟩ direction ratio).ShowsPath path a.nextNode := by
  have hapart : index ∉ path.indices := fun hi =>
    h.index_ne (by simp [IndexedTree.indices]) hi rfl
  have hlinked := h.showsPath.relink h.nodup_path hapart a.nextNode
  refine hlinked.congr ?_ fun i hi => h.node?_split_of_mem direction ratio hi
  rw [root_split, root_replaceChild]

theorem shows_split (h : a.Holds path (.pane index content)) (direction : Direction)
    (ratio : Ratio) :
    (a.split ⟨index, content, path.parent⟩ direction ratio).Shows path.parent
      (a.splitLeaf index content direction ratio) := by
  have hlt : index < a.nextNode := h.index_lt (by simp [IndexedTree.indices])
  have hsplit : a.nextNode ≠ index := Nat.ne_of_gt hlt
  have hnew : a.nextNode + 1 ≠ index := Nat.ne_of_gt (Nat.lt_succ_of_lt hlt)
  have hparent : ∀ i, a.nextNode ≤ i → path.parent ≠ some i := fun i hi =>
    TreePath.parent_ne fun hmem => h.notMem_of_le hi (List.mem_append_right _ hmem)
  have hapart : path.parent ≠ some index := TreePath.parent_ne fun hi =>
    h.index_ne (by simp [IndexedTree.indices]) hi rfl
  refine ⟨?_, ?_, ?_⟩
  · rw [node?_split]
    simp [hparent a.nextNode (Nat.le_refl _), hsplit.symm]
  · rw [Shows, node?_split]
    simp [hapart, h.node?_pane, Node.withParent, hsplit, hnew]
  · rw [Shows, node?_split]
    simp [hparent (a.nextNode + 1) (Nat.le_succ _), hnew.symm]

theorem leaf_iff_split (h : a.Holds path (.pane index content)) (direction : Direction)
    (ratio : Ratio) {id : PaneId} {i : NodeIndex} :
    (a.split ⟨index, content, path.parent⟩ direction ratio).leaves.find? id = some i ↔
      ∃ c, (i, c) ∈ (a.splitLeaf index content direction ratio).entries ++ path.entries ∧
        c.id = id := by
  have hentries := a.entries_splitLeaf index content direction ratio path.entries
  rw [leaves_split, Assoc.find?_insert]
  simp only [hentries.mem_iff, List.mem_cons, or_and_right, exists_or]
  split
  · next hid =>
      subst hid
      constructor
      · rintro ⟨⟩
        exact Or.inl ⟨_, rfl, rfl⟩
      · rintro (⟨_, ⟨⟩, _⟩ | ⟨c, hc, hid⟩)
        · rfl
        · exact absurd hid (Int.ne_of_lt (h.id_lt hc))
  · next hid =>
      rw [h.leaf_iff]
      constructor
      · exact Or.inr
      · rintro (⟨_, ⟨⟩, hnew⟩ | hold)
        · exact absurd hnew hid
        · exact hold

/-- A split puts a split of the leaf and a new pane in the place of the leaf. -/
theorem split (h : a.Holds path (.pane index content)) (direction : Direction)
    (ratio : Ratio) :
    (a.split ⟨index, content, path.parent⟩ direction ratio).Holds path
      (a.splitLeaf index content direction ratio) where
  showsPath := h.showsPath_split direction ratio
  shows := h.shows_split direction ratio
  mem_indices := by
    intro i node hi
    have hsome := Option.isSome_of_eq_some hi
    rw [isSome_node?_split, Bool.or_eq_true, Bool.or_eq_true] at hsome
    rw [(a.indices_splitLeaf ..).mem_iff]
    rcases hsome with (hi | hi) | hi
    · exact List.mem_cons.mpr (Or.inl (of_decide_eq_true hi))
    · exact List.mem_cons_of_mem _ (List.mem_cons.mpr (Or.inl (of_decide_eq_true hi)))
    · obtain ⟨node, hnode⟩ := Option.isSome_iff_exists.mp hi
      exact List.mem_cons_of_mem _ (List.mem_cons_of_mem _ (h.mem_indices hnode))
  leaf_iff := h.leaf_iff_split direction ratio
  nodup_indices := by
    rw [(a.indices_splitLeaf ..).nodup_iff]
    refine List.nodup_cons.mpr ⟨?_, List.nodup_cons.mpr ⟨?_, h.nodup_indices⟩⟩
    · rw [List.mem_cons, not_or]
      exact ⟨Nat.ne_of_lt (Nat.lt_succ_self _), h.notMem_of_le (Nat.le_refl _)⟩
    · exact h.notMem_of_le (Nat.le_succ _)
  nodup_ids := by
    rw [((a.entries_splitLeaf ..).map _).nodup_iff]
    refine List.nodup_cons.mpr ⟨?_, h.nodup_ids⟩
    intro hid
    obtain ⟨entry, hentry, hid⟩ := List.mem_map.mp hid
    exact Int.ne_of_lt (h.id_lt hentry) hid
  index_lt := by
    intro i hi
    rw [nextNode_split]
    rcases List.mem_cons.mp ((a.indices_splitLeaf ..).mem_iff.mp hi) with rfl | hi
    · exact Nat.lt_add_of_pos_right Nat.two_pos
    · rcases List.mem_cons.mp hi with rfl | hi
      · exact Nat.lt_succ_self _
      · exact Nat.lt_add_right _ (h.index_lt hi)
  id_lt := by
    intro entry hentry
    rw [nextPane_split]
    rcases List.mem_cons.mp ((a.entries_splitLeaf ..).mem_iff.mp hentry) with rfl | hentry
    · exact Int.lt_succ _
    · exact Int.lt_trans (h.id_lt hentry) (Int.lt_succ _)
  nodup_nodes := nodup_nodes_split _ _ _ h.nodup_nodes
  nodup_leaves := by
    simpa using Assoc.nodup_keys_insert _ _ h.nodup_leaves

end Holds

theorem Shows.reparent {parent : Option NodeIndex} (h : a.Shows parent t)
    (hnodup : t.indices.Nodup) (new : Option NodeIndex) :
    (a.update t.index (Node.withParent new)).Shows new t := by
  cases t with
  | pane index content =>
      have hself : a.node? index = some (.pane content parent) := h
      simp [Shows, node?_update, hself, Node.withParent]
  | split index direction ratio first second =>
      obtain ⟨hself, hfirst, hsecond⟩ := h
      have hnot := (List.nodup_cons.mp hnodup).1
      have hkeep : ∀ i ∈ first.indices ++ second.indices,
          (a.update index (Node.withParent new)).node? i = a.node? i := by
        intro i hi
        rw [node?_update, if_neg]
        rintro rfl
        exact hnot hi
      refine ⟨?_, hfirst.congr fun i hi => hkeep i ?_, hsecond.congr fun i hi => hkeep i ?_⟩
      · simp [node?_update, hself, Node.withParent]
      · exact List.mem_append_left _ hi
      · exact List.mem_append_right _ hi

/-- The arena without a leaf and the split around it. -/
def withoutLeaf (a : Arena) (f : OpenSplit) (path : TreePath) (index : NodeIndex)
    (id : PaneId) : Arena :=
  let lifted := (a.update f.other.index (Node.withParent path.parent)).replaceChild path.parent
    f.index f.other.index
  { lifted with
    nodes := (lifted.nodes.erase f.index).erase index
    leaves := lifted.leaves.erase id }

theorem node?_withoutLeaf (a : Arena) (f : OpenSplit) (path : TreePath) (index : NodeIndex)
    (id : PaneId) (i : NodeIndex) :
    (a.withoutLeaf f path index id).node? i =
      if index = i then none
      else if f.index = i then none
      else ((a.update f.other.index (Node.withParent path.parent)).replaceChild path.parent
        f.index f.other.index).node? i := by
  simp only [withoutLeaf, node?, Assoc.find?_erase]

@[simp] theorem leaves_withoutLeaf (a : Arena) (f : OpenSplit) (path : TreePath)
    (index : NodeIndex) (id : PaneId) :
    (a.withoutLeaf f path index id).leaves = a.leaves.erase id := by
  simp [withoutLeaf]

@[simp] theorem nextNode_withoutLeaf (a : Arena) (f : OpenSplit) (path : TreePath)
    (index : NodeIndex) (id : PaneId) :
    (a.withoutLeaf f path index id).nextNode = a.nextNode := by
  simp [withoutLeaf]

@[simp] theorem nextPane_withoutLeaf (a : Arena) (f : OpenSplit) (path : TreePath)
    (index : NodeIndex) (id : PaneId) :
    (a.withoutLeaf f path index id).nextPane = a.nextPane := by
  simp [withoutLeaf]

namespace Holds

theorem collapse?_eq (h : a.Holds (f :: path) (.pane index content)) :
    a.collapse? ⟨index, content, some f.index⟩ =
      some (f.other.index, a.withoutLeaf f path index content.id) := by
  obtain ⟨hself, -, -⟩ := h.showsPath
  have hne : f.other.index ≠ index := h.other_ne
  simp [collapse?, hself, f.otherChild?_node _ hne, withoutLeaf]

theorem nodup_cons (h : a.Holds (f :: path) (.pane index content)) :
    (index :: f.index :: (f.other.indices ++ path.indices)).Nodup := by
  simpa [IndexedTree.indices, TreePath.indices] using h.nodup_indices

theorem node?_withoutLeaf_of_mem (h : a.Holds (f :: path) (.pane index content)) {i : NodeIndex}
    (hi : i ∈ f.other.indices ++ path.indices) :
    (a.withoutLeaf f path index content.id).node? i =
      ((a.update f.other.index (Node.withParent path.parent)).replaceChild path.parent
        f.index f.other.index).node? i := by
  obtain ⟨hindex, hrest⟩ := List.nodup_cons.mp h.nodup_cons
  rw [node?_withoutLeaf, if_neg, if_neg]
  · rintro rfl
    exact (List.nodup_cons.mp hrest).1 hi
  · rintro rfl
    exact hindex (List.mem_cons_of_mem _ hi)

theorem showsPath_withoutLeaf (h : a.Holds (f :: path) (.pane index content)) :
    (a.withoutLeaf f path index content.id).ShowsPath path f.other.index := by
  obtain ⟨-, -, hpath⟩ := h.showsPath
  obtain ⟨hsplit, hrest⟩ := List.nodup_cons.mp (List.nodup_cons.mp h.nodup_cons).2
  obtain ⟨-, hnodup, hapart⟩ := List.nodup_append.mp hrest
  have hlifted : (a.update f.other.index (Node.withParent path.parent)).ShowsPath path
      f.index := by
    refine hpath.congr (root_update ..) fun i hi => ?_
    rw [node?_update, if_neg (hapart _ f.other.index_mem_indices _ hi)]
  have hlinked := hlifted.relink hnodup (fun hi => hsplit (List.mem_append_right _ hi))
    f.other.index
  exact hlinked.congr rfl fun i hi => h.node?_withoutLeaf_of_mem (List.mem_append_right _ hi)

theorem shows_withoutLeaf (h : a.Holds (f :: path) (.pane index content)) :
    (a.withoutLeaf f path index content.id).Shows path.parent f.other := by
  obtain ⟨-, hother, -⟩ := h.showsPath
  have hrest := (List.nodup_cons.mp (List.nodup_cons.mp h.nodup_cons).2).2
  obtain ⟨hnodup, -, hapart⟩ := List.nodup_append.mp hrest
  refine (hother.reparent hnodup path.parent).congr fun i hi => ?_
  rw [h.node?_withoutLeaf_of_mem (List.mem_append_left _ hi), node?_replaceChild_of_notMem]
  exact fun hi' => hapart i hi i hi' rfl

theorem mem_of_node?_withoutLeaf (h : a.Holds (f :: path) (.pane index content)) {i : NodeIndex}
    {node : Node} (hi : (a.withoutLeaf f path index content.id).node? i = some node) :
    i ∈ f.other.indices ++ path.indices := by
  rw [node?_withoutLeaf] at hi
  split at hi
  · cases hi
  · next hne =>
      split at hi
      · cases hi
      · next hne' =>
          have hsome : (a.node? i).isSome := by simpa using Option.isSome_of_eq_some hi
          obtain ⟨old, hold⟩ := Option.isSome_iff_exists.mp hsome
          have hmem := h.mem_indices hold
          simpa [IndexedTree.indices, TreePath.indices, Ne.symm hne, Ne.symm hne'] using hmem

theorem leaf_iff_withoutLeaf (h : a.Holds (f :: path) (.pane index content)) {id : PaneId}
    {i : NodeIndex} :
    (a.withoutLeaf f path index content.id).leaves.find? id = some i ↔
      ∃ c, (i, c) ∈ f.other.entries ++ path.entries ∧ c.id = id := by
  rw [leaves_withoutLeaf, Assoc.find?_erase]
  split
  · next hid =>
      constructor
      · rintro ⟨⟩
      · rintro ⟨c, hc, rfl⟩
        exact absurd (List.mem_map.mpr ⟨_, hc, hid.symm⟩) (List.nodup_cons.mp h.nodup_ids).1
  · next hid =>
      rw [h.leaf_iff]
      constructor
      · rintro ⟨c, hc, rfl⟩
        rcases List.mem_cons.mp hc with hc | hc
        · exact absurd (congrArg (fun entry => entry.2.id) hc).symm hid
        · exact ⟨c, hc, rfl⟩
      · rintro ⟨c, hc, rfl⟩
        exact ⟨c, List.mem_cons_of_mem _ hc, rfl⟩

/-- Dropping a leaf puts the other child of its split in the place of the split. -/
theorem collapse (h : a.Holds (f :: path) (.pane index content)) :
    (a.withoutLeaf f path index content.id).Holds path f.other where
  showsPath := h.showsPath_withoutLeaf
  shows := h.shows_withoutLeaf
  mem_indices := h.mem_of_node?_withoutLeaf
  leaf_iff := h.leaf_iff_withoutLeaf
  nodup_indices := (List.nodup_cons.mp (List.nodup_cons.mp h.nodup_cons).2).2
  nodup_ids := (List.nodup_cons.mp h.nodup_ids).2
  index_lt hi := by
    rw [nextNode_withoutLeaf]
    exact h.index_lt (List.mem_cons_of_mem _ (List.mem_cons_of_mem _ hi))
  id_lt hentry := by
    rw [nextPane_withoutLeaf]
    exact h.id_lt (List.mem_cons_of_mem _ hentry)
  nodup_nodes := by
    refine Assoc.nodup_keys_erase _ (Assoc.nodup_keys_erase _ ?_)
    simpa using h.nodup_nodes
  nodup_leaves := by
    simpa using Assoc.nodup_keys_erase content.id h.nodup_leaves

end Holds

namespace Holds

variable {id : PaneId} {l : Leaf}

theorem exists_eq (h : a.Holds [] t) (hl : a.leaf? id = some l) :
    ∃ path : TreePath, t = path.plug (.pane l.index l.content) ∧ l.content.id = id ∧
      l = ⟨l.index, l.content, path.parent⟩ ∧ a.Holds path (.pane l.index l.content) := by
  obtain ⟨path, ht, hpath, hparent, hid⟩ := h.exists_path hl
  refine ⟨path, ht, hid, ?_, hpath⟩
  rw [← hparent]

theorem exists_setView (h : a.Holds [] t) (hl : a.leaf? id = some l) (view : View) :
    ∃ path : TreePath, t = path.plug (.pane l.index l.content) ∧ l.content.id = id ∧
      (a.setView l view).Holds [] (path.plug (.pane l.index ⟨id, view⟩)) := by
  obtain ⟨path, ht, rfl, hleaf, hpath⟩ := h.exists_eq hl
  refine ⟨path, ht, rfl, ?_⟩
  rw [hleaf]
  exact holds_plug_iff.mp (hpath.setView view)

theorem exists_split (h : a.Holds [] t) (hl : a.leaf? id = some l) (direction : Direction)
    (ratio : Ratio) :
    ∃ path : TreePath, t = path.plug (.pane l.index l.content) ∧ l.content.id = id ∧
      (a.split l direction ratio).Holds []
        (path.plug (a.splitLeaf l.index l.content direction ratio)) := by
  obtain ⟨path, ht, rfl, hleaf, hpath⟩ := h.exists_eq hl
  refine ⟨path, ht, rfl, ?_⟩
  rw [hleaf]
  exact holds_plug_iff.mp (hpath.split direction ratio)

theorem exists_collapse (h : a.Holds [] t) (hl : a.leaf? id = some l) {sibling : NodeIndex}
    (hcollapse : a.collapse? l = some (sibling, b)) :
    ∃ (f : OpenSplit) (path : TreePath), t = TreePath.plug (f :: path) (.pane l.index l.content) ∧
      l.content.id = id ∧ l.parent = some f.index ∧ sibling = f.other.index ∧
      a.Holds (f :: path) (.pane l.index l.content) ∧ b.Holds path f.other := by
  obtain ⟨path, ht, hid, hleaf, hpath⟩ := h.exists_eq hl
  rw [hleaf] at hcollapse
  cases path with
  | nil => simp [collapse?, TreePath.parent] at hcollapse
  | cons f path =>
      obtain ⟨rfl, rfl⟩ : f.other.index = sibling ∧
          a.withoutLeaf f path l.index l.content.id = b := by
        simpa [TreePath.parent, hpath.collapse?_eq] using hcollapse
      exact ⟨f, path, ht, hid, by rw [hleaf]; rfl, rfl, hpath, hpath.collapse⟩

theorem siblingIndex?_eq (h : a.Holds (f :: path) (.pane index content)) :
    a.siblingIndex? ⟨index, content, some f.index⟩ = some f.other.index := by
  obtain ⟨hself, -, -⟩ := h.showsPath
  have hne : f.other.index ≠ index := h.other_ne
  simp [siblingIndex?, hself, f.otherChild?_node _ hne]

/-- The pane beside a leaf is the other child of their split. -/
theorem other_eq_of_siblingPane? (h : a.Holds (f :: path) (.pane index content))
    {sibling : PaneId} (hsibling : a.siblingPane? ⟨index, content, some f.index⟩ = some sibling) :
    ∃ i view, f.other = .pane i ⟨sibling, view⟩ := by
  obtain ⟨-, hother, -⟩ := h.showsPath
  have hindex := h.siblingIndex?_eq
  unfold siblingPane? at hsibling
  cases hchild : f.other with
  | pane i c =>
      rw [hchild] at hother hindex
      have hnode : a.node? i = some (.pane c (some f.index)) := hother
      obtain rfl : c.id = sibling := by simpa [hindex, hnode] using hsibling
      exact ⟨i, c.view, rfl⟩
  | split i direction ratio first second =>
      rw [hchild] at hother hindex
      simp [hindex, hother.1] at hsibling

theorem other_eq_of_parent_eq (h : a.Holds (f :: path) (.pane index content)) {id : PaneId}
    {kept : Leaf} (hkept : a.leaf? id = some kept) (hparent : kept.parent = some f.index)
    (hne : id ≠ content.id) : ∃ i view, f.other = .pane i ⟨id, view⟩ := by
  obtain ⟨hself, hother, -⟩ := h.showsPath
  obtain ⟨path', -, rfl, hleaf, hpath'⟩ := (holds_plug_iff.mp h).exists_eq hkept
  have hnode' := hpath'.node?_pane
  cases path' with
  | nil =>
      rw [hleaf] at hparent
      cases hparent
  | cons g path' =>
      obtain hindex : g.index = f.index := by
        rw [hleaf] at hparent
        exact Option.some.inj hparent
      obtain ⟨hself', -, -⟩ := hpath'.showsPath
      rw [hindex, hself] at hself'
      rcases OpenSplit.child_of_node_eq (Option.some.inj hself') with hi | hi
      · -- One index holds one pane, so the two panes would be the same.
        have hsame := hnode'.symm.trans ((congrArg a.node? hi).trans h.node?_pane)
        rw [Option.some.injEq, Node.pane.injEq] at hsame
        exact absurd (congrArg Pane.id hsame.1) hne
      · cases hchild : f.other with
        | pane i c =>
            rw [hchild] at hother hi
            have hnode : a.node? i = some (.pane c (some f.index)) := hother
            have hsame := hnode'.symm.trans ((congrArg a.node? hi).trans hnode)
            rw [Option.some.injEq, Node.pane.injEq] at hsame
            exact ⟨i, c.view, by rw [hsame.1]⟩
        | split i direction ratio first second =>
            rw [hchild] at hother hi
            have hsame := hnode'.symm.trans ((congrArg a.node? hi).trans hother.1)
            cases hsame

end Holds

end Arena

end SplitScreen
