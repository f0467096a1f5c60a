import SplitScreen.Proofs.Arena.Holds

namespace SplitScreen

namespace Arena

/-- The tree below a node, if every link on the way leads somewhere. -/
def treeFrom (a : Arena) : Nat → NodeIndex → Option (Tree Pane)
  | 0, _ => none
  | depth + 1, index =>
    match a.node? index with
    | some (.pane content _) => some (.leaf content)
    | some (.split direction ratio first second _) => do
      return .split direction ratio (← a.treeFrom depth first) (← a.treeFrom depth second)
    | none => none

def tree? (a : Arena) : Option (Tree Pane) := a.treeFrom a.size a.root

variable {a : Arena} {path : TreePath} {t : IndexedTree}

theorem Shows.isSome_node? {parent : Option NodeIndex} (h : a.Shows parent t) {i : NodeIndex}
    (hi : i ∈ t.indices) : (a.node? i).isSome := by
  induction t generalizing parent with
  | pane index content =>
      obtain rfl : i = index := by simpa [IndexedTree.indices] using hi
      exact Option.isSome_of_eq_some h
  | split index direction ratio first second ih₁ ih₂ =>
      obtain ⟨hself, hfirst, hsecond⟩ := h
      rcases List.mem_cons.mp hi with rfl | hi
      · exact Option.isSome_of_eq_some hself
      · rcases List.mem_append.mp hi with hi | hi
        · exact ih₁ hfirst hi
        · exact ih₂ hsecond hi

theorem Shows.treeFrom_eq {parent : Option NodeIndex} (h : a.Shows parent t) {depth : Nat}
    (hdepth : t.indices.length ≤ depth) : a.treeFrom depth t.index = some t.tree := by
  induction t generalizing parent depth with
  | pane index content =>
      cases depth with
      | zero => simp [IndexedTree.indices] at hdepth
      | succ depth =>
          have hself : a.node? index = some (.pane content parent) := h
          simp [treeFrom, IndexedTree.tree, hself]
  | split index direction ratio first second ih₁ ih₂ =>
      obtain ⟨hself, hfirst, hsecond⟩ := h
      cases depth with
      | zero => simp [IndexedTree.indices] at hdepth
      | succ depth =>
          simp only [IndexedTree.indices, List.length_cons, List.length_append] at hdepth
          simp [treeFrom, IndexedTree.tree, hself,
            ih₁ hfirst (by omega : first.indices.length ≤ depth),
            ih₂ hsecond (by omega : second.indices.length ≤ depth)]

theorem Shows.placeFrom_eq {parent : Option NodeIndex} (h : a.Shows parent t) {depth : Nat}
    (hdepth : t.indices.length ≤ depth) (area : Rect) :
    a.placeFrom depth t.index area =
      (t.tree.place area).map fun placed => (placed.1.id, placed.2) := by
  induction t generalizing parent depth area with
  | pane index content =>
      cases depth with
      | zero => simp [IndexedTree.indices] at hdepth
      | succ depth =>
          have hself : a.node? index = some (.pane content parent) := h
          simp [placeFrom, IndexedTree.tree, Tree.place, hself]
  | split index direction ratio first second ih₁ ih₂ =>
      obtain ⟨hself, hfirst, hsecond⟩ := h
      cases depth with
      | zero => simp [IndexedTree.indices] at hdepth
      | succ depth =>
          simp only [IndexedTree.indices, List.length_cons, List.length_append] at hdepth
          simp [placeFrom, IndexedTree.tree, Tree.place, hself,
            ih₁ hfirst (by omega : first.indices.length ≤ depth),
            ih₂ hsecond (by omega : second.indices.length ≤ depth)]

def stackSize : List IndexedTree → Nat
  | [] => 0
  | t :: stack => t.indices.length + stackSize stack

/-- A stack of subtrees is worked off from its top, one node a step. -/
theorem panesOfStack_eq {stack : List IndexedTree}
    (h : ∀ t ∈ stack, ∃ parent, a.Shows parent t) {steps : Nat} (hsteps : stackSize stack ≤ steps) :
    a.panesOfStack steps (stack.map IndexedTree.index) =
      stack.flatMap fun t => t.tree.leaves := by
  induction steps generalizing stack with
  | zero =>
      cases stack with
      | nil => rfl
      | cons t stack => cases t <;> simp [stackSize, IndexedTree.indices] at hsteps
  | succ steps ih =>
      cases stack with
      | nil => rfl
      | cons t stack =>
          obtain ⟨parent, ht⟩ := h t List.mem_cons_self
          have hstack : ∀ u ∈ stack, ∃ parent, a.Shows parent u := fun u hu =>
            h u (List.mem_cons_of_mem _ hu)
          cases t with
          | pane index content =>
              have hself : a.node? index = some (.pane content parent) := ht
              have hsize : stackSize stack ≤ steps := by
                simpa [stackSize, IndexedTree.indices, Nat.add_comm 1] using hsteps
              simp [panesOfStack, hself, ih hstack hsize, IndexedTree.tree,
                Tree.leaves]
          | split index direction ratio first second =>
              obtain ⟨hself, hfirst, hsecond⟩ := ht
              have hpushed : ∀ u ∈ first :: second :: stack, ∃ parent, a.Shows parent u := by
                intro u hu
                rcases List.mem_cons.mp hu with rfl | hu
                · exact ⟨_, hfirst⟩
                · rcases List.mem_cons.mp hu with rfl | hu
                  · exact ⟨_, hsecond⟩
                  · exact hstack u hu
              have hsize : stackSize (first :: second :: stack) ≤ steps := by
                simp only [stackSize, IndexedTree.indices, List.length_cons,
                  List.length_append] at hsteps ⊢
                omega
              have hrest := ih hpushed hsize
              simp only [List.map_cons] at hrest
              simp [panesOfStack, hself, hrest, IndexedTree.tree, Tree.leaves]

namespace Holds

theorem isSome_node?_iff (h : a.Holds [] t) {i : NodeIndex} :
    (a.node? i).isSome ↔ i ∈ t.indices := by
  constructor
  · intro hi
    obtain ⟨node, hnode⟩ := Option.isSome_iff_exists.mp hi
    simpa [TreePath.indices] using h.mem_indices hnode
  · exact h.shows.isSome_node?

theorem keys_nodes_perm (h : a.Holds [] t) : a.nodes.keys.Perm t.indices := by
  refine (List.perm_ext_iff_of_nodup h.nodup_nodes ?_).mpr fun i => ?_
  · simpa [TreePath.indices] using h.nodup_indices
  · rw [Assoc.mem_keys_iff_find?]
    exact h.isSome_node?_iff

theorem keys_leaves_perm (h : a.Holds [] t) :
    a.leaves.keys.Perm (t.entries.map fun entry => entry.2.id) := by
  refine (List.perm_ext_iff_of_nodup h.nodup_leaves ?_).mpr fun id => ?_
  · simpa [TreePath.entries] using h.nodup_ids
  · rw [Assoc.mem_keys_iff_find?, Option.isSome_iff_exists, List.mem_map]
    simp [h.leaf_iff, TreePath.entries]

theorem size_eq (h : a.Holds [] t) : a.size = t.indices.length := by
  simpa [size, Assoc.keys] using h.keys_nodes_perm.length_eq

theorem tree?_eq (h : a.Holds [] t) : a.tree? = some t.tree := by
  have hroot : a.root = t.index := h.showsPath
  rw [tree?, hroot, h.size_eq]
  exact h.shows.treeFrom_eq (Nat.le_refl _)

theorem place_eq (h : a.Holds [] t) (area : Rect) :
    a.place area = (t.tree.place area).map fun placed => (placed.1.id, placed.2) := by
  have hroot : a.root = t.index := h.showsPath
  rw [place, hroot, h.size_eq]
  exact h.shows.placeFrom_eq (Nat.le_refl _) area

theorem panesFrom_eq (h : a.Holds path t) : a.panesFrom t.index = t.tree.leaves := by
  have hsize : t.indices.length ≤ a.size := by
    rw [(holds_plug_iff.mp h).size_eq, (path.indices_plug t).length_eq, List.length_append]
    exact Nat.le_add_right _ _
  have hstack : stackSize [t] ≤ a.size := by simpa [stackSize] using hsize
  simpa [panesFrom] using
    panesOfStack_eq (fun u hu => ⟨_, List.mem_singleton.mp hu ▸ h.shows⟩) hstack

theorem panes_eq (h : a.Holds [] t) : a.panes = t.tree.leaves := by
  have hroot : a.root = t.index := h.showsPath
  rw [panes, hroot]
  exact h.panesFrom_eq

theorem keys_place (h : a.Holds [] t) (area : Rect) :
    Assoc.keys (a.place area) = t.tree.leaves.map Pane.id := by
  rw [h.place_eq, Assoc.keys, List.map_map, ← t.tree.map_fst_place area, List.map_map]
  rfl

theorem nodup_leaves_id (h : a.Holds [] t) : (t.tree.leaves.map Pane.id).Nodup := by
  have hids := h.nodup_ids
  rw [TreePath.entries, List.append_nil] at hids
  rw [← t.map_snd_entries, List.map_map]
  exact hids

theorem nextPane_notMem (h : a.Holds [] t) : a.nextPane ∉ t.tree.leaves.map Pane.id := by
  rw [← t.map_snd_entries, List.map_map]
  intro hmem
  obtain ⟨entry, hentry, hid⟩ := List.mem_map.mp hmem
  exact Int.ne_of_lt (h.id_lt (List.mem_append_left _ hentry)) hid

end Holds

theorem Shows.node?_eq {b : Arena} {parent : Option NodeIndex} (h : a.Shows parent t)
    (h' : b.Shows parent t) {i : NodeIndex} (hi : i ∈ t.indices) : a.node? i = b.node? i := by
  induction t generalizing parent with
  | pane index content =>
      obtain rfl := List.mem_singleton.mp hi
      exact Eq.trans h h'.symm
  | split index direction ratio first second ih₁ ih₂ =>
      obtain ⟨hself, hfirst, hsecond⟩ := h
      obtain ⟨hself', hfirst', hsecond'⟩ := h'
      rcases List.mem_cons.mp hi with rfl | hi
      · rw [hself, hself']
      · rcases List.mem_append.mp hi with hi | hi
        · exact ih₁ hfirst hfirst' hi
        · exact ih₂ hsecond hsecond' hi

namespace Holds

variable {b : Arena}

theorem node?_eq (h : a.Holds [] t) (h' : b.Holds [] t) (i : NodeIndex) :
    a.node? i = b.node? i := by
  by_cases hi : i ∈ t.indices
  · exact h.shows.node?_eq h'.shows hi
  · rw [Option.not_isSome_iff_eq_none.mp (mt h.isSome_node?_iff.mp hi),
      Option.not_isSome_iff_eq_none.mp (mt h'.isSome_node?_iff.mp hi)]

theorem find?_leaves_eq (h : a.Holds [] t) (h' : b.Holds [] t) (id : PaneId) :
    a.leaves.find? id = b.leaves.find? id := by
  refine Option.ext fun i => ?_
  rw [h.leaf_iff, h'.leaf_iff]

/-- An arena is the tree that it holds, the order in which its maps were set, and its counters. -/
theorem ext (h : a.Holds [] t) (h' : b.Holds [] t) (hnodes : a.nodes.keys = b.nodes.keys)
    (hleaves : a.leaves.keys = b.leaves.keys) :
    a = { b with nextNode := a.nextNode, nextPane := a.nextPane } := by
  have hroot : a.root = b.root := Eq.trans h.showsPath h'.showsPath.symm
  have hnodes' := Assoc.eq_of_find? hnodes h.nodup_nodes (h.node?_eq h')
  have hleaves' := Assoc.eq_of_find? hleaves h.nodup_leaves (h.find?_leaves_eq h')
  rw [← hnodes', ← hleaves', ← hroot]

end Holds

end Arena

end SplitScreen
