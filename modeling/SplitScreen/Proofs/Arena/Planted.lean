import SplitScreen.Proofs.Arena.Holds

namespace SplitScreen

/-- The tree of a layout, with nodes and panes numbered from the given numbers on. -/
def IndexedTree.ofLayout (index : NodeIndex) (id : PaneId) : Layout Ratio → IndexedTree
  | .pane view _ => .pane index ⟨id, view⟩
  | .split direction ratio first second =>
    .split index direction ratio (ofLayout (index + 1) id first)
      (ofLayout (index + 1 + first.nodeCount) (id + first.paneCount) second)

namespace IndexedTree

theorem index_ofLayout (index : NodeIndex) (id : PaneId) (l : Layout Ratio) :
    (ofLayout index id l).index = index := by
  cases l <;> rfl

theorem indices_ofLayout (index : NodeIndex) (id : PaneId) (l : Layout Ratio) :
    (ofLayout index id l).indices = List.range' index l.nodeCount := by
  induction l generalizing index id with
  | pane view focused => rfl
  | split direction ratio first second ih₁ ih₂ =>
      simp only [ofLayout, indices, ih₁, ih₂, Layout.nodeCount, Nat.add_assoc 1]
      rw [Nat.add_comm 1, List.range'_succ, List.range'_append_1]

theorem ids_ofLayout (index : NodeIndex) (id : PaneId) (l : Layout Ratio) :
    (ofLayout index id l).entries.map (fun entry => entry.2.id) =
      (List.range l.paneCount).map fun k : Nat => id + (k : Int) := by
  induction l generalizing index id with
  | pane view focused => simp [ofLayout, entries, Layout.paneCount]
  | split direction ratio first second ih₁ ih₂ =>
      simp only [ofLayout, entries, List.map_append, ih₁, ih₂, Layout.paneCount, List.range_add,
        List.map_map]
      congr 1
      refine List.map_congr_left fun k _ => ?_
      simp [Int.add_assoc]

theorem nodup_indices_ofLayout (index : NodeIndex) (id : PaneId) (l : Layout Ratio) :
    (ofLayout index id l).indices.Nodup := by
  rw [indices_ofLayout]
  exact List.nodup_range'

theorem mem_indices_ofLayout {index : NodeIndex} {id : PaneId} {l : Layout Ratio}
    {i : NodeIndex} :
    i ∈ (ofLayout index id l).indices ↔ index ≤ i ∧ i < index + l.nodeCount := by
  rw [indices_ofLayout, List.mem_range'_1]

theorem mem_ids_ofLayout {index : NodeIndex} {id : PaneId} {l : Layout Ratio} {k : PaneId} :
    k ∈ (ofLayout index id l).entries.map (fun entry => entry.2.id) ↔
      id ≤ k ∧ k < id + l.paneCount := by
  rw [ids_ofLayout, List.mem_map]
  constructor
  · rintro ⟨n, hn, rfl⟩
    have := List.mem_range.mp hn
    grind
  · rintro ⟨hle, hlt⟩
    exact ⟨(k - id).toNat, List.mem_range.mpr (by grind), by grind⟩

theorem notMem_indices_ofLayout {index : NodeIndex} {id : PaneId} {l : Layout Ratio}
    {i : NodeIndex} (h : i < index ∨ index + l.nodeCount ≤ i) :
    i ∉ (ofLayout index id l).indices := by
  rw [mem_indices_ofLayout]
  grind

theorem notMem_ids_ofLayout {index : NodeIndex} {id : PaneId} {l : Layout Ratio} {k : PaneId}
    (h : k < id ∨ id + l.paneCount ≤ k) :
    k ∉ (ofLayout index id l).entries.map (fun entry => entry.2.id) := by
  rw [mem_ids_ofLayout]
  grind

theorem nodup_ids_ofLayout (index : NodeIndex) (id : PaneId) (l : Layout Ratio) :
    ((ofLayout index id l).entries.map fun entry => entry.2.id).Nodup := by
  rw [ids_ofLayout]
  refine List.Pairwise.map _ ?_ List.nodup_range
  intro k n hne
  grind

end IndexedTree

namespace Arena

/-- What planting a layout makes of an arena. -/
structure Planted (a b : Arena) (parent : Option NodeIndex) (l : Layout Ratio) : Prop where
  shows : b.Shows parent (.ofLayout a.nextNode a.nextPane l)
  node?_eq {i : NodeIndex} (hi : i ∉ (IndexedTree.ofLayout a.nextNode a.nextPane l).indices) :
    b.node? i = a.node? i
  leaf {entry : NodeIndex × Pane}
    (h : entry ∈ (IndexedTree.ofLayout a.nextNode a.nextPane l).entries) :
    b.leaves.find? entry.2.id = some entry.1
  find?_eq {id : PaneId}
    (h : id ∉ (IndexedTree.ofLayout a.nextNode a.nextPane l).entries.map fun entry => entry.2.id) :
    b.leaves.find? id = a.leaves.find? id
  root : b.root = a.root
  nextNode : b.nextNode = a.nextNode + l.nodeCount
  nextPane : b.nextPane = a.nextPane + l.paneCount
  nodup_nodes (h : a.nodes.keys.Nodup) : b.nodes.keys.Nodup
  nodup_leaves (h : a.leaves.keys.Nodup) : b.leaves.keys.Nodup

theorem planted_addPane (a : Arena) (parent : Option NodeIndex) (view : View)
    (focused : Bool) : a.Planted (a.addPane view parent) parent (.pane view focused) where
  shows := by simp [IndexedTree.ofLayout, Shows, node?_addPane]
  node?_eq hi := by
    rw [node?_addPane, if_neg]
    rintro rfl
    exact hi (by simp [IndexedTree.ofLayout, IndexedTree.indices])
  leaf h := by
    obtain rfl := List.mem_singleton.mp h
    exact Assoc.find?_insert_self ..
  find?_eq hid := by
    refine (Assoc.find?_insert ..).trans (if_neg ?_)
    rintro rfl
    exact hid (by simp [IndexedTree.ofLayout, IndexedTree.entries])
  root := rfl
  nextNode := rfl
  nextPane := rfl
  nodup_nodes h := Assoc.nodup_keys_insert _ _ h
  nodup_leaves h := Assoc.nodup_keys_insert _ _ h

theorem planted_split {a b c : Arena} {parent : Option NodeIndex} {direction : Direction}
    {ratio : Ratio} {first second : Layout Ratio}
    (h₁ : (a.addNode (.split direction ratio (a.nextNode + 1) (a.nextNode + 1 + first.nodeCount)
      parent)).Planted b (some a.nextNode) first)
    (h₂ : b.Planted c (some a.nextNode) second) :
    a.Planted c parent (.split direction ratio first second) := by
  let t := IndexedTree.ofLayout (a.nextNode + 1) a.nextPane first
  let u := IndexedTree.ofLayout (a.nextNode + 1 + first.nodeCount)
    (a.nextPane + first.paneCount) second
  have hsecond : IndexedTree.ofLayout b.nextNode b.nextPane second = u := by
    rw [h₁.nextNode, h₁.nextPane]
    rfl
  have hshows₂ : c.Shows (some a.nextNode) u := hsecond ▸ h₂.shows
  have hnode₁ : ∀ i, i ∉ t.indices → b.node? i = if a.nextNode = i then some (.split direction
      ratio (a.nextNode + 1) (a.nextNode + 1 + first.nodeCount) parent) else a.node? i :=
    fun i hi => (h₁.node?_eq hi).trans (node?_addNode ..)
  have hnode₂ : ∀ i, i ∉ u.indices → c.node? i = b.node? i := fun i hi =>
    h₂.node?_eq (hsecond.symm ▸ hi)
  have hid₂ : ∀ id, id ∉ u.entries.map (fun entry => entry.2.id) →
      c.leaves.find? id = b.leaves.find? id := fun id hid => h₂.find?_eq (hsecond.symm ▸ hid)
  have hself : a.nextNode ∉ t.indices ∧ a.nextNode ∉ u.indices := by
    constructor <;> exact IndexedTree.notMem_indices_ofLayout (Or.inl (by grind))
  have hindices : ∀ i ∈ t.indices, i ∉ u.indices := fun i hi =>
    IndexedTree.notMem_indices_ofLayout (Or.inl (IndexedTree.mem_indices_ofLayout.mp hi).2)
  have hids : ∀ entry ∈ t.entries, entry.2.id ∉ u.entries.map (fun entry => entry.2.id) :=
    fun entry hentry => IndexedTree.notMem_ids_ofLayout
      (Or.inl (IndexedTree.mem_ids_ofLayout.mp (List.mem_map.mpr ⟨entry, hentry, rfl⟩)).2)
  exact {
    shows := by
      refine ⟨?_, h₁.shows.congr fun i hi => hnode₂ i (hindices i hi), hshows₂⟩
      rw [hnode₂ _ hself.2, hnode₁ _ hself.1, if_pos rfl, IndexedTree.index_ofLayout,
        IndexedTree.index_ofLayout]
    node?_eq := by
      intro i hi
      have hne : a.nextNode ≠ i := fun heq => hi (List.mem_cons.mpr (Or.inl heq.symm))
      have ht : i ∉ t.indices := fun hmem =>
        hi (List.mem_cons_of_mem _ (List.mem_append_left _ hmem))
      have hu : i ∉ u.indices := fun hmem =>
        hi (List.mem_cons_of_mem _ (List.mem_append_right _ hmem))
      rw [hnode₂ i hu, hnode₁ i ht, if_neg hne]
    leaf := by
      intro entry hentry
      rcases List.mem_append.mp hentry with hmem | hmem
      · rw [hid₂ _ (hids entry hmem)]
        exact h₁.leaf hmem
      · exact h₂.leaf (hsecond.symm ▸ hmem)
    find?_eq := by
      intro id hid
      simp only [IndexedTree.ofLayout, IndexedTree.entries, List.map_append, List.mem_append,
        not_or] at hid
      rw [hid₂ id hid.2]
      exact h₁.find?_eq hid.1
    root := h₂.root.trans h₁.root
    nextNode := by
      rw [h₂.nextNode, h₁.nextNode]
      simp only [addNode, Layout.nodeCount]
      grind
    nextPane := by
      rw [h₂.nextPane, h₁.nextPane]
      simp only [addNode, Layout.paneCount]
      grind
    nodup_nodes := fun h => h₂.nodup_nodes (h₁.nodup_nodes (Assoc.nodup_keys_insert _ _ h))
    nodup_leaves := fun h => h₂.nodup_leaves (h₁.nodup_leaves h) }

theorem planted_plant (a : Arena) (parent : Option NodeIndex) (l : Layout Ratio) :
    a.Planted (a.plant parent l) parent l := by
  induction l generalizing a parent with
  | pane view focused => exact planted_addPane a parent view focused
  | split direction ratio first second ih₁ ih₂ =>
      let node := Node.split direction ratio (a.nextNode + 1) (a.nextNode + 1 + first.nodeCount)
        parent
      have h₁ := ih₁ (a.addNode node) (some a.nextNode)
      have h₂ := ih₂ ((a.addNode node).plant (some a.nextNode) first) (some a.nextNode)
      exact planted_split h₁ h₂

/-- The arena of a layout holds the tree of the layout, numbered from zero. -/
theorem holds_ofLayout (l : Layout Ratio) :
    (ofLayout l).Holds [] (.ofLayout 0 0 l) := by
  have h : empty.Planted (ofLayout l) none l := planted_plant empty none l
  have hshown : ∀ i, ((ofLayout l).node? i).isSome → i ∈ (IndexedTree.ofLayout 0 0 l).indices := by
    intro i hi
    refine Decidable.byContradiction fun hnot => ?_
    rw [h.node?_eq hnot] at hi
    cases hi
  have hindexed : ∀ id, ((ofLayout l).leaves.find? id).isSome →
      ∃ entry ∈ (IndexedTree.ofLayout 0 0 l).entries, entry.2.id = id := by
    intro id hid
    refine List.mem_map.mp (Decidable.byContradiction fun hnot => ?_)
    rw [h.find?_eq hnot] at hid
    cases hid
  exact {
    showsPath := h.root.trans (IndexedTree.index_ofLayout 0 0 l).symm
    shows := h.shows
    mem_indices := fun hi => List.mem_append_left _ (hshown _ (Option.isSome_of_eq_some hi))
    leaf_iff := by
      intro id i
      simp only [TreePath.entries, List.append_nil]
      constructor
      · intro hi
        obtain ⟨⟨j, content⟩, hmem, rfl⟩ := hindexed id (Option.isSome_of_eq_some hi)
        have hj := h.leaf hmem
        obtain rfl : i = j := Option.some.inj (hi.symm.trans hj)
        exact ⟨content, hmem, rfl⟩
      · rintro ⟨content, hmem, rfl⟩
        exact h.leaf hmem
    nodup_indices := by
      simpa [TreePath.indices] using IndexedTree.nodup_indices_ofLayout 0 0 l
    nodup_ids := by
      simpa [TreePath.entries] using IndexedTree.nodup_ids_ofLayout 0 0 l
    index_lt := by
      intro i hi
      rw [TreePath.indices, List.append_nil, IndexedTree.mem_indices_ofLayout] at hi
      rw [h.nextNode]
      exact hi.2
    id_lt := by
      intro entry hentry
      rw [TreePath.entries, List.append_nil] at hentry
      rw [h.nextPane]
      exact (IndexedTree.mem_ids_ofLayout.mp (List.mem_map.mpr ⟨entry, hentry, rfl⟩)).2
    nodup_nodes := h.nodup_nodes List.nodup_nil
    nodup_leaves := h.nodup_leaves List.nodup_nil }

end Arena

end SplitScreen
