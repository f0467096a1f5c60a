import SplitScreen.Proofs.Arena.WellFormed

/-!
A well-formed arena holds a tree. The conditions on its nodes give every node one level below the
root, since parents are unique and the root has none. Levels are bounded, so the tree can be built
from the root downwards, and nothing is met twice on the way. Main statement: `wellFormed_iff`.
-/

namespace SplitScreen

namespace Arena

/-- A node is reached from another by so many child links. -/
inductive Level (a : Arena) (top : NodeIndex) : Nat → NodeIndex → Prop
  | zero : Level a top 0 top
  | succ {depth : Nat} {parent child : NodeIndex} (h : a.Level top depth parent)
    (hchild : a.IsChild child parent) : Level a top (depth + 1) child

variable {a : Arena} {t : IndexedTree} {top i k : NodeIndex} {depth depth' : Nat}

theorem below_of_level (h : a.Level top depth i) : a.Below top i := by
  induction h with
  | zero => exact .refl
  | succ _ hchild ih => exact ih.child hchild

theorem Level.trans (h : a.Level top depth i) (h' : a.Level i depth' k) :
    a.Level top (depth + depth') k := by
  induction h' with
  | zero => exact h
  | succ _ hchild ih => exact ih.succ hchild

namespace WellFormed

theorem exists_node_of_isChild (h : a.WellFormed) (hi : a.IsChild i k) :
    ∃ node, a.node? i = some node ∧ node.parent = some k := by
  have hroot : i ≠ a.root := by
    rintro rfl
    exact h.not_isChild_root k hi
  have hsome : (a.node? i).isSome := by
    obtain ⟨node, hnode, hmem⟩ := hi
    cases node with
    | pane content parent => simp [Node.children] at hmem
    | split direction ratio first second parent =>
        obtain ⟨-, hfirst, hsecond⟩ := h.children hnode
        have hside : i = first ∨ i = second := by simpa [Node.children] using hmem
        rcases hside with rfl | rfl
        · exact hfirst
        · exact hsecond
  obtain ⟨node, hnode⟩ := Option.isSome_iff_exists.mp hsome
  obtain ⟨parent, hparent, hiff⟩ := h.isChild_iff hnode hroot
  obtain rfl := (hiff k).mp hi
  exact ⟨node, hnode, hparent⟩

theorem parent_unique (h : a.WellFormed) {k' : NodeIndex} (hi : a.IsChild i k)
    (hi' : a.IsChild i k') : k = k' := by
  obtain ⟨node, hnode, hparent⟩ := h.exists_node_of_isChild hi
  obtain ⟨node', hnode', hparent'⟩ := h.exists_node_of_isChild hi'
  obtain rfl : node = node' := Option.some.inj (hnode.symm.trans hnode')
  exact Option.some.inj (hparent.symm.trans hparent')

theorem isSome_of_level (h : a.WellFormed) (hi : a.Level a.root depth i) :
    (a.node? i).isSome := by
  cases hi with
  | zero =>
      obtain ⟨node, hnode, -⟩ := h.root
      exact Option.isSome_of_eq_some hnode
  | succ _ hchild =>
      obtain ⟨node, hnode, -⟩ := h.exists_node_of_isChild hchild
      exact Option.isSome_of_eq_some hnode

theorem level_unique (h : a.WellFormed) (hi : a.Level a.root depth i)
    (hi' : a.Level a.root depth' i) : depth = depth' := by
  induction hi generalizing depth' with
  | zero =>
      cases hi' with
      | zero => rfl
      | succ _ hchild => exact absurd hchild (h.not_isChild_root _)
  | succ _ hchild ih =>
      cases hi' with
      | zero => exact absurd hchild (h.not_isChild_root _)
      | succ hparent hchild' =>
          obtain rfl := h.parent_unique hchild hchild'
          rw [ih hparent]

/-- So many links above a node there is one node. -/
theorem top_unique (h : a.WellFormed) {top' : NodeIndex} (hi : a.Level top depth i)
    (hi' : a.Level top' depth i) : top = top' := by
  induction hi with
  | zero =>
      cases hi' with
      | zero => rfl
  | succ _ hchild ih =>
      cases hi' with
      | succ hparent hchild' =>
          obtain rfl := h.parent_unique hchild hchild'
          exact ih hparent

theorem exists_bound (h : a.WellFormed) :
    ∃ bound, ∀ {i depth}, a.Level a.root depth i → depth < bound := by
  have hkeys : ∀ keys : List NodeIndex,
      ∃ bound, ∀ i ∈ keys, ∀ depth, a.Level a.root depth i → depth < bound := by
    intro keys
    induction keys with
    | nil => exact ⟨0, nofun⟩
    | cons k keys ih =>
        obtain ⟨bound, hbound⟩ := ih
        by_cases hk : ∃ depth, a.Level a.root depth k
        · obtain ⟨depth, hdepth⟩ := hk
          refine ⟨max bound (depth + 1), fun i hi depth' hdepth' => ?_⟩
          rcases List.mem_cons.mp hi with rfl | hi
          · have hsame := h.level_unique hdepth' hdepth
            omega
          · have hlt := hbound i hi depth' hdepth'
            omega
        · refine ⟨bound, fun i hi depth' hdepth' => ?_⟩
          rcases List.mem_cons.mp hi with rfl | hi
          · exact absurd ⟨depth', hdepth'⟩ hk
          · exact hbound i hi depth' hdepth'
  obtain ⟨bound, hbound⟩ := hkeys a.nodes.keys
  refine ⟨bound, fun {i depth} hi => hbound i ?_ depth hi⟩
  rw [Assoc.mem_keys_iff_find?]
  exact h.isSome_of_level hi

/-- From every node downwards there is a tree, built level by level. -/
theorem exists_shows (h : a.WellFormed) {bound : Nat}
    (hbound : ∀ {i depth}, a.Level a.root depth i → depth < bound) (left : Nat) {node : Node}
    (hi : a.Level a.root depth i) (hnode : a.node? i = some node) (hleft : bound ≤ depth + left) :
    ∃ t : IndexedTree, t.index = i ∧ a.Shows node.parent t := by
  induction left generalizing i depth node with
  | zero =>
      have hlt := hbound hi
      omega
  | succ left ih =>
      cases node with
      | pane content parent => exact ⟨.pane i content, rfl, hnode⟩
      | split direction ratio first second parent =>
          have hbelow {child : NodeIndex} (hchild : a.IsChild child i) :
              ∃ t : IndexedTree, t.index = child ∧ a.Shows (some i) t := by
            obtain ⟨node, hnode, hparent⟩ := h.exists_node_of_isChild hchild
            rw [← hparent]
            exact ih (hi.succ hchild) hnode (by omega)
          have hfirst : a.IsChild first i := ⟨_, hnode, by simp [Node.children]⟩
          have hsecond : a.IsChild second i := ⟨_, hnode, by simp [Node.children]⟩
          obtain ⟨t₁, rfl, ht₁⟩ := hbelow hfirst
          obtain ⟨t₂, rfl, ht₂⟩ := hbelow hsecond
          exact ⟨.split i direction ratio t₁ t₂, rfl, hnode, ht₁, ht₂⟩

end WellFormed

theorem Shows.mem_of_isChild {parent : Option NodeIndex} (h : a.Shows parent t)
    (hi : i ∈ t.indices) (hk : a.IsChild k i) : k ∈ t.indices := by
  obtain ⟨node, hnode, hmem⟩ := hk
  induction t generalizing parent with
  | pane index content =>
      obtain rfl : i = index := by simpa [IndexedTree.indices] using hi
      obtain rfl : node = .pane content parent := Option.some.inj (hnode.symm.trans h)
      simp [Node.children] at hmem
  | split index direction ratio first second ih₁ ih₂ =>
      obtain ⟨hself, hfirst, hsecond⟩ := h
      rw [IndexedTree.indices, List.mem_cons, List.mem_append] at hi ⊢
      rcases hi with rfl | hi | hi
      · obtain rfl := Option.some.inj (hnode.symm.trans hself)
        have hside : k = first.index ∨ k = second.index := by simpa [Node.children] using hmem
        rcases hside with rfl | rfl
        · exact Or.inr (Or.inl first.index_mem_indices)
        · exact Or.inr (Or.inr second.index_mem_indices)
      · exact Or.inr (Or.inl (ih₁ hfirst hi))
      · exact Or.inr (Or.inr (ih₂ hsecond hi))

theorem Shows.isChild_first {parent : Option NodeIndex} {index : NodeIndex} {direction : Direction}
    {ratio : Ratio} {first second : IndexedTree}
    (h : a.Shows parent (.split index direction ratio first second)) :
    a.IsChild first.index index :=
  ⟨_, h.1, by simp [Node.children]⟩

theorem Shows.isChild_second {parent : Option NodeIndex} {index : NodeIndex}
    {direction : Direction} {ratio : Ratio} {first second : IndexedTree}
    (h : a.Shows parent (.split index direction ratio first second)) :
    a.IsChild second.index index :=
  ⟨_, h.1, by simp [Node.children]⟩

theorem Shows.exists_level {parent : Option NodeIndex} (h : a.Shows parent t)
    (hi : i ∈ t.indices) : ∃ depth, a.Level t.index depth i := by
  induction t generalizing parent with
  | pane index content =>
      obtain rfl : i = index := by simpa [IndexedTree.indices] using hi
      exact ⟨0, .zero⟩
  | split index direction ratio first second ih₁ ih₂ =>
      rw [IndexedTree.indices, List.mem_cons, List.mem_append] at hi
      rcases hi with rfl | hi | hi
      · exact ⟨0, .zero⟩
      · obtain ⟨depth, hdepth⟩ := ih₁ h.2.1 hi
        exact ⟨1 + depth, (Level.zero.succ h.isChild_first).trans hdepth⟩
      · obtain ⟨depth, hdepth⟩ := ih₂ h.2.2 hi
        exact ⟨1 + depth, (Level.zero.succ h.isChild_second).trans hdepth⟩

/-- The nodes of a tree are those that child links lead to from its top. -/
theorem Shows.mem_indices_iff {parent : Option NodeIndex} (h : a.Shows parent t) :
    i ∈ t.indices ↔ a.Below t.index i := by
  constructor
  · intro hi
    obtain ⟨depth, hdepth⟩ := h.exists_level hi
    exact below_of_level hdepth
  · intro hi
    induction hi with
    | refl => exact t.index_mem_indices
    | child _ hchild ih => exact h.mem_of_isChild ih hchild

/-- Nothing is met twice: a split is above the nodes of its parts, and a node of both parts would be
as far below one as below the other. -/
theorem WellFormed.nodup_indices (h : a.WellFormed) {parent : Option NodeIndex}
    (ht : a.Shows parent t) (hlevel : a.Level a.root depth t.index) : t.indices.Nodup := by
  induction t generalizing parent depth with
  | pane index content => simp [IndexedTree.indices]
  | split index direction ratio first second ih₁ ih₂ =>
      have hfirst : a.Level a.root (depth + 1) first.index := hlevel.succ ht.isChild_first
      have hsecond : a.Level a.root (depth + 1) second.index := hlevel.succ ht.isChild_second
      rw [IndexedTree.indices, List.nodup_cons, List.nodup_append, List.mem_append]
      refine ⟨?_, ih₁ ht.2.1 hfirst, ih₂ ht.2.2 hsecond, ?_⟩
      · rintro (hi | hi)
        · obtain ⟨m, hm⟩ := ht.2.1.exists_level hi
          have hsame := h.level_unique hlevel (hfirst.trans hm)
          omega
        · obtain ⟨m, hm⟩ := ht.2.2.exists_level hi
          have hsame := h.level_unique hlevel (hsecond.trans hm)
          omega
      · rintro i hi j hj rfl
        obtain ⟨m, hm⟩ := ht.2.1.exists_level hi
        obtain ⟨n, hn⟩ := ht.2.2.exists_level hj
        obtain rfl : m = n := by
          have hsame := h.level_unique (hfirst.trans hm) (hsecond.trans hn)
          omega
        exact (h.children ht.1).1 (h.top_unique hm hn)

theorem map_fst_entries_sublist (t : IndexedTree) :
    (t.entries.map Prod.fst).Sublist t.indices := by
  induction t with
  | pane index content => exact List.Sublist.refl _
  | split index direction ratio first second ih₁ ih₂ =>
      rw [IndexedTree.entries, List.map_append]
      exact (ih₁.append ih₂).cons index

theorem wellFormed_iff : a.WellFormed ↔ ∃ t, a.Holds [] t := by
  constructor
  · intro h
    obtain ⟨root, hroot, hparent⟩ := h.root
    obtain ⟨bound, hbound⟩ := h.exists_bound
    obtain ⟨t, htop, ht⟩ := h.exists_shows hbound bound .zero hroot (Nat.le_add_left _ _)
    rw [hparent] at ht
    have hindices {i : NodeIndex} (hi : (a.node? i).isSome) : i ∈ t.indices :=
      ht.mem_indices_iff.mpr (htop ▸ h.below hi)
    have hentries {i : NodeIndex} {content : Pane} :
        (i, content) ∈ t.entries ↔ ∃ k, a.node? i = some (.pane content k) := by
      rw [ht.mem_entries_iff, and_iff_right_iff_imp]
      rintro ⟨k, hk⟩
      exact hindices (Option.isSome_of_eq_some hk)
    have hleaf {id : PaneId} {i : NodeIndex} :
        a.leaves.find? id = some i ↔ ∃ content, (i, content) ∈ t.entries ∧ content.id = id := by
      rw [h.leaf_iff]
      constructor
      · rintro ⟨view, k, hk⟩
        exact ⟨⟨id, view⟩, hentries.mpr ⟨k, hk⟩, rfl⟩
      · rintro ⟨content, hmem, rfl⟩
        obtain ⟨k, hk⟩ := hentries.mp hmem
        exact ⟨content.view, k, hk⟩
    have hnodup : t.indices.Nodup := by
      apply h.nodup_indices ht
      rw [htop]
      exact Level.zero
    refine ⟨t, htop.symm, ht, ?_, ?_, ?_, ?_, ?_, ?_, h.nodup_nodes, h.nodup_leaves⟩
    · intro i node hi
      exact List.mem_append_left _ (hindices (Option.isSome_of_eq_some hi))
    · intro id i
      rw [TreePath.entries, List.append_nil]
      exact hleaf
    · rw [TreePath.indices, List.append_nil]
      exact hnodup
    · -- The leaf map has one index for an id, and an index stands once in the tree.
      rw [TreePath.entries, List.append_nil, List.Nodup, List.pairwise_map]
      have hfst := (map_fst_entries_sublist t).nodup hnodup
      rw [List.Nodup, List.pairwise_map] at hfst
      refine hfst.imp_of_mem fun {x y} hx hy hne hid => hne ?_
      have hxi := hleaf.mpr ⟨x.2, hx, rfl⟩
      have hyi := hleaf.mpr ⟨y.2, hy, rfl⟩
      rw [hid, hyi] at hxi
      exact (Option.some.inj hxi).symm
    · intro i hi
      rw [TreePath.indices, List.append_nil] at hi
      exact h.index_lt (ht.isSome_node? hi)
    · rintro ⟨i, content⟩ hmem
      rw [TreePath.entries, List.append_nil] at hmem
      exact h.id_lt (Option.isSome_of_eq_some (hleaf.mpr ⟨content, hmem, rfl⟩))
  · rintro ⟨t, ht⟩
    exact ht.wellFormed

end Arena

end SplitScreen
