import SplitScreen.Proofs.Profile.Refinement

namespace SplitScreen

namespace OpenSplit

/-- The same split with the other child taken out. -/
def flip (f : OpenSplit) (t : IndexedTree) : OpenSplit :=
  { f with lacksFirst := !f.lacksFirst, other := t }

theorem fill_flip (f : OpenSplit) (t : IndexedTree) : (f.flip t).fill f.other = f.fill t := by
  unfold flip fill
  cases f.lacksFirst <;> rfl

end OpenSplit

/-- A tree that is a single pane. -/
def IndexedTree.pane? : IndexedTree → Option Pane
  | pane _ content => some content
  | split .. => none

/-- The pane that shares a split with what stands at the end of a path. -/
def TreePath.beside : TreePath → Option Pane
  | [] => none
  | f :: _ => f.other.pane?

theorem TreePath.beside_eq_some_iff {path : TreePath} {content : Pane} :
    path.beside = some content ↔
      ∃ f outer i, path = f :: outer ∧ f.other = .pane i content := by
  cases path with
  | nil => simp [beside]
  | cons f outer => cases hother : f.other <;> simp [beside, IndexedTree.pane?, hother]

namespace Arena

variable {a : Arena} {path : TreePath} {f : OpenSplit} {index : NodeIndex} {content : Pane}

/-- The other child of a split as a leaf of its own. -/
theorem Holds.flip {t : IndexedTree} (h : a.Holds (f :: path) t) :
    a.Holds (f.flip t :: path) f.other :=
  holds_cons_iff.mpr (f.fill_flip t ▸ holds_cons_iff.mp h)

theorem Holds.flip_pane {t : IndexedTree} (h : a.Holds (f :: path) t) {i : NodeIndex} {other : Pane}
    (hother : f.other = .pane i other) : a.Holds (f.flip t :: path) (.pane i other) :=
  hother ▸ h.flip

theorem Holds.siblingPane?_eq (h : a.Holds path (.pane index content)) :
    a.siblingPane? ⟨index, content, path.parent⟩ = path.beside.map Pane.id := by
  cases path with
  | nil => simp [siblingPane?, siblingIndex?, TreePath.parent, TreePath.beside]
  | cons f path =>
      obtain ⟨-, hother, -⟩ := h.showsPath
      have hindex := h.siblingIndex?_eq
      cases hchild : f.other with
      | pane i c =>
          rw [hchild] at hother hindex
          have hnode : a.node? i = some (.pane c (some f.index)) := hother
          simp [siblingPane?, TreePath.parent, TreePath.beside, IndexedTree.pane?, hchild, hindex,
            hnode]
      | split i direction ratio first second =>
          rw [hchild] at hother hindex
          simp [siblingPane?, TreePath.parent, TreePath.beside, IndexedTree.pane?, hchild, hindex,
            hother.1]

/-- The pane beside a leaf is found with the same parent, and has an id of its own. -/
theorem Holds.leaf?_beside (h : a.Holds path (.pane index content)) {other : Pane}
    (hbeside : path.beside = some other) :
    ∃ i, a.leaf? other.id = some ⟨i, other, path.parent⟩ ∧ other.id ≠ content.id := by
  obtain ⟨f, outer, i, rfl, hother⟩ := TreePath.beside_eq_some_iff.mp hbeside
  refine ⟨i, (h.flip_pane hother).leaf?_eq, fun hid => ?_⟩
  have hnodup := h.nodup_ids
  simp [IndexedTree.entries, TreePath.entries, hother, hid] at hnodup

/-- Two panes are told to be siblings by their parents just when one stands beside the other. -/
theorem Holds.siblings_iff (h : a.Holds path (.pane index content)) {id : PaneId} {kept : Leaf}
    (hkept : a.leaf? id = some kept) :
    ¬ (id = content.id ∨ kept.parent = none ∨ kept.parent ≠ path.parent) ↔
      path.beside.map Pane.id = some id := by
  constructor
  · intro hsiblings
    obtain ⟨hne, hroot, hparent⟩ : id ≠ content.id ∧ kept.parent ≠ none ∧
        kept.parent = path.parent := by
      simpa [not_or] using hsiblings
    cases path with
    | nil => exact absurd hparent hroot
    | cons f path =>
        obtain ⟨i, view, hother⟩ := h.other_eq_of_parent_eq hkept hparent hne
        simp [TreePath.beside, IndexedTree.pane?, hother]
  · intro hbeside
    obtain ⟨other, hother, rfl⟩ := Option.map_eq_some_iff.mp hbeside
    obtain ⟨i, hleaf, hne⟩ := h.leaf?_beside hother
    obtain rfl := Option.some.inj (hleaf.symm.trans hkept)
    obtain ⟨f, outer, -, rfl, -⟩ := TreePath.beside_eq_some_iff.mp hother
    simp [hne, TreePath.parent]

end Arena

namespace Profile

variable {p : Profile} {path : TreePath} {f : OpenSplit} {index : NodeIndex} {content : Pane}
  {t : IndexedTree}

theorem exists_path_of_mem_paneIds (ht : p.arena.Holds [] t) {id : PaneId}
    (hid : id ∈ p.paneIds) :
    ∃ (path : TreePath) (index : NodeIndex) (view : View),
      p.arena.Holds path (.pane index ⟨id, view⟩) := by
  rw [paneIds_eq ht] at hid
  obtain ⟨content, hmem, rfl⟩ := List.mem_map.mp hid
  obtain ⟨path, index, -, hpath⟩ := ht.exists_path_of_mem hmem
  exact ⟨path, index, content.view, hpath⟩

theorem leaf?_eq_none_iff (ht : p.arena.Holds [] t) {id : PaneId} :
    p.arena.leaf? id = none ↔ id ∉ p.paneIds := by
  constructor
  · intro hnone hmem
    obtain ⟨path, index, view, hpath⟩ := exists_path_of_mem_paneIds ht hmem
    exact absurd (hnone.symm.trans hpath.leaf?_eq) nofun
  · intro hid
    cases hl : p.arena.leaf? id with
    | none => rfl
    | some l =>
        obtain ⟨path, -, rfl, -, hpath⟩ := ht.exists_eq hl
        exact absurd (List.mem_map_of_mem (mem_panes hpath)) hid

theorem siblingOf_eq (h : p.arena.Holds path (.pane index content)) :
    p.siblingOf content.id = .ok (path.beside.map Pane.id) := by
  simp only [siblingOf, Arena.leaf, h.leaf?_eq, ← h.siblingPane?_eq]
  rfl

theorem exists_path_of_siblingOf (ht : p.arena.Holds [] t) {a b : PaneId}
    (h : p.siblingOf a = .ok (some b)) :
    ∃ (f : OpenSplit) (path : TreePath) (index i : NodeIndex) (view view' : View),
      p.arena.Holds (f :: path) (.pane index ⟨a, view⟩) ∧ f.other = .pane i ⟨b, view'⟩ := by
  have ha : a ∈ p.paneIds := by
    refine Decidable.byContradiction fun ha => ?_
    rw [siblingOf, Arena.leaf, (leaf?_eq_none_iff ht).mpr ha] at h
    cases h
  obtain ⟨path, index, view, hpath⟩ := exists_path_of_mem_paneIds ht ha
  rw [siblingOf_eq hpath, Except.ok.injEq] at h
  obtain ⟨other, hother, rfl⟩ := Option.map_eq_some_iff.mp h
  obtain ⟨f, outer, i, rfl, hf⟩ := TreePath.beside_eq_some_iff.mp hother
  exact ⟨f, outer, index, i, view, other.view, hpath, hf⟩

def ShowsTerminal (p : Profile) (id : PaneId) : Prop :=
  ∃ pane ∈ p.panes, pane.id = id ∧ pane.view.isTerminal = true

instance (p : Profile) (id : PaneId) : Decidable (p.ShowsTerminal id) :=
  inferInstanceAs (Decidable (∃ pane ∈ p.panes, pane.id = id ∧ pane.view.isTerminal = true))

theorem showsTerminal_iff (h : p.arena.Holds path (.pane index content)) :
    p.ShowsTerminal content.id ↔ content.view.isTerminal = true := by
  have ht := Arena.holds_plug_iff.mp h
  constructor
  · rintro ⟨pane, hpane, hid, hview⟩
    rw [panes, ht.panes_eq] at hpane
    -- A pane is found by its id, so the two are the same.
    obtain ⟨path', index', -, h'⟩ := ht.exists_path_of_mem hpane
    have hleaf := h'.leaf?_eq
    rw [hid, h.leaf?_eq, Option.some.injEq, Leaf.mk.injEq] at hleaf
    rwa [hleaf.2.1]
  · intro hview
    exact ⟨content, mem_panes h, rfl, hview⟩

def withoutLeaf (p : Profile) (f : OpenSplit) (path : TreePath) (index : NodeIndex)
    (id : PaneId) : Profile :=
  { p with arena := p.arena.withoutLeaf f path index id }

/-- The id of a dropped leaf goes, and the others stay in their order. -/
theorem paneIds_withoutLeaf (h : p.arena.Holds (f :: path) (.pane index content)) :
    (p.withoutLeaf f path index content.id).paneIds = p.paneIds.erase content.id := by
  have ht := Arena.holds_plug_iff.mp h
  have hq : (p.withoutLeaf f path index content.id).arena.Holds path f.other := h.collapse
  rw [paneIds_eq ht, paneIds_eq (Arena.holds_plug_iff.mp hq)]
  exact ids_eq_of_dropped (dropped_plug f path index content) ht.nodup_leaves_id

theorem on_findLeaf_at (h : p.arena.Holds path (.pane index content)) :
    (findLeaf content.id).on p = (.ok ⟨index, content, path.parent⟩, p) :=
  on_findLeaf_of_some p h.leaf?_eq

theorem on_findLeaf_bind {α : Type} (ht : p.arena.Holds [] t) {id : PaneId} (hid : id ∉ p.paneIds)
    (f : Leaf → Edit Profile α) :
    (findLeaf id >>= f).on p = (.error (.refused (.noPane id)), p) := by
  rw [Edit.on_bind, on_findLeaf_of_none p ((leaf?_eq_none_iff ht).mpr hid)]

theorem on_split (h : p.arena.Holds path (.pane index content)) (direction : Direction)
    (value : Value) :
    (split content.id direction value).on p =
      match Ratio.ofValue? value with
      | none => (.error (.invalidRatio value), p)
      | some ratio => (.ok p.arena.nextPane,
          { p with arena := p.arena.split ⟨index, content, path.parent⟩ direction ratio }) := by
  unfold split
  cases hratio : Ratio.ofValue? value with
  | none => simp [Edit.on_bind, on_findLeaf_at h]
  | some ratio => simp [Edit.on_bind, on_findLeaf_at h, Except.map]

theorem on_collapse (h : p.arena.Holds (f :: path) (.pane index content)) :
    (collapse ⟨index, content, some f.index⟩).on p =
      (.ok f.other.index, p.withoutLeaf f path index content.id) := by
  unfold collapse
  simp [Edit.on_bind, h.collapse?_eq, withoutLeaf, Except.map]

theorem on_merge_of_ne (h : p.arena.Holds path (.pane index content)) {id : PaneId} {kept : Leaf}
    (hkept : p.arena.leaf? id = some kept) (hne : path.beside.map Pane.id ≠ some id) :
    (merge id content.id).on p = (.error (.refused (.notSiblings id content.id)), p) := by
  have hsiblings := Decidable.not_not.mp (mt (h.siblings_iff hkept).mp hne)
  unfold merge
  simp only [Edit.on_bind, on_findLeaf_of_some p hkept, on_findLeaf_at h, if_pos hsiblings]
  rfl

theorem on_merge (h : p.arena.Holds (f :: path) (.pane index content)) {i : NodeIndex}
    {other : Pane} (hother : f.other = .pane i other) :
    (merge other.id content.id).on p =
      if content.view.isTerminal && !other.view.isTerminal then
        (.error (.refused (.terminalDiscarded content.id)), p)
      else (.ok (), { p.withoutLeaf f path index content.id with
        focused := if p.focused = content.id then other.id else p.focused }) := by
  have hbeside : TreePath.beside (f :: path) = some other :=
    TreePath.beside_eq_some_iff.mpr ⟨f, path, i, rfl, hother⟩
  obtain ⟨j, hleaf, -⟩ := h.leaf?_beside hbeside
  have hsiblings := (h.siblings_iff hleaf).mpr (by rw [hbeside]; rfl)
  unfold merge
  simp only [Edit.on_bind, on_findLeaf_of_some p hleaf, on_findLeaf_at h, if_neg hsiblings]
  split
  · rfl
  · simp only [TreePath.parent, Edit.on_bind, on_collapse h, Edit.on_get]
    by_cases hfocused : p.focused = content.id
    · rw [if_pos (by exact hfocused), if_pos hfocused]
      rfl
    · rw [if_neg (by exact hfocused), if_neg hfocused]
      rfl

theorem exists_rect (h : p.arena.Holds path (.pane index content)) (area : Rect) :
    ∃ rect, Assoc.find? content.id (p.arena.place area) = some rect := by
  have ht := Arena.holds_plug_iff.mp h
  rw [← Option.isSome_iff_exists, ← Assoc.mem_keys_iff_find?, ht.keys_place, ← paneIds_eq ht]
  exact List.mem_map_of_mem (mem_panes h)

theorem on_inherit (p : Profile) (origin : Rect) (subtree : NodeIndex) :
    (inherit origin subtree).on p =
      match nearest? origin (p.heirs subtree) with
      | .error _ => (.error .overflow, p)
      | .ok none => (.error .focusLost, p)
      | .ok (some id) => (.ok (), { p with focused := id }) := by
  unfold inherit
  rcases hnearest : nearest? origin (p.heirs subtree) with e | id
  · simp [Edit.on_bind, hnearest, Fault.ofOverflow]
  · cases id <;> simp [Edit.on_bind, hnearest, Fault.ofOverflow]

/-- A pane that is closed gives its focus to the heir nearest to where it was. -/
theorem on_close (h : p.arena.Holds (f :: path) (.pane index content)) {rect : Rect}
    (hrect : Assoc.find? content.id (p.arena.place p.viewport) = some rect) :
    (close content.id ⟨index, content, some f.index⟩).on p =
      if p.focused = content.id then
        (inherit rect f.other.index).on (p.withoutLeaf f path index content.id)
      else (.ok (), p.withoutLeaf f path index content.id) := by
  have hon : (rectOf content.id).on p = (.ok rect, p) := by
    simp [rectOf, Edit.on_bind, hrect]
  unfold close
  simp only [Edit.on_bind, hon, on_collapse h, Edit.on_get]
  by_cases hfocused : p.focused = content.id
  · rw [if_pos hfocused, if_pos (by exact hfocused)]
  · rw [if_neg hfocused, if_neg (by exact hfocused)]
    rfl

theorem on_then_focused (x : Edit Profile Unit) :
    (do x; return (← get).focused : Edit Profile PaneId).on p =
      ((x.on p).1.map fun _ => (x.on p).2.focused, (x.on p).2) := by
  rw [Edit.on_bind]
  rcases x.on p with ⟨fault | _, q⟩ <;> rfl

/-- A pane that has a split around it and does not show the terminal is absorbed by the pane beside
it, or closed beside a subtree. -/
theorem on_remove (h : p.arena.Holds (f :: path) (.pane index content))
    (hview : content.view.isTerminal = false) :
    (remove content.id).on p =
      let ended : Except Fault Unit × Profile :=
        match TreePath.beside (f :: path) with
        | some other => (merge other.id content.id).on p
        | none => (close content.id ⟨index, content, some f.index⟩).on p
      (ended.1.map fun _ => ended.2.focused, ended.2) := by
  have hsibling : p.arena.siblingPane? ⟨index, content, some f.index⟩ =
      (TreePath.beside (f :: path)).map Pane.id := h.siblingPane?_eq
  unfold remove
  rw [Edit.on_bind, on_findLeaf_at h]
  simp only [hview, TreePath.parent, Bool.false_eq_true, if_false, reduceCtorEq]
  rw [Edit.on_bind, Edit.on_get]
  simp only [hsibling]
  cases TreePath.beside (f :: path) with
  | none => exact on_then_focused _
  | some other => exact on_then_focused _

theorem on_remove_terminal (h : p.arena.Holds path (.pane index content))
    (hview : content.view.isTerminal = true) :
    (remove content.id).on p = (.error (.refused .terminalClosed), p) := by
  unfold remove
  simp [Edit.on_bind, on_findLeaf_at h, hview]

theorem on_remove_last (h : p.arena.Holds [] (.pane index content))
    (hview : content.view.isTerminal = false) :
    (remove content.id).on p = (.error (.refused .lastPaneClosed), p) := by
  unfold remove
  simp [Edit.on_bind, on_findLeaf_at h, hview, TreePath.parent]

end Profile

end SplitScreen
