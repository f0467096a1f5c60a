import SplitScreen.Proofs.Profile.Flatten

namespace SplitScreen

/-- What is seen of a tile: all but the id of its pane. -/
def Tile.face (t : Tile) : View × Rect × Bool := (t.view, t.rect, t.focused)

namespace Layout

/-- The layout with its mark on the pane at a place, and nowhere else. -/
def markedAt {ρ : Type} (k : Int) : Layout ρ → Layout ρ
  | pane view _ => pane view (decide (k = 0))
  | split direction ratio first second =>
    split direction ratio (first.markedAt k) (second.markedAt (k - first.paneCount))

/-- What is seen of the panes in an area, first part before second. -/
def faces : Layout Ratio → Rect → List (View × Rect × Bool)
  | pane view focused, area => [(view, area, focused)]
  | split direction ratio first second, area =>
    first.faces (area.split direction ratio).1 ++ second.faces (area.split direction ratio).2

end Layout

namespace Tree

/-- The layout of a tree of panes, with the given pane as the only one marked. -/
def layout (focused : PaneId) : Tree Pane → Layout Ratio
  | leaf content => .pane content.view (decide (content.id = focused))
  | split direction ratio first second =>
    .split direction ratio (first.layout focused) (second.layout focused)

variable {t : Tree Pane} {focused : PaneId}

@[simp] theorem paneCount_layout (t : Tree Pane) (focused : PaneId) :
    (t.layout focused).paneCount = t.leaves.length := by
  induction t with
  | leaf content => rfl
  | split direction ratio first second ih₁ ih₂ =>
      simp [layout, Layout.paneCount, leaves, ih₁, ih₂]

theorem marks_layout (t : Tree Pane) (focused : PaneId) :
    (t.layout focused).marks = t.leaves.map fun content => decide (content.id = focused) := by
  induction t with
  | leaf content => rfl
  | split direction ratio first second ih₁ ih₂ => simp [layout, Layout.marks, leaves, ih₁, ih₂]

theorem faces_layout (t : Tree Pane) (focused : PaneId) (area : Rect) :
    (t.layout focused).faces area =
      (t.place area).map fun placed =>
        (placed.1.view, placed.2, decide (placed.1.id = focused)) := by
  induction t generalizing area with
  | leaf content => rfl
  | split direction ratio first second ih₁ ih₂ => simp [layout, Layout.faces, place, ih₁, ih₂]

theorem markedAt_layout {k : Int}
    (h : ∀ (i : Nat) (content : Pane), t.leaves[i]? = some content →
      (content.id = focused ↔ (i : Int) = k)) :
    (t.layout focused).markedAt k = t.layout focused := by
  induction t generalizing k with
  | leaf content =>
      have hself := h 0 content rfl
      simp only [layout, Layout.markedAt, Layout.pane.injEq, true_and, decide_eq_decide]
      rw [hself]
      exact ⟨fun hk => hk.symm, fun hk => hk.symm⟩
  | split direction ratio first second ih₁ ih₂ =>
      have hfirst := ih₁ (k := k) fun i content hi =>
        h i content (List.getElem?_append_left (List.getElem?_eq_some_iff.mp hi).1 ▸ hi)
      have hsecond := ih₂ (k := k - first.leaves.length) fun i content hi => by
        have hi' : (leaves (.split direction ratio first second))[first.leaves.length + i]? =
            some content := by
          rw [leaves, List.getElem?_append_right (Nat.le_add_right _ _), Nat.add_sub_cancel_left]
          exact hi
        rw [h _ content hi']
        omega
      simp only [layout, Layout.markedAt, paneCount_layout, hfirst, hsecond]

end Tree

theorem IndexedTree.layout_ofLayout (index : NodeIndex) (id focused : PaneId) (l : Layout Ratio) :
    (ofLayout index id l).tree.layout focused = l.markedAt (focused - id) := by
  induction l generalizing index id with
  | pane view mark =>
      simp only [ofLayout, tree, Tree.layout, Layout.markedAt, Layout.pane.injEq, true_and,
        decide_eq_decide]
      rw [Int.sub_eq_zero]
      exact eq_comm
  | split direction ratio first second ih₁ ih₂ =>
      simp only [ofLayout, tree, Tree.layout, Layout.markedAt, ih₁, ih₂, Int.sub_sub]

namespace Arena

variable {a : Arena} {t : IndexedTree}

theorem Shows.layoutFrom_eq {parent : Option NodeIndex} (h : a.Shows parent t) {depth : Nat}
    (hdepth : t.indices.length ≤ depth) (focused : PaneId) :
    a.layoutFrom focused depth t.index = t.tree.layout focused := by
  induction t generalizing parent depth with
  | pane index content =>
      cases depth with
      | zero => simp [IndexedTree.indices] at hdepth
      | succ depth =>
          have hself : a.node? index = some (.pane content parent) := h
          simp [layoutFrom, IndexedTree.tree, Tree.layout, hself]
  | split index direction ratio first second ih₁ ih₂ =>
      obtain ⟨hself, hfirst, hsecond⟩ := h
      cases depth with
      | zero => simp [IndexedTree.indices] at hdepth
      | succ depth =>
          simp only [IndexedTree.indices, List.length_cons, List.length_append] at hdepth
          simp [layoutFrom, IndexedTree.tree, Tree.layout, hself,
            ih₁ hfirst (by omega : first.indices.length ≤ depth),
            ih₂ hsecond (by omega : second.indices.length ≤ depth)]

theorem Holds.toLayout_eq (h : a.Holds [] t) (focused : PaneId) :
    a.toLayout focused = t.tree.layout focused := by
  have hroot : a.root = t.index := h.showsPath
  rw [toLayout, hroot, h.size_eq]
  exact h.shows.layoutFrom_eq (Nat.le_refl _) focused

end Arena

namespace Profile

variable {p : Profile} {t : IndexedTree}

theorem toLayout_eq (ht : p.arena.Holds [] t) : p.toLayout = t.tree.layout p.focused :=
  ht.toLayout_eq p.focused

theorem toLayout_ofLayout (l : Layout Ratio) (viewport : Rect) :
    (ofLayout l viewport).toLayout = l.markedAt (ofLayout l viewport).focused := by
  rw [toLayout_eq (Arena.holds_ofLayout l), IndexedTree.layout_ofLayout, Int.sub_zero]

theorem map_face_flatten (ht : p.arena.Holds [] t) (area : Rect) :
    (p.flatten area).map Tile.face = p.toLayout.faces area := by
  rw [flatten_eq ht, toLayout_eq ht, Tree.faces_layout, List.map_map]
  rfl

/-- The focused pane of a layout that is read from a profile has the place that it had there. -/
theorem getElem?_leaves_iff (ht : p.arena.Holds [] t) (hfocused : p.focused ∈ p.paneIds)
    {i : Nat} {content : Pane} (hi : t.tree.leaves[i]? = some content) (viewport : Rect) :
    content.id = p.focused ↔ (i : Int) = (ofLayout p.toLayout viewport).focused := by
  rw [paneIds_eq ht] at hfocused
  obtain ⟨pane, hpane, hid⟩ := List.mem_map.mp hfocused
  have hmarks : p.toLayout.marks.findIdx? (· = true) =
      t.tree.leaves.findIdx? fun content => decide (content.id = p.focused) := by
    rw [toLayout_eq ht, Tree.marks_layout, List.findIdx?_map]
    congr 1
    funext content
    simp
  obtain ⟨k, hk⟩ : ∃ k, t.tree.leaves.findIdx? (fun content => decide (content.id = p.focused)) =
      some k := by
    rw [← Option.isSome_iff_exists, List.findIdx?_isSome, List.any_eq_true]
    exact ⟨pane, hpane, decide_eq_true hid⟩
  have hplace : (ofLayout p.toLayout viewport).focused = (k : Int) := by
    simp only [ofLayout, hmarks, hk, Option.getD_some]
  obtain ⟨hlt, hkid, -⟩ := List.findIdx?_eq_some_iff_getElem.mp hk
  have hkid : t.tree.leaves[k].id = p.focused := of_decide_eq_true hkid
  rw [hplace, Int.natCast_inj]
  constructor
  · intro hid'
    obtain ⟨hi', rfl⟩ := List.getElem?_eq_some_iff.mp hi
    refine (List.getElem?_inj (by simpa using hi') ht.nodup_leaves_id).mp ?_
    rw [List.getElem?_map, List.getElem?_map, List.getElem?_eq_getElem hi',
      List.getElem?_eq_getElem hlt, Option.map_some, Option.map_some, hid', hkid]
  · rintro rfl
    rw [List.getElem?_eq_getElem hlt, Option.some.injEq] at hi
    rw [← hi, hkid]

theorem toLayout_ofLayout_toLayout (ht : p.arena.Holds [] t) (hfocused : p.focused ∈ p.paneIds)
    (viewport : Rect) : (ofLayout p.toLayout viewport).toLayout = p.toLayout := by
  rw [toLayout_ofLayout]
  have hmarked := Tree.markedAt_layout fun i content hi =>
    getElem?_leaves_iff ht hfocused hi viewport
  rw [← toLayout_eq ht] at hmarked
  exact hmarked

end Profile

end SplitScreen
