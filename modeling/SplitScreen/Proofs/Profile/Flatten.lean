import Mathlib.Data.List.Basic
import SplitScreen.Proofs.Profile.Invariant
import SplitScreen.Proofs.Tiling

namespace SplitScreen

namespace Profile

variable {p : Profile} {t : IndexedTree}

def tileOf (p : Profile) (placed : Pane × Rect) : Tile :=
  ⟨placed.1.id, placed.1.view, placed.2, decide (placed.1.id = p.focused)⟩

theorem leaf?_of_mem_leaves (ht : p.arena.Holds [] t) {content : Pane}
    (h : content ∈ t.tree.leaves) :
    ∃ l, p.arena.leaf? content.id = some l ∧ l.content = content := by
  obtain ⟨path, index, rfl, hpath⟩ := ht.exists_path_of_mem h
  exact ⟨_, hpath.leaf?_eq, rfl⟩

theorem flatten_eq (ht : p.arena.Holds [] t) (area : Rect) :
    p.flatten area = (t.tree.place area).map p.tileOf := by
  rw [flatten, ht.place_eq, List.filterMap_map]
  refine List.filterMap_eq_map_iff_forall_eq_some.mpr fun placed hplaced => ?_
  have hmem : placed.1 ∈ t.tree.leaves := by
    rw [← t.tree.map_fst_place area]
    exact List.mem_map_of_mem hplaced
  obtain ⟨l, hl, hcontent⟩ := leaf?_of_mem_leaves ht hmem
  simp [hl, hcontent, tileOf]

theorem ids_flatten (ht : p.arena.Holds [] t) (area : Rect) :
    (p.flatten area).map Tile.id = p.paneIds := by
  rw [flatten_eq ht, paneIds_eq ht, ← t.tree.map_fst_place area, List.map_map, List.map_map]
  rfl

theorem rects_flatten (ht : p.arena.Holds [] t) (area : Rect) :
    (p.flatten area).map Tile.rect = (t.tree.place area).map Prod.snd := by
  rw [flatten_eq ht, List.map_map]
  rfl

theorem tile_eq (ht : p.arena.Holds [] t) {area : Rect} {tile : Tile}
    (h : tile ∈ p.flatten area) :
    p.pane tile.id = .ok ⟨tile.id, tile.view⟩ ∧ tile.focused = decide (tile.id = p.focused) := by
  rw [flatten_eq ht] at h
  obtain ⟨placed, hplaced, rfl⟩ := List.mem_map.mp h
  have hmem : placed.1 ∈ t.tree.leaves := by
    rw [← t.tree.map_fst_place area]
    exact List.mem_map_of_mem hplaced
  obtain ⟨l, hl, hcontent⟩ := leaf?_of_mem_leaves ht hmem
  refine ⟨?_, rfl⟩
  simp [pane, tileOf, Arena.leaf, hl, hcontent, bind, Except.bind, pure, Except.pure]

theorem exists_focused_tile (ht : p.arena.Holds [] t) (hfocused : p.focused ∈ p.paneIds)
    (area : Rect) :
    ∃ tile, (p.flatten area).filter Tile.focused = [tile] ∧ tile.id = p.focused := by
  have hids := ids_flatten ht area
  have hnodup : ((p.flatten area).map Tile.id).Nodup := by
    rw [hids, paneIds_eq ht]
    exact ht.nodup_leaves_id
  rw [← hids] at hfocused
  obtain ⟨tile, htile, hid⟩ := List.mem_map.mp hfocused
  refine ⟨tile, ?_, hid⟩
  obtain ⟨before, after, htiles⟩ := List.append_of_mem htile
  have hother : ∀ other ∈ before ++ after, other.focused = false := by
    intro other hmem
    have htile' : other ∈ p.flatten area := by
      rw [htiles]
      exact ((List.sublist_cons_self tile after).append_left before).subset hmem
    rw [(tile_eq ht htile').2, ← hid]
    refine decide_eq_false fun heq => ?_
    rw [htiles, List.map_append, List.map_cons] at hnodup
    refine (List.nodup_cons.mp (List.perm_middle.nodup_iff.mp hnodup)).1 ?_
    rw [← List.map_append, ← heq]
    exact List.mem_map_of_mem hmem
  have hself : tile.focused = true := by
    rw [(tile_eq ht htile).2, hid]
    exact decide_eq_true rfl
  have hbefore : before.filter Tile.focused = [] := List.filter_eq_nil_iff.mpr fun other hmem => by
    simp [hother other (List.mem_append_left _ hmem)]
  have hafter : after.filter Tile.focused = [] := List.filter_eq_nil_iff.mpr fun other hmem => by
    simp [hother other (List.mem_append_right _ hmem)]
  rw [htiles, List.filter_append, List.filter_cons_of_pos hself, hbefore, hafter]
  rfl

/-- On a reachable profile with its focus on a pane, the tiles cover every area exactly. They are
the panes in their order, each with its view, and the one of the focused pane is marked. -/
theorem flatten_tiles (hp : p.Reachable) (hfocused : p.focused ∈ p.paneIds) (area : Rect)
    (hwidth : 0 ≤ area.width) (hheight : 0 ≤ area.height) :
    area.Tiles ((p.flatten area).map Tile.rect) ∧
      (p.flatten area).map Tile.id = p.paneIds ∧
      (∀ tile ∈ p.flatten area, p.pane tile.id = .ok ⟨tile.id, tile.view⟩) ∧
      ∃ tile, (p.flatten area).filter Tile.focused = [tile] ∧ tile.id = p.focused := by
  obtain ⟨t, ht⟩ := hp.exists_holds
  refine ⟨?_, ids_flatten ht area, fun tile htile => (tile_eq ht htile).1,
    exists_focused_tile ht hfocused area⟩
  rw [rects_flatten ht]
  exact t.tree.tiles_place ⟨hwidth, hheight⟩

theorem flatten_tiles_large :
    (ofLayout Layout.large).Reachable ∧
      (⟨-3, 5, 7, 1⟩ : Rect).Tiles (((ofLayout Layout.large).flatten ⟨-3, 5, 7, 1⟩).map Tile.rect) ∧
      ∃ tile, ((ofLayout Layout.large).flatten ⟨-3, 5, 7, 1⟩).filter Tile.focused = [tile] ∧
        tile.id = 1 := by
  have hp := reachable_ofLayout Layout.large defaultViewport
  obtain ⟨htiles, -, -, hfocused⟩ :=
    flatten_tiles hp (by decide) ⟨-3, 5, 7, 1⟩ (by decide) (by decide)
  exact ⟨hp, htiles, hfocused⟩

end Profile

end SplitScreen
