import SplitScreen.Proofs.Outcome
import SplitScreen.Proofs.Profile.Flatten

namespace SplitScreen

namespace Profile

variable {p q : Profile} {t u : IndexedTree} {old new : Tree Pane} {area : Rect} {id a b : PaneId}

/-- The tiles of a tree that is drawn in a rectangle. -/
def tilesIn (p : Profile) (rect : Rect) (s : Tree Pane) : List Tile := (s.place rect).map p.tileOf

/-- In a picture of the area, the tiles of a subtree give way to those of another in the rectangle
that the subtree occupied, and all other tiles stay as they are. -/
def Retiles (p q : Profile) (old new : Tree Pane) (area : Rect) : Prop :=
  ∃ (whole : Tree Pane) (rect : Rect) (before after : List Tile),
    p.arena.tree? = some whole ∧ old.Occupies rect whole area ∧
    p.flatten area = before ++ p.tilesIn rect old ++ after ∧
    q.flatten area = before ++ q.tilesIn rect new ++ after ∧
    (area.IsProper → rect.Tiles ((p.tilesIn rect old).map Tile.rect) ∧
      rect.Tiles ((q.tilesIn rect new).map Tile.rect))

theorem tiles_tilesIn (p : Profile) {rect : Rect} (h : rect.IsProper) (s : Tree Pane) :
    rect.Tiles ((p.tilesIn rect s).map Tile.rect) := by
  have hrects : (p.tilesIn rect s).map Tile.rect = (s.place rect).map Prod.snd := by
    rw [tilesIn, List.map_map]
    rfl
  rw [hrects]
  exact s.tiles_place h

theorem notMem_of_place {before after : List (Pane × Rect)} {rect : Rect} (ht : p.arena.Holds [] t)
    (hplace : t.tree.place area = before ++ old.place rect ++ after) {placed : Pane × Rect}
    (h : placed ∈ before ++ after) : placed.1.id ∉ old.leaves.map Pane.id := by
  have hnodup := ht.nodup_leaves_id
  have hperm : (before ++ old.place rect ++ after).Perm (old.place rect ++ (before ++ after)) := by
    rw [List.append_assoc]
    exact (List.perm_append_comm_assoc _ _ _)
  rw [← t.tree.map_fst_place area, hplace, List.map_map, (hperm.map _).nodup_iff, List.map_append,
    ← List.map_map, old.map_fst_place] at hnodup
  intro hmem
  exact (List.nodup_append.mp hnodup).2.2 _ hmem _ (List.mem_map_of_mem h) rfl

theorem retiles (ht : p.arena.Holds [] t) (hu : q.arena.Holds [] u)
    (h : Tree.Replaced old new t.tree u.tree)
    (hfocused : ∀ k, k ∉ old.leaves.map Pane.id → (k = p.focused ↔ k = q.focused)) (area : Rect) :
    p.Retiles q old new area := by
  obtain ⟨rect, before, after, hrect, hp, hq⟩ := h.place_eq area
  have hsame : ∀ placed ∈ before ++ after, q.tileOf placed = p.tileOf placed := by
    intro placed hplaced
    have hmark := hfocused _ (notMem_of_place ht hp hplaced)
    simp only [tileOf, hmark]
  have hbefore : before.map q.tileOf = before.map p.tileOf :=
    List.map_congr_left fun placed hplaced => hsame placed (List.mem_append_left _ hplaced)
  have hafter : after.map q.tileOf = after.map p.tileOf :=
    List.map_congr_left fun placed hplaced => hsame placed (List.mem_append_right _ hplaced)
  refine ⟨t.tree, rect, before.map p.tileOf, after.map p.tileOf, ht.tree?_eq, hrect, ?_, ?_,
    fun harea => ?_⟩
  · rw [flatten_eq ht, hp, List.map_append, List.map_append, tilesIn]
  · rw [flatten_eq hu, hq, List.map_append, List.map_append, tilesIn, hbefore, hafter]
  · have hproper := hrect.isProper harea
    exact ⟨p.tiles_tilesIn hproper old, q.tiles_tilesIn hproper new⟩

/-- Where a pane is dropped, what stood beside it takes all of their split. -/
theorem retiles_dropped {content : Pane} {other : Tree Pane} (ht : p.arena.Holds [] t)
    (hu : q.arena.Holds [] u) (h : Tree.Dropped content other t.tree u.tree)
    (hfocused : if p.focused = content.id then q.focused ∈ other.leaves.map Pane.id
      else q.focused = p.focused) :
    ∃ s : Tree Pane, s.IsSplit (.leaf content) other ∧ ∀ area, p.Retiles q s other area := by
  obtain ⟨s, hs, hreplaced⟩ := h.exists_isSplit
  refine ⟨s, hs, retiles ht hu hreplaced fun k hk => ?_⟩
  split at hfocused
  · next hcontent =>
      -- The focus was and is within the split.
      have hleaves : ∀ pane, pane = content ∨ pane ∈ other.leaves → k ≠ pane.id := by
        rintro pane hpane rfl
        exact hk (List.mem_map_of_mem (hs.mem_leaves_iff.mpr
          (hpane.imp_left fun h => List.mem_singleton.mpr h)))
      obtain ⟨heir, hheir, hid⟩ := List.mem_map.mp hfocused
      have hbefore : k ≠ p.focused := hcontent ▸ hleaves content (Or.inl rfl)
      have hafter : k ≠ q.focused := hid ▸ hleaves heir (Or.inr hheir)
      exact iff_of_false hbefore hafter
  · rw [hfocused]

theorem retiles_split {direction : Direction} {value : Value} {new : PaneId}
    (ht : p.arena.Holds [] t) (h : (split id direction value).on p = (.ok new, q)) :
    ∃ view ratio, Ratio.ofValue? value = some ratio ∧ ∀ area,
      p.Retiles q (.leaf ⟨id, view⟩)
        (.split direction ratio (.leaf ⟨id, view⟩) (.leaf ⟨new, view⟩)) area := by
  have hcall : p.call (.split id direction value) = (.ok (.id new), q) := by
    rw [call, Call.edit, Edit.on_map, h]
    rfl
  obtain ⟨u, hu, ratio, view, new', hratio, hnew, -, hfocused, hreplaced⟩ :=
    (step_of_call hcall).refines ht
  obtain rfl : new = new' := by simpa using hnew
  refine ⟨view, ratio, hratio, retiles ht hu hreplaced fun k _ => ?_⟩
  rw [show q.focused = p.focused from hfocused]

theorem retiles_merge (ht : p.arena.Holds [] t) (h : (merge a b).on p = (.ok (), q)) :
    ∃ (s : Tree Pane) (view view' : View), s.IsSplit (.leaf ⟨b, view⟩) (.leaf ⟨a, view'⟩) ∧
      ∀ area, p.Retiles q s (.leaf ⟨a, view'⟩) area := by
  have hcall : p.call (.merge a b) = (.ok .done, q) := by
    rw [call, Call.edit, done, Edit.on_bind, h]
    rfl
  obtain ⟨u, hu, ⟨view, view', hdropped⟩, hfocused⟩ := (step_of_call hcall).refines ht
  have hmoved : if p.focused = b then q.focused ∈ [a] else q.focused = p.focused := by
    simp only at hfocused
    split
    · next hb => rw [hfocused, if_pos hb, List.mem_singleton]
    · next hb => rw [hfocused, if_neg hb]
  obtain ⟨s, hs, hretiles⟩ := retiles_dropped ht hu hdropped hmoved
  exact ⟨s, view, view', hs, hretiles⟩

theorem retiles_remove {heir : PaneId} (ht : p.arena.Holds [] t)
    (h : (remove id).on p = (.ok heir, q)) :
    ∃ (s other : Tree Pane) (view : View), s.IsSplit (.leaf ⟨id, view⟩) other ∧
      ∀ area, p.Retiles q s other area := by
  have hcall : p.call (.remove id) = (.ok (.id heir), q) := by
    rw [call, Call.edit, Edit.on_map, h]
    rfl
  obtain ⟨u, hu, view, other, hdropped, -, hfocused⟩ := (step_of_call hcall).refines ht
  obtain ⟨s, hs, hretiles⟩ := retiles_dropped ht hu hdropped hfocused
  exact ⟨s, other, view, hs, hretiles⟩

/-- In a picture of any area, an edit of the tree that is answered changes only the tiles of one
subtree. A split divides the tile of its pane in the given ratio, a merge makes one tile of two, and
a removal gives the rectangle of the split around its pane to what stood beside it, in the same
order. -/
theorem edits_retile (hp : p.Reachable) :
    (∀ id direction value new q, (split id direction value).on p = (.ok new, q) →
      ∃ view ratio, Ratio.ofValue? value = some ratio ∧ ∀ area,
        p.Retiles q (.leaf ⟨id, view⟩)
          (.split direction ratio (.leaf ⟨id, view⟩) (.leaf ⟨new, view⟩)) area) ∧
    (∀ a b q, (merge a b).on p = (.ok (), q) →
      ∃ (s : Tree Pane) (view view' : View), s.IsSplit (.leaf ⟨b, view⟩) (.leaf ⟨a, view'⟩) ∧
        ∀ area, p.Retiles q s (.leaf ⟨a, view'⟩) area) ∧
    ∀ id heir q, (remove id).on p = (.ok heir, q) →
      ∃ (s other : Tree Pane) (view : View), s.IsSplit (.leaf ⟨id, view⟩) other ∧
        ∀ area, p.Retiles q s other area := by
  obtain ⟨t, ht⟩ := hp.exists_holds
  exact ⟨fun _ _ _ _ _ h => retiles_split ht h, fun _ _ _ h => retiles_merge ht h,
    fun _ _ _ h => retiles_remove ht h⟩

theorem edits_retile_large :
    let p := (ofLayout Layout.large).run [.split 2 .vertical Ratio.even.toValue]
    p.Reachable ∧
      (∃ q view ratio, (split 0 .horizontal (.list [.int 3, .int 2])).on p = (.ok 5, q) ∧
        p.Retiles q (.leaf ⟨0, view⟩)
          (.split .horizontal ratio (.leaf ⟨0, view⟩) (.leaf ⟨5, view⟩)) ⟨0, 0, 81, 23⟩) ∧
      (∃ (q : Profile) (s : Tree Pane) (view view' : View), (merge 2 4).on p = (.ok (), q) ∧
        s.IsSplit (.leaf ⟨4, view⟩) (.leaf ⟨2, view'⟩) ∧
        p.Retiles q s (.leaf ⟨2, view'⟩) ⟨0, 0, 81, 23⟩) ∧
      ∃ (q : Profile) (s other : Tree Pane) (view : View), (remove 3).on p = (.ok 1, q) ∧
        s.IsSplit (.leaf ⟨3, view⟩) other ∧ p.Retiles q s other ⟨0, 0, 81, 23⟩ := by
  intro p
  have hp : p.Reachable := (reachable_ofLayout Layout.large defaultViewport).run _
  obtain ⟨hsplit, hmerge, hremove⟩ := edits_retile hp
  have hdivided : ((split 0 .horizontal (.list [.int 3, .int 2])).on p).1 = .ok 5 :=
    eq_ok_of_toOption (by decide)
  have hmerged : ((merge 2 4).on p).1 = .ok () := eq_ok_of_toOption (by decide)
  have hremoved : ((remove 3).on p).1 = .ok 1 := eq_ok_of_toOption (by decide)
  obtain ⟨view, ratio, -, htiles⟩ := hsplit _ _ _ _ _ (Prod.ext hdivided rfl)
  obtain ⟨s, left, kept, hs, htiles'⟩ := hmerge _ _ _ (Prod.ext hmerged rfl)
  obtain ⟨r, other, closed, hr, htiles''⟩ := hremove _ _ _ (Prod.ext hremoved rfl)
  exact ⟨hp, ⟨_, view, ratio, Prod.ext hdivided rfl, htiles _⟩,
    ⟨_, s, left, kept, Prod.ext hmerged rfl, hs, htiles' _⟩,
    _, r, other, closed, Prod.ext hremoved rfl, hr, htiles'' _⟩

end Profile

end SplitScreen
