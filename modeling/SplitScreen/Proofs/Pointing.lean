import SplitScreen.Proofs.Events
import SplitScreen.Proofs.Profile.Flatten

namespace SplitScreen

namespace FrontEnd

/-- All tiles have their places, and the status bar of the screen can be read. -/
structure Readable (f : FrontEnd) : Prop where
  placed : f.drawn.forM place = .ok ()
  bar : (barText f.screen).title?.isNone = false

/-- An event has been handled: what is drawn is what is, on a screen in good order that has the area
of the panes, and all of it can be read. -/
structure Shown (f : FrontEnd) : Prop where
  faithful : f.Faithful
  valid : f.screen.Valid
  fitted : f.Fitted
  readable : f.Readable

variable {f g : FrontEnd} {p : Profile} {report : Report} {e : Event}

theorem readable_refreshed {reaction : Reaction} (h : f.refreshed reaction = (.ok report, g)) :
    g.Readable := by
  rw [refreshed, refresh] at h
  generalize (if f.area.area = 0 then f.screen else f.screen.resize f.area) = s at h
  simp only at h
  split at h
  · cases h
  · next tiles _ =>
      split at h
      · cases h
      · next hplaced =>
          split at h
          · cases h
          · next hbar =>
              obtain rfl := (Prod.mk.inj h).2
              exact ⟨hplaced, Bool.not_eq_true _ ▸ hbar⟩

theorem readable_run (hf : f.Readable) {c : Command} (h : f.run c = (.ok report, g)) :
    g.Readable := by
  rcases hon : c.apply f.screen with ⟨fault | _, s⟩
  · cases fault with
    | refused r =>
        rw [run_refused hon] at h
        obtain rfl := (Prod.mk.inj h).2
        exact ⟨hf.placed, hf.bar⟩
    | overflow | longInteger | focusLost | badMarkup =>
        rw [run, hon] at h
        cases h
  · rw [run, hon] at h
    exact readable_refreshed h

theorem readable_handle (hf : f.Shown) (h : f.handle e = (.ok report, g)) : g.Readable := by
  cases e with
  | key name =>
      rcases f.key_cases name with ⟨reaction, hkey⟩ | ⟨c, hkey⟩
      · obtain rfl := (Prod.mk.inj (hkey.symm.trans h)).2
        exact hf.readable
      · exact readable_run hf.readable (hkey.symm.trans h)
  | pointer cell =>
      obtain ⟨p, hactive, -⟩ := hf.valid.exists_active
      rw [handle, pointer_eq hf.fitted.pending hactive] at h
      split at h
      · obtain rfl := (Prod.mk.inj h).2
        exact hf.readable
      · split at h
        · obtain rfl := (Prod.mk.inj h).2
          exact hf.readable
        · exact readable_refreshed h
  | resize width height => exact readable_refreshed h

theorem shown_handle (hf : f.Shown) (h : f.handle e = (.ok report, g)) : g.Shown := by
  have hend := handle_faithful hf.faithful hf.valid e
  have hfitted := fitted_handle hf.fitted e
  rw [h] at hend hfitted
  exact ⟨hend.1, hend.2.1, hfitted, readable_handle hf h⟩

theorem shown_mount {s : Screen} (hs : s.Driven) (hvalid : s.Valid) (hpending : s.pending = none)
    {origin : Point} {width height : Int}
    (h : (ofScreen s origin width height).mount = (.ok report, g)) : g.Shown := by
  have hend := mount_faithful (f := ofScreen s origin width height) hvalid hpending
  have hfitted := fitted_mount hs hpending origin width height
  rw [h] at hend hfitted
  exact ⟨hend.1, hend.2.1, hfitted, readable_refreshed h⟩

/-- The focus has no part in where a pane is put and what its title is. -/
theorem forM_place_map (focused : PaneId) (tiles : List Tile) :
    (tiles.map fun t => { t with focused := decide (t.id = focused) }).forM place =
      tiles.forM place := by
  induction tiles with
  | nil => rfl
  | cons tile tiles ih =>
      simp only [List.map_cons, List.forM]
      rw [ih]
      rfl

theorem flatten_focused {t : IndexedTree} (ht : p.arena.Holds [] t) (id : PaneId) (area : Rect) :
    ({ p with focused := id } : Profile).flatten area =
      (p.flatten area).map fun t => { t with focused := decide (t.id = id) } := by
  rw [Profile.flatten_eq (p := { p with focused := id }) ht, Profile.flatten_eq ht, List.map_map]
  rfl

theorem area_ne_zero (hwidth : 0 < f.width) (hheight : 0 < f.height) : f.area.area ≠ 0 :=
  Int.ne_of_gt (Int.mul_pos hwidth hheight)

theorem viewport_eq (hf : f.Fitted) (hactive : f.screen.active = .ok p) (hwidth : 0 < f.width)
    (hheight : 0 < f.height) : p.viewport = f.area := by
  rw [hf.driven.inOrder.fits _ p (Screen.find?_of_active hactive)]
  exact hf.viewport (area_ne_zero hwidth hheight)

theorem drawn_eq (hf : f.Faithful) (hactive : f.screen.active = .ok p)
    (hfull : f.screen.fullScreen = false) : f.drawn = p.flatten f.area := by
  have hdrawn := hf.drawn
  rw [Screen.flatten, hfull] at hdrawn
  simp only [Bool.false_eq_true, if_false, hactive] at hdrawn
  exact (Except.ok.inj hdrawn).symm

/-- What could be drawn can be drawn with the focus on another pane. -/
theorem refreshed_focused (hf : f.Shown) (hactive : f.screen.active = .ok p)
    (hfull : f.screen.fullScreen = false) {id : PaneId}
    (hmoved : ({ f with screen := f.screen.setActive { p with focused := id } } : FrontEnd).Fitted)
    (reaction : Reaction) :
    ∃ g, ({ f with screen := f.screen.setActive { p with focused := id } } : FrontEnd).refreshed
        reaction = (.ok ⟨reaction, []⟩, g) ∧
      g.screen = f.screen.setActive { p with focused := id } := by
  obtain ⟨t, ht⟩ := hf.fitted.driven.inOrder.exists_holds (Screen.find?_of_active hactive)
  -- The screen has the area already, so what is drawn are the tiles of the moved focus.
  have hscreen := (screen_refresh _).symm.trans (screen_refresh_of_fitted hmoved)
  have hflatten : (f.screen.setActive { p with focused := id }).flatten f.area =
      .ok (({ p with focused := id } : Profile).flatten f.area) := by
    rw [Screen.flatten, active_setActive]
    simp only [Screen.setActive, hfull, Bool.false_eq_true, if_false]
    rfl
  -- The bar names the profile and the modes, and the focus is no part of these.
  have hbar : (barText (f.screen.setActive { p with focused := id })).title?.isNone = false :=
    hf.readable.bar
  have hplaced := hf.readable.placed
  rw [drawn_eq hf.faithful hactive hfull, ← forM_place_map id, ← flatten_focused ht] at hplaced
  rw [refreshed, refresh]
  simp only [hscreen]
  simp only [area] at hflatten hplaced ⊢
  simp only [hflatten, hplaced, hbar, Bool.false_eq_true, if_false]
  exact ⟨_, rfl, rfl⟩

theorem paneAt?_eq {t : IndexedTree} (ht : p.arena.Holds [] t) (point : Point) :
    p.paneAt? point =
      (((p.flatten p.viewport).filter fun t => t.rect.contains point).map Tile.id).head? := by
  rw [Profile.flatten_eq ht, Profile.paneAt?, ht.place_eq, List.filter_map, List.map_map,
    List.head?_map, List.head?_filter, List.find?_map, Option.map_map]
  rfl

/-- A cell of the area is in the place of just one tile, and one outside in none. -/
theorem exists_tile {t : IndexedTree} (ht : p.arena.Holds [] t) {area : Rect} (h : area.IsProper)
    (point : Point) :
    if area.contains point = true then
      ∃ tile, (p.flatten area).filter (fun t => t.rect.contains point) = [tile]
    else (p.flatten area).filter (fun t => t.rect.contains point) = [] := by
  have hcount := (t.tree.tiles_place h).countP_contains point
  rw [← Profile.rects_flatten ht, List.countP_map, List.countP_eq_length_filter] at hcount
  split
  · next hin =>
      rw [if_pos hin] at hcount
      exact List.length_eq_one_iff.mp hcount
  · next hout =>
      rw [if_neg hout] at hcount
      exact List.length_eq_zero_iff.mp hcount

theorem handle_pointer (hf : f.Shown) (hactive : f.screen.active = .ok p) (hwidth : 0 < f.width)
    (hheight : 0 < f.height) (hfull : f.screen.fullScreen = false) (cell : Point) :
    let point : Point := ⟨cell.x - f.origin.x, cell.y - f.origin.y⟩
    ∃ g, f.handle (.pointer cell) = (.ok ⟨.pointed, []⟩, g) ∧
      if f.area.contains point = true then
        ∃ tile, f.drawn.filter (fun t => t.rect.contains point) = [tile] ∧
          g.screen = f.screen.setActive { p with focused := tile.id }
      else g = f := by
  intro point
  obtain ⟨t, ht⟩ := hf.fitted.driven.inOrder.exists_holds (Screen.find?_of_active hactive)
  have hviewport := viewport_eq hf.fitted hactive hwidth hheight
  have hdrawn := drawn_eq hf.faithful hactive hfull
  have harea : f.area.IsProper := ⟨Int.le_of_lt hwidth, Int.le_of_lt hheight⟩
  have htile := exists_tile ht harea point
  have hhit : f.hit? p cell =
      ((f.drawn.filter fun t => t.rect.contains point).map Tile.id).head? := by
    rw [hit?, hfull, hdrawn, ← hviewport]
    exact paneAt?_eq ht point
  rw [← hdrawn] at htile
  rw [handle, pointer_eq hf.fitted.pending hactive]
  split at htile
  · next hin =>
      obtain ⟨tile, htile⟩ := htile
      rw [htile] at hhit
      simp only [List.map_cons, List.head?_cons] at hhit
      simp only [hhit, if_pos hin]
      split
      · next hsame =>
          refine ⟨f, rfl, tile, htile, ?_⟩
          rw [hsame]
          exact (Screen.setActive_of_active hactive).symm
      · have hmoved := fitted_setActive hf.fitted hactive hhit
        obtain ⟨g, hg, hscreen⟩ := refreshed_focused hf hactive hfull hmoved .pointed
        exact ⟨g, hg, tile, htile, hscreen⟩
  · next hout =>
      rw [htile] at hhit
      simp only [List.map_nil, List.head?_nil] at hhit
      simp only [hhit, if_neg hout]
      exact ⟨f, rfl, rfl⟩

theorem handle_pointer_full (hf : f.Shown) (hfull : f.screen.fullScreen = true) (cell : Point) :
    f.handle (.pointer cell) = (.ok ⟨.pointed, []⟩, f) := by
  obtain ⟨p, hactive, -⟩ := hf.valid.exists_active
  have hhit : f.hit? p cell = none := by
    rw [hit?, hfull]
    rfl
  rw [handle, pointer_eq hf.fitted.pending hactive]
  simp only [hhit]

theorem nearestInt_eq {n : Int} (h : 0 ≤ n) (hn : n < 2 ^ 53) : Double.nearestInt n = n := by
  apply Double.nearestInt_of_small
  by_cases hzero : n.natAbs = 0
  · rw [hzero]
    decide
  · exact Nat.le_of_lt_succ ((Nat.log2_lt hzero).mpr (by omega))

theorem placed_eq {tile : Tile} (hproper : tile.rect.IsProper) (hinside : tile.rect.Inside f.area)
    (hwidth : f.width < 2 ^ 53) (hheight : f.height < 2 ^ 53) : placed tile = tile.rect := by
  obtain ⟨⟨hx, hx'⟩, hy, hy'⟩ := hinside
  obtain ⟨hwidth', hheight'⟩ := hproper
  simp only [area] at hx hx' hy hy'
  rw [placed, nearestInt_eq hx (by omega), nearestInt_eq hy (by omega),
    nearestInt_eq hwidth' (by omega), nearestInt_eq hheight' (by omega)]

theorem rect_of_mem_drawn (hf : f.Shown) (hwidth : 0 < f.width) (hheight : 0 < f.height)
    {tile : Tile} (htile : tile ∈ f.drawn) : tile.rect.IsProper ∧ tile.rect.Inside f.area := by
  have harea : f.area.IsProper := ⟨Int.le_of_lt hwidth, Int.le_of_lt hheight⟩
  obtain ⟨p, hactive, -⟩ := hf.valid.exists_active
  cases hfull : f.screen.fullScreen with
  | false =>
      obtain ⟨t, ht⟩ := hf.fitted.driven.inOrder.exists_holds (Screen.find?_of_active hactive)
      have htiles := t.tree.tiles_place harea
      rw [← Profile.rects_flatten ht, ← drawn_eq hf.faithful hactive hfull] at htiles
      have hmem := List.mem_map_of_mem (f := Tile.rect) htile
      exact ⟨htiles.proper hmem, htiles.inside hmem⟩
  | true =>
      have hdrawn := hf.faithful.drawn
      rw [Screen.flatten, hfull] at hdrawn
      obtain ⟨pane, -, hpane⟩ := exists_of_bind hdrawn
      rw [← Except.ok.inj hpane] at htile
      obtain rfl := List.mem_singleton.mp htile
      have hwhole := Rect.tiles_singleton harea
      exact ⟨harea, hwhole.inside (List.mem_singleton_self _)⟩

end FrontEnd

namespace Session

open FrontEnd

/-- After the start of a session and after every event that is handled, in an area with cells, the
pointer focuses the pane of the one tile that has the cell under it, and does nothing else; it does
nothing at all outside of the area and in full screen. On every terminal that doubles can measure the
tiles are in the places that they were given. -/
theorem pointer_focuses {literals : Assoc Text (Layout Value)} {name : Text} {s t : Screen}
    (h : Screen.ofLiterals literals name = .ok s) (ht : s.Evolves t) (hpending : t.pending = none)
    (origin : Point) (width height : Int) (inputs : List Input) {frame : Frame}
    (hframe : frame ∈ (start t origin width height inputs).frames)
    (hwidth : 0 < frame.shown.width) (hheight : 0 < frame.shown.height) (cell : Point) :
    let f := frame.shown
    let point : Point := ⟨cell.x - f.origin.x, cell.y - f.origin.y⟩
    (∃ p g, f.screen.active = .ok p ∧ f.handle (.pointer cell) = (.ok ⟨.pointed, []⟩, g) ∧
      if f.screen.fullScreen = false ∧ f.area.contains point = true then
        ∃ tile, f.drawn.filter (fun shown => shown.rect.contains point) = [tile] ∧
          g.screen = f.screen.setActive { p with focused := tile.id }
      else g = f) ∧
    (f.width < 2 ^ 53 → f.height < 2 ^ 53 → ∀ tile ∈ f.drawn, placed tile = tile.rect) := by
  intro f point
  have hvalid : t.Valid := ht.leads.valid (Screen.valid_ofLiterals h)
  have hf : f.Shown :=
    of_mem_start shown_handle (shown_mount (ht.driven (.start h)) hvalid hpending) hframe
  refine ⟨?_, ?_⟩
  · obtain ⟨p, hactive, -⟩ := hf.valid.exists_active
    cases hfull : f.screen.fullScreen with
    | true =>
        refine ⟨p, f, hactive, handle_pointer_full hf hfull cell, ?_⟩
        rw [if_neg (by simp)]
    | false =>
        obtain ⟨g, hg, hscreen⟩ := handle_pointer hf hactive hwidth hheight hfull cell
        refine ⟨p, g, hactive, hg, ?_⟩
        simp only [true_and]
        exact hscreen
  · intro hsmall hsmall' tile htile
    obtain ⟨hproper, hinside⟩ := rect_of_mem_drawn hf hwidth hheight htile
    exact placed_eq hproper hinside hsmall hsmall'

theorem pointer_focuses_large :
    let s := Screen.initial
    let session := start s ⟨0, 1⟩ 80 22 [.event (.key "2"), .event (.resize 40 10)]
    session.frames.length = 3 ∧
      ∀ frame ∈ session.frames, 0 < frame.shown.width ∧ 0 < frame.shown.height ∧
        ∃ g, frame.shown.handle (.pointer ⟨30, 2⟩) = (.ok ⟨.pointed, []⟩, g) := by
  intro s session
  have h : Screen.ofLiterals [] Screen.smallName = .ok s := rfl
  have hframes : session.frames.length = 3 ∧
      ∀ frame ∈ session.frames, 0 < frame.shown.width ∧ 0 < frame.shown.height := by
    decide +kernel
  obtain ⟨hlength, hsizes⟩ := hframes
  refine ⟨hlength, fun frame hframe => ?_⟩
  obtain ⟨hwidth, hheight⟩ := hsizes frame hframe
  obtain ⟨⟨p, g, -, hg, -⟩, -⟩ := pointer_focuses h .refl rfl ⟨0, 1⟩ 80 22 _ hframe hwidth hheight
    ⟨30, 2⟩
  exact ⟨hwidth, hheight, g, hg⟩

/-- A title that cannot be read leaves no tile under the pointer, so the pane that gets the focus has
none. -/
theorem pointer_misses :
    ∃ s, Screen.ofLiterals [(Screen.largeName, .split .horizontal Ratio.even.toValue
        (.pane (.custom "[/x]") false) (.pane (.kind .source) false))] Screen.smallName = .ok s ∧
      let session := start s ⟨0, 0⟩ 80 22 [.event (.key "2")]
      let f := session.last
      session.fault.any (· matches .badMarkup) = true ∧ f.area.contains ⟨60, 5⟩ = true ∧
        f.screen.fullScreen = false ∧
        ¬ ∃ tile, f.drawn.filter (fun shown => shown.rect.contains ⟨60, 5⟩) = [tile] ∧
          (f.handle (.pointer ⟨60, 5⟩)).2.screen.active.toOption.map Profile.focused =
            some tile.id := by
  refine ⟨_, rfl, ?_⟩
  intro session f
  have hfacts : session.fault.any (· matches .badMarkup) = true ∧ f.area.contains ⟨60, 5⟩ = true ∧
      f.screen.fullScreen = false ∧ f.drawn = [] := by
    decide
  obtain ⟨hfault, hin, hfull, hdrawn⟩ := hfacts
  refine ⟨hfault, hin, hfull, ?_⟩
  rintro ⟨tile, htile, -⟩
  rw [hdrawn, List.filter_nil] at htile
  cases htile

end Session

end SplitScreen
