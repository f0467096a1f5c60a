import SplitScreen.Proofs.Profile.Twin

namespace SplitScreen

namespace Profile

def Call.mapIds (f : PaneId → PaneId) : Call → Call
  | .split id direction ratio => .split (f id) direction ratio
  | .merge a b => .merge (f a) (f b)
  | .remove id => .remove (f id)
  | .siblingOf id => .siblingOf (f id)
  | .focus id => .focus (f id)
  | .pane id => .pane (f id)
  | .setView id view => .setView (f id) view
  | c => c

def Answer.mapIds (f : PaneId → PaneId) : Answer → Answer
  | .id a => .id (f a)
  | .id? a => .id? (a.map f)
  | .pane c => .pane { c with id := f c.id }
  | .panes cs => .panes (cs.map fun c => { c with id := f c.id })
  | .tiles ts => .tiles (ts.map fun t => { t with id := f t.id })
  | answer => answer

/-- The id of the pane at a place; the id of no pane when there is none. -/
def idAt (p : Profile) (place : Int) : PaneId :=
  if 0 ≤ place then p.paneIds.getD place.toNat p.arena.nextPane else p.arena.nextPane

/-- The place of a pane; the number of panes for an id of no pane. -/
def placeOf (p : Profile) (id : PaneId) : Int := (p.paneIds.idxOf id : Nat)

/-- What a call on the panes at some places does. The answer tells the places of panes in the
profile afterwards. -/
def callAt (p : Profile) (c : Call) : Except Fault.Kind Answer × Profile :=
  let (outcome, q) := p.call (c.mapIds p.idAt)
  ((outcome.map (Answer.mapIds q.placeOf)).mapError Fault.kind, q)

def runAt (p : Profile) (calls : List Call) : Profile :=
  calls.foldl (fun q c => (q.callAt c).2) p

/-- Answers about corresponding panes. -/
def Answer.Twin (R : Pairing) (x y : Answer) : Prop :=
  ∀ ⦃f g : PaneId → PaneId⦄, (∀ a b, R a b → f a = g b) → x.mapIds f = y.mapIds g

variable {R : Pairing} {p q : Profile} {a b : PaneId} {t : IndexedTree}

theorem idxOf_rel (hunique : R.Unique) {as bs : List PaneId} (h : List.Forall₂ R as bs)
    (hab : R a b) : as.idxOf a = bs.idxOf b := by
  induction h with
  | nil => rfl
  | @cons x y _ _ hxy _ ih =>
      have hsame : (x == a) = (y == b) := by
        rw [Bool.eq_iff_iff, beq_iff_eq, beq_iff_eq]
        exact hunique hxy hab
      rw [List.idxOf_cons, List.idxOf_cons, ih, hsame]

theorem Twin.placeOf_eq (h : p.Twin R q) (hab : R a b) : p.placeOf a = q.placeOf b := by
  rw [placeOf, placeOf, idxOf_rel h.unique h.paneIds hab]

/-- The panes at a place correspond, or there is none at it. -/
theorem Twin.names_idAt (h : p.Twin R q) (place : Int) :
    Names R p q (p.idAt place) (q.idAt place) := by
  obtain ⟨t, u, ht, hu, -⟩ := h.trees
  have hnone : Names R p q p.arena.nextPane q.arena.nextPane :=
    Or.inr ⟨nextPane_notMem ht, nextPane_notMem hu⟩
  unfold idAt
  split
  · have hids := h.paneIds
    rw [List.getD_eq_getElem?_getD, List.getD_eq_getElem?_getD]
    by_cases hlt : place.toNat < p.paneIds.length
    · have hlt' : place.toNat < q.paneIds.length := hids.length_eq ▸ hlt
      rw [List.getElem?_eq_getElem hlt, List.getElem?_eq_getElem hlt']
      exact Or.inl (hids.get hlt hlt')
    · rw [List.getElem?_eq_none (Nat.not_lt.mp hlt),
        List.getElem?_eq_none (hids.length_eq ▸ Nat.not_lt.mp hlt)]
      exact hnone
  · exact hnone

theorem twin_done (h : EndTwins R Same (x.on p) (y.on q)) :
    EndTwins R (fun S => Answer.Twin S) ((done x).on p) ((done y).on q) := by
  have hdone : ∀ z : Edit Profile Unit, done z = (fun _ => Answer.done) <$> z := by
    intro z
    rw [map_eq_pure_bind]
    rfl
  rw [hdone, hdone, Edit.on_map, Edit.on_map]
  exact h.map fun S _ _ _ _ _ _ _ => rfl

theorem twin_ids {x y : Edit Profile PaneId} (h : EndTwins R Ids (x.on p) (y.on q)) :
    EndTwins R (fun S => Answer.Twin S) ((Answer.id <$> x).on p) ((Answer.id <$> y).on q) := by
  rw [Edit.on_map, Edit.on_map]
  exact h.map fun S a b _ hab f g hfg => congrArg Answer.id (hfg a b hab)

theorem twin_yes {x y : Edit Profile Bool} (h : EndTwins R Same (x.on p) (y.on q)) :
    EndTwins R (fun S => Answer.Twin S) ((Answer.yes <$> x).on p) ((Answer.yes <$> y).on q) := by
  rw [Edit.on_map, Edit.on_map]
  exact h.map fun S x y _ hxy f g _ => congrArg Answer.yes hxy

theorem twin_tell (h : p.Twin R q) (hab : Names R p q a b) {f : Leaf → Profile → Answer}
    (hf : ∀ (path path' : TreePath) (i j : NodeIndex) (c d : Pane), p.arena.Holds path (.pane i c) →
      q.arena.Holds path' (.pane j d) → path.Twin R path' → c.Twin R d →
      (f ⟨i, c, path.parent⟩ p).Twin R (f ⟨j, d, path'.parent⟩ q))
    {x y : Profile → Except Refusal Answer} (hx : x p = (p.arena.leaf a).map fun l => f l p)
    (hy : y q = (q.arena.leaf b).map fun l => f l q) :
    EndTwins R (fun S => Answer.Twin S) ((tell x).on p) ((tell y).on q) := by
  refine endTwins_read h ?_
  rw [hx, hy]
  rcases h.leaf?_cases hab with ⟨ha, hb⟩ | ⟨path, path', i, j, c, d, rfl, rfl, hp, hq, hpath, hcd⟩
  · exact Or.inr ⟨.noPane a, .noPane b, by rw [Arena.leaf, ha]; rfl, by rw [Arena.leaf, hb]; rfl,
      rfl⟩
  · exact Or.inl ⟨_, _, by rw [Arena.leaf, hp.leaf?_eq]; rfl,
      by rw [Arena.leaf, hq.leaf?_eq]; rfl, hf path path' i j c d hp hq hpath hcd⟩

theorem twin_pane (h : p.Twin R q) (hab : Names R p q a b)
    {x y : Profile → Except Refusal Answer} (hx : x p = (p.pane a).map .pane)
    (hy : y q = (q.pane b).map .pane) :
    EndTwins R (fun S => Answer.Twin S) ((tell x).on p) ((tell y).on q) := by
  refine twin_tell h hab (f := fun l _ => .pane l.content) ?_ ?_ ?_
  · intro path path' i j c d hp hq hpath hcd f g hfg
    simp only [Answer.mapIds, hfg _ _ hcd.1, hcd.2]
  · rw [hx, pane]
    cases p.arena.leaf a <;> rfl
  · rw [hy, pane]
    cases q.arena.leaf b <;> rfl

theorem twin_siblingOf (h : p.Twin R q) (hab : Names R p q a b) :
    EndTwins R (fun S => Answer.Twin S) ((tell fun p => (p.siblingOf a).map .id?).on p)
      ((tell fun q => (q.siblingOf b).map .id?).on q) := by
  refine twin_tell h hab (f := fun l p => .id? (p.arena.siblingPane? l)) ?_ ?_ ?_
  · intro path path' i j c d hp hq hpath hcd f g hfg
    have hbeside := hpath.beside
    simp only [Answer.mapIds, hp.siblingPane?_eq, hq.siblingPane?_eq]
    generalize path.beside = x at hbeside ⊢
    generalize path'.beside = y at hbeside ⊢
    cases hbeside with
    | none => rfl
    | some hother => simp only [Option.map_some, hfg _ _ hother.1]
  · rw [siblingOf]
    cases p.arena.leaf a <;> rfl
  · rw [siblingOf]
    cases q.arena.leaf b <;> rfl

theorem map_mapIds_eq {α : Type} (id : α → PaneId) (set : PaneId → α → α) {xs ys : List α}
    (h : List.Forall₂ (fun x y => R (id x) (id y) ∧ ∀ k, set k x = set k y) xs ys)
    {f g : PaneId → PaneId} (hfg : ∀ a b, R a b → f a = g b) :
    (xs.map fun x => set (f (id x)) x) = ys.map fun y => set (g (id y)) y := by
  induction h with
  | nil => rfl
  | @cons x y _ _ hxy _ ih => rw [List.map_cons, List.map_cons, ih, hfg _ _ hxy.1, hxy.2]

theorem twin_call (h : p.Twin R q) {f g : PaneId → PaneId} (hfg : ∀ k, Names R p q (f k) (g k))
    (c : Call) :
    EndTwins R (fun S => Answer.Twin S) (p.call (c.mapIds f)) (q.call (c.mapIds g)) := by
  cases c with
  | split id direction ratio => exact twin_ids (twin_split h (hfg id) direction ratio)
  | merge a b => exact twin_done (twin_merge h (hfg a) (hfg b))
  | remove id => exact twin_ids (twin_remove h (hfg id))
  | focus id => exact twin_done (twin_focus h (hfg id))
  | focusAt point => exact twin_yes (twin_focusAt h point)
  | setViewport area =>
      refine twin_done (x := modify fun p => p.setViewport area)
        (y := modify fun q => q.setViewport area) ?_
      exact endTwins_ok (A := Same) (x := ()) (h.setViewport area) rfl
  | focusTowards side => exact twin_done (twin_focusTowards h side)
  | goto view => exact twin_done (twin_goto h view)
  | gotoOrFocus view => exact twin_done (twin_gotoOrFocus h view)
  | setView id view => exact twin_done (twin_setView h (hfg id) view)
  -- The other calls are questions, which leave the twins as they are.
  | siblingOf id => exact twin_siblingOf h (hfg id)
  | pane id => exact twin_pane h (hfg id) rfl rfl
  | focusedPane => exact twin_pane h (Or.inl h.focused) rfl rfl
  | panes =>
      refine endTwins_read h (Or.inl ⟨_, _, rfl, rfl, fun f g hfg => ?_⟩)
      refine congrArg Answer.panes (map_mapIds_eq Pane.id
        (fun k (c : Pane) => { c with id := k }) ?_ hfg)
      exact h.panes.imp fun c d hcd => ⟨hcd.1, fun k => congrArg (Pane.mk k) hcd.2⟩
  | flatten area =>
      refine endTwins_read h (Or.inl ⟨_, _, rfl, rfl, fun f g hfg => ?_⟩)
      refine congrArg Answer.tiles (map_mapIds_eq Tile.id
        (fun k (t : Tile) => { t with id := k }) ?_ hfg)
      refine (h.flatten area).imp fun s t hst => ⟨hst.1, fun k => ?_⟩
      obtain ⟨_, view, rect, focused⟩ := s
      obtain ⟨_, view', rect', focused'⟩ := t
      simpa [Tile.face] using hst.2
  | toLayout =>
      refine endTwins_read h (Or.inl ⟨_, _, rfl, rfl, fun f g _ => ?_⟩)
      exact congrArg Answer.layout h.toLayout_eq
  | roundTrip =>
      refine endTwins_read h (Or.inl ⟨_, _, rfl, rfl, fun f g _ => ?_⟩)
      rw [h.toLayout_eq, h.viewport]
      rfl

theorem outcome_eq {x y : Except Fault Answer} {f g : PaneId → PaneId}
    (h : Agree (Answer.Twin R) (x.mapError Fault.kind) (y.mapError Fault.kind))
    (hfg : ∀ a b, R a b → f a = g b) :
    (x.map (Answer.mapIds f)).mapError Fault.kind =
      (y.map (Answer.mapIds g)).mapError Fault.kind := by
  rw [mapError_map, mapError_map]
  generalize x.mapError Fault.kind = u at h ⊢
  generalize y.mapError Fault.kind = v at h ⊢
  cases h with
  | ok hab => exact congrArg Except.ok (hab hfg)
  | error e => rfl

/-- Two profiles that are twins, whichever ids correspond. -/
def Twins (p q : Profile) : Prop := ∃ R, p.Twin R q

theorem Twins.callAt (h : p.Twins q) (c : Call) :
    (p.callAt c).1 = (q.callAt c).1 ∧ (p.callAt c).2.Twins (q.callAt c).2 := by
  obtain ⟨R, h⟩ := h
  obtain ⟨S, -, htwin, hagree⟩ := twin_call h h.names_idAt c
  exact ⟨outcome_eq hagree fun _ _ => htwin.placeOf_eq, S, htwin⟩

theorem Twins.runAt (h : p.Twins q) (calls : List Call) :
    (p.runAt calls).Twins (q.runAt calls) := by
  induction calls generalizing p q with
  | nil => exact h
  | cons c calls ih => exact ih (h.callAt c).2

theorem Twins.toLayout_eq (h : p.Twins q) : p.toLayout = q.toLayout := by
  obtain ⟨R, h⟩ := h
  exact h.toLayout_eq

theorem Twins.faces_eq (h : p.Twins q) (area : Rect) :
    (p.flatten area).map Tile.face = (q.flatten area).map Tile.face := by
  obtain ⟨R, h⟩ := h
  rw [← List.forall₂_eq_eq_eq, List.forall₂_map_left_iff, List.forall₂_map_right_iff]
  exact (h.flatten area).imp fun _ _ hst => hst.2

/-- A profile and the one that is made anew from its layout are twins, the ids of the second being
the places of the first. -/
theorem twins_ofLayout (ht : p.arena.Holds [] t) (hfocused : p.focused ∈ p.paneIds) :
    p.Twins (ofLayout p.toLayout p.viewport) := by
  have hids : p.paneIds = t.tree.leaves.map Pane.id := paneIds_eq ht
  have hlt : ∀ k a, p.paneIds[k]? = some a → k < t.tree.leaves.length := by
    intro k a hk
    rw [hids] at hk
    simpa using (List.getElem?_eq_some_iff.mp hk).1
  -- The panes of a layout are numbered in their order, so the id of a copy is its place.
  refine ⟨fun a b => ∃ k : Nat, p.paneIds[k]? = some a ∧ b = (k : Int), ?_⟩
  exact {
    trees := by
      refine ⟨t, _, ht, Arena.holds_ofLayout p.toLayout, ?_⟩
      rw [Profile.toLayout_eq ht]
      refine t.twin_ofLayout 0 0 p.focused fun k content hk => ⟨k, ?_, Int.zero_add _⟩
      rw [hids, List.getElem?_map, hk]
      rfl
    viewport := rfl
    focused := by
      rw [hids] at hfocused
      obtain ⟨content, hmem, hid⟩ := List.mem_map.mp hfocused
      obtain ⟨k, hk⟩ := List.mem_iff_getElem?.mp hmem
      refine ⟨k, ?_, ((getElem?_leaves_iff ht ?_ hk p.viewport).mp hid).symm⟩
      · rw [hids, List.getElem?_map, hk, ← hid]
        rfl
      · rw [hids, ← hid]
        exact List.mem_map_of_mem hmem
    unique := by
      rintro a b a' b' ⟨k, hk, rfl⟩ ⟨k', hk', rfl⟩
      rw [hids] at hk hk'
      obtain ⟨hkl, rfl⟩ := List.getElem?_eq_some_iff.mp hk
      obtain ⟨hkl', rfl⟩ := List.getElem?_eq_some_iff.mp hk'
      rw [List.getElem_inj ht.nodup_leaves_id, Int.natCast_inj]
    lt := by
      rintro a b ⟨k, hk, rfl⟩
      refine ⟨lt_nextPane ht (List.mem_of_getElem? hk), ?_⟩
      refine lt_nextPane (Arena.holds_ofLayout p.toLayout) ?_
      rw [paneIds_eq (Arena.holds_ofLayout p.toLayout), ← IndexedTree.map_snd_entries,
        List.map_map]
      refine IndexedTree.mem_ids_ofLayout.mpr ⟨Int.natCast_nonneg k, ?_⟩
      rw [Int.zero_add, Profile.toLayout_eq ht, Tree.paneCount_layout]
      exact Int.ofNat_lt.mpr (hlt k a hk) }

/-- Run by places, a profile and the one that is made anew from its layout and its viewport cannot
be told apart: every call ends alike, and leaves the same layout and the same picture. -/
theorem runAt_ofLayout (hp : p.Reachable) (hfocused : p.focused ∈ p.paneIds) (calls : List Call)
    (c : Call) :
    let after := (p.runAt calls).callAt c
    let after' := ((ofLayout p.toLayout p.viewport).runAt calls).callAt c
    after.1 = after'.1 ∧ after.2.toLayout = after'.2.toLayout ∧
      ∀ area, (after.2.flatten area).map Tile.face = (after'.2.flatten area).map Tile.face := by
  obtain ⟨t, ht⟩ := hp.exists_holds
  obtain ⟨houtcome, htwins⟩ := ((twins_ofLayout ht hfocused).runAt calls).callAt c
  exact ⟨houtcome, htwins.toLayout_eq, htwins.faces_eq⟩

theorem runAt_ofLayout_large :
    let p := (ofLayout Layout.large).run [.split 1 .vertical Ratio.even.toValue, .remove 0]
    let q := ofLayout p.toLayout p.viewport
    p.Reachable ∧ p.paneIds = [1, 4, 2, 3] ∧ q.paneIds = [0, 1, 2, 3] ∧
      ((p.runAt [.focus 3]).callAt (.remove 2)).1.toOption = some (.id 2) ∧
      ((q.runAt [.focus 3]).callAt (.remove 2)).1.toOption = some (.id 2) := by
  intro p q
  have hp : p.Reachable := (reachable_ofLayout Layout.large defaultViewport).run _
  have hfocused : p.focused ∈ p.paneIds := by decide
  obtain ⟨houtcome, -, -⟩ := runAt_ofLayout hp hfocused [.focus 3] (.remove 2)
  have hremoved : ((p.runAt [.focus 3]).callAt (.remove 2)).1.toOption = some (.id 2) := by
    decide
  exact ⟨hp, by decide, by decide, hremoved, houtcome ▸ hremoved⟩

end Profile

end SplitScreen
