import SplitScreen.Proofs.Arena.Edits
import SplitScreen.Proofs.Arena.Planted
import SplitScreen.Proofs.Arena.Reading
import SplitScreen.Proofs.Profile.Step

namespace SplitScreen

namespace Profile

/-- A profile without indices: its plain tree and its focus. -/
structure Plain where
  tree : Tree Pane
  focused : PaneId

/-- What a call that ends so is to do. -/
def Call.Spec (s t : Plain) : Call → Except Fault Answer → Prop
  | .split id direction value, .ok answer =>
    ∃ ratio view new, Ratio.ofValue? value = some ratio ∧ answer = .id new ∧
      new ∉ s.tree.leaves.map Pane.id ∧ t.focused = s.focused ∧
      Tree.Replaced (.leaf ⟨id, view⟩)
        (.split direction ratio (.leaf ⟨id, view⟩) (.leaf ⟨new, view⟩)) s.tree t.tree
  | .merge a b, .ok _ =>
    (∃ view view', Tree.Dropped ⟨b, view⟩ (.leaf ⟨a, view'⟩) s.tree t.tree) ∧
      t.focused = if s.focused = b then a else s.focused
  | .remove id, .ok answer =>
    ∃ view other, Tree.Dropped ⟨id, view⟩ other s.tree t.tree ∧ answer = .id t.focused ∧
      if s.focused = id then t.focused ∈ other.leaves.map Pane.id else t.focused = s.focused
  | .remove id, .error .overflow =>
    ∃ view other, Tree.Dropped ⟨id, view⟩ other s.tree t.tree ∧ s.focused = id ∧ t.focused = id
  | .split .., .error _ | .merge .., .error _ | .remove _, .error _ => t = s
  | _, _ => t.tree.map Pane.id = s.tree.map Pane.id

/-- The profiles that calls lead to from the profile of a literal. -/
def Reachable (p : Profile) : Prop :=
  ∃ l viewport start calls, ofLiteral l viewport = .ok start ∧ p = start.run calls

variable {p q : Profile} {c : Call} {outcome : Except Fault Answer} {t : IndexedTree}
  {path : TreePath}

theorem Call.spec_of_not_restructures {s t : Plain} (hc : ¬ c.Restructures)
    (h : t.tree.map Pane.id = s.tree.map Pane.id) : c.Spec s t outcome := by
  cases c with
  | split | merge | remove => exact absurd trivial hc
  | _ => exact h

/-- A fault before anything is written meets every specification, but for that of a removal, which
overflows only after the pane is gone. -/
theorem Call.spec_error {s : Plain} {fault : Fault} (h : fault = .overflow → ¬ c.Restructures) :
    c.Spec s s (.error fault) := by
  cases c with
  | split | merge => exact rfl
  | remove id =>
      cases fault with
      | overflow => exact absurd trivial (h rfl)
      | refused | longInteger | focusLost | badMarkup => exact rfl
  | _ => exact rfl

/-- The heirs are all the panes below the node, in their order. -/
theorem keys_heirs (h : p.arena.Holds path t) :
    Assoc.keys (p.heirs t.index) = t.tree.leaves.map Pane.id := by
  have hplaced : ∀ content ∈ t.tree.leaves,
      content.id ∈ Assoc.keys (p.arena.place p.viewport) := by
    intro content hcontent
    rw [(Arena.holds_plug_iff.mp h).keys_place]
    exact List.mem_map_of_mem (path.mem_leaves_plug hcontent)
  rw [heirs, h.panesFrom_eq]
  generalize t.tree.leaves = contents at hplaced ⊢
  induction contents with
  | nil => rfl
  | cons content contents ih =>
      obtain ⟨hhead, hrest⟩ := List.forall_mem_cons.mp hplaced
      obtain ⟨rect, hrect⟩ := Option.isSome_iff_exists.mp ((Assoc.mem_keys_iff_find? _ _).mp hhead)
      rw [List.filterMap_cons_some (by rw [hrect]; rfl), List.map_cons, ← ih hrest]
      rfl

theorem heirs_ne_nil (h : p.arena.Holds path t) : p.heirs t.index ≠ [] := by
  intro hnil
  have hkeys := keys_heirs h
  rw [hnil] at hkeys
  exact t.tree.leaves_ne_nil (List.map_eq_nil_iff.mp hkeys.symm)

theorem map_id_plug (path : TreePath) {s u : IndexedTree}
    (h : s.tree.map Pane.id = u.tree.map Pane.id) :
    (path.plug s).tree.map Pane.id = (path.plug u).tree.map Pane.id := by
  induction path generalizing s u with
  | nil => exact h
  | cons f path ih =>
      refine ih ?_
      unfold OpenSplit.fill
      split
      · simp only [IndexedTree.tree, Tree.map, h]
      · simp only [IndexedTree.tree, Tree.map, h]

theorem dropped_plug (f : OpenSplit) (path : TreePath) (index : NodeIndex) (content : Pane) :
    Tree.Dropped content f.other.tree (TreePath.plug (f :: path) (.pane index content)).tree
      (path.plug f.other).tree := by
  refine ⟨f.direction, f.ratio, ?_⟩
  rw [TreePath.plug]
  unfold OpenSplit.fill
  split
  · exact Or.inl (path.replaced_plug .here)
  · exact Or.inr (path.replaced_plug .here)

/-- A step does to the plain tree what is specified, and the arena holds the tree that is left. -/
theorem Step.refines (h : p.Step c outcome q) (ht : p.arena.Holds [] t) :
    ∃ u, q.arena.Holds [] u ∧ c.Spec ⟨t.tree, p.focused⟩ ⟨u.tree, q.focused⟩ outcome := by
  cases h with
  | fails c fault hfault => exact ⟨t, ht, c.spec_error hfault⟩
  | stays answer hc => exact ⟨t, ht, Call.spec_of_not_restructures hc rfl⟩
  | views area => exact ⟨t, ht, rfl⟩
  | focuses answer hc hid => exact ⟨t, ht, Call.spec_of_not_restructures hc rfl⟩
  | @shows _ id l view hc hl =>
      obtain ⟨path, rfl, rfl, hq⟩ := ht.exists_setView hl view
      exact ⟨_, hq, Call.spec_of_not_restructures hc (map_id_plug path rfl)⟩
  | @splits id l value ratio direction hl hratio =>
      obtain ⟨path, rfl, rfl, hq⟩ := ht.exists_split hl direction ratio
      refine ⟨_, hq, ratio, l.content.view, p.arena.nextPane, hratio, rfl, ht.nextPane_notMem,
        rfl, ?_⟩
      exact path.replaced_plug .here
  | @merges a b kept dropped sibling arena ha hb hne hparent hcollapse =>
      obtain ⟨f, path, rfl, rfl, hdropped, -, hleaf, hq⟩ := ht.exists_collapse hb hcollapse
      obtain ⟨i, view, hother⟩ :=
        hleaf.other_eq_of_parent_eq ha (hparent.trans hdropped) hne
      refine ⟨_, Arena.holds_plug_iff.mp hq, ⟨dropped.content.view, view, ?_⟩, rfl⟩
      have hdrop := dropped_plug f path dropped.index dropped.content
      rw [hother] at hdrop ⊢
      exact hdrop
  | @absorbs id heir l sibling arena hl hheir hcollapse =>
      obtain ⟨f, path, rfl, rfl, hparent, -, hleaf, hq⟩ := ht.exists_collapse hl hcollapse
      have hl' : l = ⟨l.index, l.content, some f.index⟩ := by rw [← hparent]
      rw [hl'] at hheir
      obtain ⟨i, view, hother⟩ := hleaf.other_eq_of_siblingPane? hheir
      refine ⟨_, Arena.holds_plug_iff.mp hq, l.content.view, f.other.tree,
        dropped_plug f path l.index l.content, rfl, ?_⟩
      by_cases hfocused : p.focused = l.content.id
      · simp [hfocused, hother, IndexedTree.tree, Tree.leaves]
      · simp [hfocused]
  | @closes id focused l sibling arena hl hcollapse hfocused =>
      obtain ⟨f, path, rfl, rfl, -, rfl, -, hq⟩ := ht.exists_collapse hl hcollapse
      refine ⟨_, Arena.holds_plug_iff.mp hq, l.content.view, f.other.tree,
        dropped_plug f path l.index l.content, rfl, ?_⟩
      rw [hq.panesFrom_eq] at hfocused
      exact hfocused
  | @loses id l sibling arena fault hl hcollapse hfocused hfault =>
      obtain ⟨f, path, rfl, rfl, -, rfl, -, hq⟩ := ht.exists_collapse hl hcollapse
      rcases hfault with rfl | ⟨-, hnil⟩
      · exact ⟨_, Arena.holds_plug_iff.mp hq, l.content.view, f.other.tree,
          dropped_plug f path l.index l.content, hfocused, hfocused⟩
      · exact absurd hnil (heirs_ne_nil (p := { p with arena := arena }) hq)

def insertAfter (id new : PaneId) : List PaneId → List PaneId
  | [] => []
  | k :: ids => if k = id then k :: new :: ids else k :: insertAfter id new ids

theorem insertAfter_append {id : PaneId} (new : PaneId) {before : List PaneId}
    (h : id ∉ before) (after : List PaneId) :
    insertAfter id new (before ++ id :: after) = before ++ id :: new :: after := by
  induction before with
  | nil => simp [insertAfter]
  | cons k before ih =>
      rw [List.mem_cons, not_or] at h
      obtain ⟨hk, hbefore⟩ := h
      simp [insertAfter, Ne.symm hk, ih hbefore]

theorem mem_insertAfter {id new k : PaneId} {ids : List PaneId} (h : k ∈ ids) :
    k ∈ insertAfter id new ids := by
  induction ids with
  | nil => cases h
  | cons j ids ih =>
      rw [insertAfter]
      split <;> grind

/-- The ids after a call, from its outcome and the ids before. -/
def Call.track : Call → Except Fault Answer → List PaneId → List PaneId
  | .split id _ _, .ok (.id new), ids => insertAfter id new ids
  | .merge _ b, .ok _, ids => ids.erase b
  | .remove id, .ok _, ids => ids.erase id
  | .remove id, .error .overflow, ids => ids.erase id
  | _, _, ids => ids

def track (p : Profile) : List Call → List PaneId → List PaneId
  | [], ids => ids
  | c :: calls, ids => (p.call c).2.track calls (c.track (p.call c).1 ids)

theorem notMem_of_nodup {id : PaneId} {before after : List PaneId}
    (h : (before ++ id :: after).Nodup) : id ∉ before :=
  fun hmem => (List.nodup_cons.mp (List.perm_middle.nodup_iff.mp h)).1 (List.mem_append_left _ hmem)

theorem ids_eq_of_dropped {content : Pane} {other s t : Tree Pane}
    (h : Tree.Dropped content other s t) (hnodup : (s.leaves.map Pane.id).Nodup) :
    t.leaves.map Pane.id = (s.leaves.map Pane.id).erase content.id := by
  obtain ⟨before, after, hs, ht⟩ := h.leaves_eq
  rw [hs, List.map_append, List.map_cons] at hnodup ⊢
  rw [ht, List.erase_append_right _ (notMem_of_nodup hnodup), List.erase_cons_head,
    List.map_append]

theorem Call.Spec.ids_eq {s t : Plain} (h : c.Spec s t outcome)
    (hnodup : (s.tree.leaves.map Pane.id).Nodup) :
    t.tree.leaves.map Pane.id = c.track outcome (s.tree.leaves.map Pane.id) := by
  have hmap : t.tree.map Pane.id = s.tree.map Pane.id →
      t.tree.leaves.map Pane.id = s.tree.leaves.map Pane.id := by
    intro hmap
    rw [← Tree.leaves_map, ← Tree.leaves_map, hmap]
  cases c with
  | split id direction value =>
      cases outcome with
      | error fault =>
          obtain rfl : t = s := h
          rfl
      | ok answer =>
          obtain ⟨ratio, view, new, -, rfl, -, -, hreplaced⟩ := h
          obtain ⟨before, after, hs, ht⟩ := hreplaced.leaves_eq
          simp only [Tree.leaves, List.append_assoc, List.cons_append, List.nil_append] at hs ht
          rw [hs, List.map_append, List.map_cons] at hnodup ⊢
          rw [ht, Call.track, insertAfter_append new (notMem_of_nodup hnodup)]
          simp
  | merge a b =>
      cases outcome with
      | error fault =>
          obtain rfl : t = s := h
          rfl
      | ok answer =>
          obtain ⟨⟨view, view', hdropped⟩, -⟩ := h
          exact ids_eq_of_dropped hdropped hnodup
  | remove id =>
      cases outcome with
      | error fault =>
          cases fault with
          | overflow =>
              obtain ⟨view, other, hdropped, -⟩ := h
              exact ids_eq_of_dropped hdropped hnodup
          | refused | longInteger | focusLost | badMarkup =>
              obtain rfl : t = s := h
              rfl
      | ok answer =>
          obtain ⟨view, other, hdropped, -⟩ := h
          exact ids_eq_of_dropped hdropped hnodup
  | _ => exact hmap h

theorem paneIds_eq (ht : p.arena.Holds [] t) : p.paneIds = t.tree.leaves.map Pane.id := by
  rw [paneIds, panes, ht.panes_eq]

theorem mem_panes {index : NodeIndex} {content : Pane}
    (h : p.arena.Holds path (.pane index content)) : content ∈ p.panes := by
  rw [panes, (Arena.holds_plug_iff.mp h).panes_eq]
  exact path.mem_leaves_plug (List.mem_singleton.mpr rfl)

theorem lt_nextPane (ht : p.arena.Holds [] t) {id : PaneId} (h : id ∈ p.paneIds) :
    id < p.arena.nextPane := by
  rw [paneIds_eq ht, ← t.map_snd_entries, List.map_map] at h
  obtain ⟨entry, hentry, rfl⟩ := List.mem_map.mp h
  exact ht.id_lt (List.mem_append_left _ hentry)

theorem nextPane_notMem (ht : p.arena.Holds [] t) : p.arena.nextPane ∉ p.paneIds := by
  rw [paneIds_eq ht]
  exact ht.nextPane_notMem

theorem paneIds_run (ht : p.arena.Holds [] t) (calls : List Call) :
    (p.run calls).paneIds = p.track calls p.paneIds := by
  induction calls generalizing p t with
  | nil => rfl
  | cons c calls ih =>
      obtain ⟨u, hu, hspec⟩ := (step_call c).refines ht
      have hids : (p.call c).2.paneIds = c.track (p.call c).1 p.paneIds := by
        rw [paneIds_eq hu, paneIds_eq ht]
        exact hspec.ids_eq ht.nodup_leaves_id
      rw [track, ← hids]
      exact ih hu

theorem exists_holds_run (ht : p.arena.Holds [] t) (calls : List Call) :
    ∃ u, (p.run calls).arena.Holds [] u := by
  induction calls generalizing p t with
  | nil => exact ⟨t, ht⟩
  | cons c calls ih =>
      obtain ⟨u, hu, -⟩ := (step_call c).refines ht
      exact ih hu

theorem ofLiteral_eq_ok_iff {l : Layout Value} {viewport : Rect} :
    ofLiteral l viewport = .ok p ↔ ∃ l', l.check = .ok l' ∧ ofLayout l' viewport = p := by
  unfold ofLiteral
  split
  · next l' hl => simp [hl]
  · next hl => simp [hl]

theorem exists_holds_ofLiteral {l : Layout Value} {viewport : Rect}
    (h : ofLiteral l viewport = .ok p) : ∃ t, p.arena.Holds [] t := by
  obtain ⟨l', -, rfl⟩ := ofLiteral_eq_ok_iff.mp h
  exact ⟨_, Arena.holds_ofLayout l'⟩

theorem Reachable.exists_holds (hp : p.Reachable) : ∃ t, p.arena.Holds [] t := by
  obtain ⟨l, viewport, start, calls, hstart, rfl⟩ := hp
  obtain ⟨t, ht⟩ := exists_holds_ofLiteral hstart
  exact exists_holds_run ht calls

theorem run_append (p : Profile) (calls more : List Call) :
    p.run (calls ++ more) = (p.run calls).run more :=
  List.foldl_append ..

theorem Reachable.run (hp : p.Reachable) (calls : List Call) : (p.run calls).Reachable := by
  obtain ⟨l, viewport, start, before, hstart, rfl⟩ := hp
  exact ⟨l, viewport, start, before ++ calls, hstart, (run_append start before calls).symm⟩

theorem reachable_ofLayout (l : Layout Ratio) (viewport : Rect) :
    (ofLayout l viewport).Reachable :=
  ⟨l.literal, viewport, ofLayout l viewport, [], by simp [ofLiteral], rfl⟩

/-- On a reachable profile every call does to the plain tree what is specified, and the ids of the
panes along a run follow from the outcomes of its calls. -/
theorem call_refines (hp : p.Reachable) :
    (∀ c : Call, ∃ s t, p.arena.tree? = some s ∧ (p.call c).2.arena.tree? = some t ∧
      (s.leaves.map Pane.id).Nodup ∧
      c.Spec ⟨s, p.focused⟩ ⟨t, (p.call c).2.focused⟩ (p.call c).1) ∧
    ∀ calls : List Call, (p.run calls).paneIds = p.track calls p.paneIds := by
  obtain ⟨t, ht⟩ := hp.exists_holds
  constructor
  · intro c
    obtain ⟨u, hu, hspec⟩ := (step_call c).refines ht
    exact ⟨t.tree, u.tree, ht.tree?_eq, hu.tree?_eq, ht.nodup_leaves_id, hspec⟩
  · exact paneIds_run ht

theorem call_refines_large :
    (ofLayout Layout.large).Reachable ∧
      (∃ s t, Call.Spec ⟨s, 1⟩ ⟨t, 1⟩ (.split 1 .vertical Ratio.even.toValue) (.ok (.id 4))) ∧
      ((ofLayout Layout.large).run [.split 1 .vertical Ratio.even.toValue, .remove 0]).paneIds =
        [1, 4, 2, 3] := by
  have hp := reachable_ofLayout Layout.large defaultViewport
  obtain ⟨hcall, hrun⟩ := call_refines hp
  obtain ⟨s, t, -, -, -, hspec⟩ := hcall (.split 1 .vertical Ratio.even.toValue)
  exact ⟨hp, ⟨s, t, hspec⟩, (hrun _).trans rfl⟩

end Profile

end SplitScreen
