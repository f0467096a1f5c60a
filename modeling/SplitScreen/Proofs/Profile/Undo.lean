import SplitScreen.Proofs.Profile.Literal
import SplitScreen.Proofs.Profile.Outcome

namespace SplitScreen

namespace Arena

variable {a : Arena} {path : TreePath} {t : IndexedTree} {index : NodeIndex} {content : Pane}

/-- The split around the new pane of a leaf that is split. -/
def newSplit (a : Arena) (index : NodeIndex) (content : Pane) (direction : Direction)
    (ratio : Ratio) : OpenSplit :=
  ⟨a.nextNode, direction, ratio, false, .pane index content⟩

theorem Holds.split_new (h : a.Holds path (.pane index content)) (direction : Direction)
    (ratio : Ratio) :
    (a.split ⟨index, content, path.parent⟩ direction ratio).Holds
      (a.newSplit index content direction ratio :: path)
      (.pane (a.nextNode + 1) ⟨a.nextPane, content.view⟩) :=
  holds_cons_iff.mpr (h.split direction ratio)

theorem Holds.notMem_keys_of_le (h : a.Holds path t) {i : NodeIndex} (hi : a.nextNode ≤ i) :
    i ∉ a.nodes.keys := by
  rw [(holds_plug_iff.mp h).keys_nodes_perm.mem_iff, (path.indices_plug t).mem_iff]
  exact h.notMem_of_le hi

theorem keys_nodes_split {l : Leaf} {direction : Direction} {ratio : Ratio}
    (h : a.nextNode ∉ a.nodes.keys) (h' : a.nextNode + 1 ∉ a.nodes.keys) :
    (a.split l direction ratio).nodes.keys = a.nodes.keys ++ [a.nextNode, a.nextNode + 1] := by
  simp [Arena.split, addPane, addNode, Assoc.keys_insert, h, h']

theorem keys_nodes_withoutLeaf (a : Arena) (f : OpenSplit) (path : TreePath) (index : NodeIndex)
    (id : PaneId) :
    (a.withoutLeaf f path index id).nodes.keys =
      a.nodes.keys.filter fun i => decide (i ≠ f.index ∧ i ≠ index) := by
  simp [withoutLeaf, Assoc.keys_erase, List.filter_filter, Bool.and_comm]

theorem Holds.nextPane_notMem_keys (h : a.Holds path t) : a.nextPane ∉ a.leaves.keys := by
  have hwhole := holds_plug_iff.mp h
  have hnew := hwhole.nextPane_notMem
  rw [← IndexedTree.map_snd_entries, List.map_map] at hnew
  rw [hwhole.keys_leaves_perm.mem_iff]
  exact hnew

/-- The arena with more indices and ids given out, and else as it was. -/
def countedOn (a : Arena) (indices : Nat) (ids : Int) : Arena :=
  { a with nextNode := a.nextNode + indices, nextPane := a.nextPane + ids }

/-- Dropping the new pane of a leaf that was split gives back the arena, but for its counters. -/
theorem Holds.withoutLeaf_split (h : a.Holds path (.pane index content)) (direction : Direction)
    (ratio : Ratio) :
    (a.split ⟨index, content, path.parent⟩ direction ratio).withoutLeaf
        (a.newSplit index content direction ratio) path (a.nextNode + 1) a.nextPane =
      a.countedOn 2 1 := by
  have hrest := holds_plug_iff.mp (h.split_new direction ratio).collapse
  have hsplit : a.nextNode ∉ a.nodes.keys := h.notMem_keys_of_le (Nat.le_refl _)
  have hnew : a.nextNode + 1 ∉ a.nodes.keys := h.notMem_keys_of_le (Nat.le_succ _)
  have hnodes : a.nodes.keys.filter (fun i => decide (i ≠ a.nextNode ∧ i ≠ a.nextNode + 1)) =
      a.nodes.keys :=
    List.filter_eq_self.mpr fun i hi =>
      decide_eq_true ⟨ne_of_mem_of_not_mem hi hsplit, ne_of_mem_of_not_mem hi hnew⟩
  have hrestored := hrest.ext (holds_plug_iff.mp h) ?_ ?_
  · simpa [countedOn] using hrestored
  · rw [keys_nodes_withoutLeaf, keys_nodes_split hsplit hnew, List.filter_append]
    exact (congrArg (· ++ _) hnodes).trans (by simp [newSplit])
  · rw [leaves_withoutLeaf, leaves_split, Assoc.erase_insert h.nextPane_notMem_keys]

end Arena

namespace Profile

variable {p q : Profile} {path : TreePath} {index : NodeIndex} {content : Pane} {t : IndexedTree}

/-- What is told of a profile is told of its tree and its focus. -/
theorem told_alike (hp : p.arena.Holds [] t) (hq : q.arena.Holds [] t)
    (hfocused : q.focused = p.focused) :
    q.toLayout = p.toLayout ∧ q.paneIds = p.paneIds ∧ ∀ area, q.flatten area = p.flatten area := by
  refine ⟨?_, ?_, fun area => ?_⟩
  · rw [toLayout_eq hp, toLayout_eq hq, hfocused]
  · rw [paneIds_eq hp, paneIds_eq hq]
  · rw [flatten_eq hp, flatten_eq hq]
    unfold tileOf
    rw [hfocused]

def splitAt (p : Profile) (path : TreePath) (index : NodeIndex) (content : Pane)
    (direction : Direction) (ratio : Ratio) : Profile :=
  { p with arena := p.arena.split ⟨index, content, path.parent⟩ direction ratio }

section SplitAt

variable (h : p.arena.Holds path (.pane index content)) (direction : Direction) (ratio : Ratio)
include h

theorem holds_splitAt :
    (p.splitAt path index content direction ratio).arena.Holds
      (p.arena.newSplit index content direction ratio :: path)
      (.pane (p.arena.nextNode + 1) ⟨p.arena.nextPane, content.view⟩) :=
  h.split_new direction ratio

theorem siblingOf_splitAt :
    (p.splitAt path index content direction ratio).siblingOf content.id =
      .ok (some p.arena.nextPane) :=
  siblingOf_eq (holds_splitAt h direction ratio).flip

/-- The terminal is no obstacle, as the new pane shows what the old one does. -/
theorem on_merge_splitAt (hfocused : p.focused ≠ p.arena.nextPane) :
    (merge content.id p.arena.nextPane).on (p.splitAt path index content direction ratio) =
      (.ok (), { p with arena := p.arena.countedOn 2 1 }) := by
  have hother : (p.arena.newSplit index content direction ratio).other = .pane index content := rfl
  have hmerge := on_merge (holds_splitAt h direction ratio) hother
  have hview : ¬ (content.view.isTerminal && !content.view.isTerminal) = true := by simp
  have hkept : ¬ (p.splitAt path index content direction ratio).focused = p.arena.nextPane :=
    hfocused
  rw [if_neg hview, if_neg hkept] at hmerge
  rw [hmerge, withoutLeaf]
  simp only [splitAt, h.withoutLeaf_split]

theorem on_remove_splitAt (hfocused : p.focused ≠ p.arena.nextPane)
    (hview : content.view.isTerminal = false) :
    (remove p.arena.nextPane).on (p.splitAt path index content direction ratio) =
      (.ok p.focused, { p with arena := p.arena.countedOn 2 1 }) := by
  have hremove := on_remove (holds_splitAt h direction ratio) hview
  have hbeside : TreePath.beside (p.arena.newSplit index content direction ratio :: path) =
      some content := rfl
  rw [hbeside] at hremove
  simp only [on_merge_splitAt h direction ratio hfocused] at hremove
  exact hremove

end SplitAt

/-- A split is undone by merging the two panes, whatever the first shows, and by closing the new one
when it is no terminal: every node, the leaf map, the root, the focus and the viewport are what they
were, and only the counters have gone on. -/
theorem merge_undoes_split (hp : p.Reachable) (hfocused : p.focused ∈ p.paneIds) {id : PaneId}
    (hid : id ∈ p.paneIds) (direction : Direction) {value : Value} (hratio : value.IsRatio) :
    ∃ new q r, (split id direction value).on p = (.ok new, q) ∧
      q.focused = p.focused ∧ q.siblingOf id = .ok (some new) ∧
      (merge id new).on q = (.ok (), r) ∧
      (¬ p.ShowsTerminal id → (remove new).on q = (.ok p.focused, r)) ∧
      r = { p with arena := p.arena.countedOn 2 1 } ∧
      r.toLayout = p.toLayout ∧ r.paneIds = p.paneIds ∧
      ∀ area, r.flatten area = p.flatten area := by
  obtain ⟨t, ht⟩ := hp.exists_holds
  obtain ⟨path, index, view, h⟩ := exists_path_of_mem_paneIds ht hid
  obtain ⟨ratio, hratio⟩ := Value.isRatio_iff.mp hratio
  have hne : p.focused ≠ p.arena.nextPane := Int.ne_of_lt (lt_nextPane ht hfocused)
  have hsplit := on_split h direction value
  rw [hratio] at hsplit
  have hmerge := on_merge_splitAt h direction ratio hne
  refine ⟨_, p.splitAt path index ⟨id, view⟩ direction ratio, _, hsplit, rfl,
    siblingOf_splitAt h direction ratio, hmerge, fun hview => ?_, rfl, ?_⟩
  · rw [showsTerminal_iff h, Bool.not_eq_true] at hview
    exact on_remove_splitAt h direction ratio hne hview
  · have hr : (p.arena.countedOn 2 1).Holds path (.pane index ⟨id, view⟩) :=
      h.withoutLeaf_split direction ratio ▸ (h.split_new direction ratio).collapse
    exact told_alike (Arena.holds_plug_iff.mp h) (Arena.holds_plug_iff.mp hr) rfl

theorem merge_undoes_split_large :
    let p := (ofLayout Layout.large).run [.remove 0]
    p.Reachable ∧ p.ShowsTerminal 1 ∧
      ∃ q r, (split 1 .vertical (.list [.int 3, .int 2])).on p = (.ok 4, q) ∧
        q.siblingOf 1 = .ok (some 4) ∧ (merge 1 4).on q = (.ok (), r) ∧ r.paneIds = [1, 2, 3] ∧
        r.arena.nodes = p.arena.nodes := by
  intro p
  have hp : p.Reachable := (reachable_ofLayout Layout.large defaultViewport).run _
  have hids : p.paneIds = [1, 2, 3] := by decide
  have hfocused : p.focused ∈ p.paneIds := by decide
  have hid : (1 : PaneId) ∈ p.paneIds := by rw [hids]; decide
  obtain ⟨new, q, r, hsplit, -, hsibling, hmerge, -, rfl, -, hleft, -⟩ :=
    merge_undoes_split hp hfocused hid .vertical ⟨3, 2, by decide, by decide, Or.inl rfl⟩
  have hanswer : ((split 1 .vertical (.list [.int 3, .int 2])).on p).1.toOption = some 4 := by
    decide
  rw [hsplit] at hanswer
  obtain rfl : new = 4 := Option.some.inj hanswer
  exact ⟨hp, by decide, q, _, hsplit, hsibling, hmerge, hleft.trans hids, rfl⟩

end Profile

end SplitScreen
