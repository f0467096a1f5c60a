import SplitScreen.Proofs.Profile.Flatten
import SplitScreen.Proofs.Profile.Outcome

namespace SplitScreen

namespace Profile

/-- The distance from where a pane was drawn to where some pane is drawn afterwards has no double. -/
def OutOfReach (p q : Profile) (id : PaneId) : Prop :=
  ∃ closed ∈ p.flatten p.viewport, closed.id = id ∧
    ∃ heir ∈ q.flatten q.viewport, closed.rect.distance heir.rect = .error {}

/-- Who has the focus when a pane is closed: one of the panes beside it if it had the focus, and else
the pane that has it. -/
def Inherits (p : Profile) (id : PaneId) (beside : Tree Pane) (heir : PaneId) : Prop :=
  if p.focused = id then heir ∈ beside.leaves.map Pane.id else heir = p.focused

/-- Who has the focus when a pane is closed, by where it was drawn and where its heirs are: the
nearest of them if it had the focus, and else the pane that has it. -/
def Succeeds (p : Profile) (id : PaneId) (origin : Rect) (heirs : List (PaneId × Rect))
    (heir : PaneId) : Prop :=
  if p.focused = id then IsNearest origin heirs heir else heir = p.focused

variable {p q : Profile} {f : OpenSplit} {path : TreePath} {index : NodeIndex} {content : Pane}
  {t u : IndexedTree} {heir : PaneId} {rect : Rect}

theorem exists_tile_of_place (ht : p.arena.Holds [] t) {area rect : Rect} {id : PaneId}
    (h : Assoc.find? id (p.arena.place area) = some rect) :
    ∃ tile ∈ p.flatten area, tile.id = id ∧ tile.rect = rect := by
  have hmem := Assoc.mem_of_find? h
  rw [ht.place_eq] at hmem
  obtain ⟨placed, hplaced, heq⟩ := List.mem_map.mp hmem
  obtain ⟨rfl, rfl⟩ := Prod.mk.inj heq
  rw [flatten_eq ht]
  exact ⟨p.tileOf placed, List.mem_map_of_mem hplaced, rfl, rfl⟩

theorem find?_of_mem_heirs {subtree : NodeIndex} {heir : PaneId × Rect}
    (h : heir ∈ p.heirs subtree) :
    Assoc.find? heir.1 (p.arena.place p.viewport) = some heir.2 := by
  obtain ⟨pane, -, hfind⟩ := List.mem_filterMap.mp h
  obtain ⟨rect, hrect, rfl⟩ := Option.map_eq_some_iff.mp hfind
  exact hrect

theorem Inherits.mem_paneIds (h : p.Inherits content.id f.other.tree heir)
    (hpath : p.arena.Holds (f :: path) (.pane index content)) (hfocused : p.focused ∈ p.paneIds) :
    heir ∈ (p.withoutLeaf f path index content.id).paneIds := by
  have hq : (p.withoutLeaf f path index content.id).arena.Holds path f.other := hpath.collapse
  unfold Inherits at h
  split at h
  · obtain ⟨pane, hpane, rfl⟩ := List.mem_map.mp h
    rw [paneIds_eq (Arena.holds_plug_iff.mp hq)]
    exact List.mem_map_of_mem ((dropped_plug f path index content).mem_leaves hpane)
  · next hne =>
      rw [h, paneIds_withoutLeaf hpath]
      exact (List.mem_erase_of_ne hne).mpr hfocused

def removeRefusal? (p : Profile) (id : PaneId) : Option Refusal :=
  if id ∉ p.paneIds then some (.noPane id)
  else if p.ShowsTerminal id then some .terminalClosed
  else if p.paneIds = [id] then some .lastPaneClosed
  else none

/-- The focus goes to the nearest of the heirs, unless one of them is out of reach. -/
theorem inherit_ends (h : p.arena.Holds path t) (origin : Rect) :
    (∃ heir, (inherit origin t.index).on p = (.ok (), { p with focused := heir }) ∧
        IsNearest origin (p.heirs t.index) heir) ∨
      (inherit origin t.index).on p = (.error .overflow, p) ∧
        ∃ heir ∈ p.heirs t.index, origin.distance heir.2 = .error {} := by
  rw [on_inherit]
  rcases hnearest : nearest? origin (p.heirs t.index) with e | nearest
  · exact Or.inr ⟨rfl, nearest?_eq_error hnearest⟩
  · rcases nearest?_isNearest hnearest with ⟨hnil, -⟩ | ⟨heir, rfl, hheir⟩
    · exact absurd hnil (heirs_ne_nil h)
    · exact Or.inl ⟨heir, rfl, hheir⟩

theorem close_ends (h : p.arena.Holds (f :: path) (.pane index content))
    (hrect : Assoc.find? content.id (p.arena.place p.viewport) = some rect) :
    let q := p.withoutLeaf f path index content.id
    (∃ heir, (close content.id ⟨index, content, some f.index⟩).on p =
        (.ok (), { q with focused := heir }) ∧
        p.Succeeds content.id rect (q.heirs f.other.index) heir) ∨
      (close content.id ⟨index, content, some f.index⟩).on p = (.error .overflow, q) ∧
        p.focused = content.id ∧
        ∃ heir ∈ q.heirs f.other.index, rect.distance heir.2 = .error {} := by
  intro q
  have hq : q.arena.Holds path f.other := h.collapse
  rw [on_close h hrect]
  unfold Succeeds
  by_cases hfocused : p.focused = content.id
  · simp only [if_pos hfocused]
    rcases inherit_ends hq rect with hheir | ⟨hinherit, hfar⟩
    · exact Or.inl hheir
    · exact Or.inr ⟨hinherit, hfocused, hfar⟩
  · simp only [if_neg hfocused]
    exact Or.inl ⟨p.focused, rfl, rfl⟩

/-- A pane with a split around it that does not show the terminal goes, and its focus goes to the
nearest of the panes beside it. -/
theorem remove_succeeds (h : p.arena.Holds (f :: path) (.pane index content))
    (hview : content.view.isTerminal = false)
    (hrect : Assoc.find? content.id (p.arena.place p.viewport) = some rect) :
    let q := p.withoutLeaf f path index content.id
    (∃ heir, (remove content.id).on p = (.ok heir, { q with focused := heir }) ∧
        p.Succeeds content.id rect (q.heirs f.other.index) heir) ∨
      (remove content.id).on p = (.error .overflow, q) ∧ p.focused = content.id ∧
        ∃ heir ∈ q.heirs f.other.index, rect.distance heir.2 = .error {} := by
  intro q
  have hq : q.arena.Holds path f.other := h.collapse
  have hremove := on_remove h hview
  cases hbeside : TreePath.beside (f :: path) with
  | some other =>
      obtain ⟨_, _, i, hpath, hother⟩ := TreePath.beside_eq_some_iff.mp hbeside
      obtain ⟨rfl, rfl⟩ := List.cons.inj hpath
      simp only [hbeside, on_merge h hother, hview, Bool.false_and, Bool.false_eq_true, if_false]
        at hremove
      refine Or.inl ⟨_, hremove, ?_⟩
      have hkeys : Assoc.keys (q.heirs f.other.index) = [other.id] := by
        rw [keys_heirs hq, hother]
        rfl
      unfold Succeeds
      by_cases hfocused : p.focused = content.id
      · simp only [if_pos hfocused]
        exact isNearest_of_keys hkeys
      · simp only [if_neg hfocused]
  | none =>
      simp only [hbeside] at hremove
      rcases close_ends h hrect with ⟨heir, hclose, hheir⟩ | ⟨hclose, hlost⟩
      · rw [hclose] at hremove
        exact Or.inl ⟨heir, hremove, hheir⟩
      · rw [hclose] at hremove
        exact Or.inr ⟨hremove, hlost⟩

theorem Succeeds.inherits (h : p.Succeeds content.id rect (q.heirs t.index) heir)
    (hq : q.arena.Holds path t) : p.Inherits content.id t.tree heir := by
  unfold Succeeds at h
  unfold Inherits
  split at h
  · next hfocused =>
      rw [if_pos hfocused, ← keys_heirs hq]
      exact h.mem_keys
  · next hfocused => rwa [if_neg hfocused]

theorem outOfReach_of_far (h : p.arena.Holds [] t) (hq : q.arena.Holds path u)
    (hrect : Assoc.find? content.id (p.arena.place p.viewport) = some rect)
    (hfar : ∃ heir ∈ q.heirs u.index, rect.distance heir.2 = .error {}) :
    p.OutOfReach q content.id := by
  obtain ⟨heir, hheir, hfar⟩ := hfar
  obtain ⟨closed, hclosed, hid, rfl⟩ := exists_tile_of_place h hrect
  obtain ⟨tile, htile, -, hplace⟩ :=
    exists_tile_of_place (Arena.holds_plug_iff.mp hq) (find?_of_mem_heirs hheir)
  exact ⟨closed, hclosed, hid, tile, htile, hplace ▸ hfar⟩

theorem remove_ends (h : p.arena.Holds (f :: path) (.pane index content))
    (hview : content.view.isTerminal = false) :
    let q := p.withoutLeaf f path index content.id
    (∃ heir, (remove content.id).on p = (.ok heir, { q with focused := heir }) ∧
        p.Inherits content.id f.other.tree heir) ∨
      (remove content.id).on p = (.error .overflow, q) ∧ p.focused = content.id ∧
        p.OutOfReach q content.id := by
  intro q
  have hq : q.arena.Holds path f.other := h.collapse
  obtain ⟨rect, hrect⟩ := exists_rect h p.viewport
  rcases remove_succeeds h hview hrect with ⟨heir, hremove, hheir⟩ | ⟨hremove, hfocused, hfar⟩
  · exact Or.inl ⟨heir, hremove, hheir.inherits hq⟩
  · exact Or.inr ⟨hremove, hfocused,
      outOfReach_of_far (Arena.holds_plug_iff.mp h) hq hrect hfar⟩

theorem paneIds_eq_singleton_iff (h : p.arena.Holds path (.pane index content)) :
    p.paneIds = [content.id] ↔ path = [] := by
  have ht := Arena.holds_plug_iff.mp h
  have hids : p.paneIds.Perm (content.id :: path.entries.map fun entry => entry.2.id) := by
    rw [paneIds_eq ht, ← IndexedTree.map_snd_entries, List.map_map]
    exact (path.entries_plug _).map _
  constructor
  · intro hsingle
    cases path with
    | nil => rfl
    | cons f path =>
        rw [hsingle, List.perm_cons, List.nil_perm, List.map_eq_nil_iff, TreePath.entries,
          List.append_eq_nil_iff] at hids
        have hleaves := f.other.map_snd_entries
        rw [hids.1] at hleaves
        exact absurd hleaves.symm f.other.tree.leaves_ne_nil
  · rintro rfl
    exact List.perm_singleton.mp hids

theorem refused_or_exists_path (ht : p.arena.Holds [] t) (id : PaneId) :
    (∃ r, p.removeRefusal? id = some r ∧ (remove id).on p = (.error (.refused r), p)) ∨
      p.removeRefusal? id = none ∧
        ∃ (f : OpenSplit) (path : TreePath) (index : NodeIndex) (view : View),
          p.arena.Holds (f :: path) (.pane index ⟨id, view⟩) ∧ view.isTerminal = false := by
  unfold removeRefusal?
  by_cases hid : id ∈ p.paneIds
  · obtain ⟨path, index, view, h⟩ := exists_path_of_mem_paneIds ht hid
    have hterminal : p.ShowsTerminal id ↔ view.isTerminal = true := showsTerminal_iff h
    have hlast : p.paneIds = [id] ↔ path = [] := paneIds_eq_singleton_iff h
    rw [if_neg (not_not_intro hid)]
    cases hview : view.isTerminal with
    | true =>
        rw [if_pos (hterminal.mpr hview)]
        have hremove := on_remove_terminal h hview
        exact Or.inl ⟨.terminalClosed, rfl, hremove⟩
    | false =>
        rw [hview] at hterminal
        rw [if_neg (mt hterminal.mp Bool.false_ne_true)]
        cases path with
        | nil =>
            rw [if_pos (hlast.mpr rfl)]
            have hremove := on_remove_last h hview
            exact Or.inl ⟨.lastPaneClosed, rfl, hremove⟩
        | cons f path =>
            rw [if_neg (mt hlast.mp nofun)]
            exact Or.inr ⟨rfl, f, path, index, view, h, hview⟩
  · rw [if_pos hid]
    exact Or.inl ⟨.noPane id, rfl, on_findLeaf_bind ht hid _⟩

theorem remove_cases (ht : p.arena.Holds [] t) (hfocused : p.focused ∈ p.paneIds) (id : PaneId) :
    (∃ heir q, (remove id).on p = (.ok heir, q) ∧ q.focused = heir ∧ heir ∈ q.paneIds) ∨
      (∃ r, (remove id).on p = (.error (.refused r), p)) ∨
      ∃ q, (remove id).on p = (.error .overflow, q) ∧ p.focused = id ∧ q.focused = id ∧
        q.paneIds = p.paneIds.erase id ∧ p.OutOfReach q id := by
  rcases refused_or_exists_path ht id with ⟨r, -, h⟩ | ⟨-, f, path, index, view, h, hview⟩
  · exact Or.inr (Or.inl ⟨r, h⟩)
  · rcases remove_ends h hview with ⟨heir, hremove, hheir⟩ | ⟨hremove, hclosed, hfar⟩
    · exact Or.inl ⟨heir, _, hremove, rfl, hheir.mem_paneIds h hfocused⟩
    · exact Or.inr (Or.inr ⟨_, hremove, hclosed, hclosed, paneIds_withoutLeaf h, hfar⟩)

/-- A removal that is answered leaves the focus on a pane, and one that is refused leaves everything
as it was. It fails in no other way, unless it overflows: then the pane that is gone had the focus
and still has it, and some pane is out of its reach. -/
theorem remove_leaves_focus (hp : p.Reachable) (hfocused : p.focused ∈ p.paneIds) (id : PaneId) :
    (∃ heir q, (remove id).on p = (.ok heir, q) ∧ q.focused = heir ∧ heir ∈ q.paneIds) ∨
      (∃ r, (remove id).on p = (.error (.refused r), p)) ∨
      ∃ q, (remove id).on p = (.error .overflow, q) ∧ p.focused = id ∧ q.focused = id ∧
        q.paneIds = p.paneIds.erase id ∧ p.OutOfReach q id := by
  obtain ⟨t, ht⟩ := hp.exists_holds
  exact remove_cases ht hfocused id

theorem remove_leaves_focus_large :
    let p := (ofLayout Layout.large).run [.split 2 .vertical Ratio.even.toValue, .focus 2]
    p.Reachable ∧ p.focused = 2 ∧ p.paneIds = [0, 1, 2, 4, 3] ∧
      ∃ q, (remove 2).on p = (.ok 4, q) ∧ q.focused = 4 ∧ 4 ∈ q.paneIds := by
  intro p
  have hp : p.Reachable := (reachable_ofLayout Layout.large defaultViewport).run _
  have hfocused : p.focused = 2 := by decide
  have hids : p.paneIds = [0, 1, 2, 4, 3] := by decide
  have hanswer : ((remove 2).on p).1.toOption = some 4 := by decide
  refine ⟨hp, hfocused, hids, ?_⟩
  rcases remove_leaves_focus hp (by rw [hfocused, hids]; decide) 2 with
    ⟨heir, q, h, hheir, hmem⟩ | ⟨r, h⟩ | ⟨q, h, -⟩
  · rw [h] at hanswer
    obtain rfl : heir = 4 := Option.some.inj hanswer
    exact ⟨q, h, hheir, hmem⟩
  · rw [h] at hanswer
    cases hanswer
  · rw [h] at hanswer
    cases hanswer

/-- In a viewport whose width has no double, the focus stays on a pane that is gone. -/
theorem remove_strands_focus :
    let p := ofLayout (.split .horizontal .even (.pane (.kind .source) true)
      (.split .vertical .even (.pane (.kind .terminal) false) (.pane (.kind .trace) false)))
      ⟨0, 0, 10 ^ 400, 24⟩
    p.Reachable ∧ p.focused = 0 ∧ p.paneIds = [0, 1, 2] ∧
      ∃ q, (remove 0).on p = (.error .overflow, q) ∧ q.focused = 0 ∧ q.paneIds = [1, 2] := by
  intro p
  have hp : p.Reachable := reachable_ofLayout _ _
  have hfocused : p.focused = 0 := by decide
  have hids : p.paneIds = [0, 1, 2] := by decide
  have hleft : ((remove 0).on p).2.paneIds = [1, 2] := by decide +kernel
  obtain ⟨t, ht⟩ := hp.exists_holds
  refine ⟨hp, hfocused, hids, ?_⟩
  rcases remove_cases ht (by rw [hfocused, hids]; decide) 0 with
    ⟨heir, q, h, -⟩ | ⟨r, h⟩ | ⟨q, h, -, hkept, -⟩
  · have hanswer : ((remove 0).on p).1.toOption = none := by decide +kernel
    rw [h] at hanswer
    cases hanswer
  · rw [h, hids] at hleft
    cases hleft
  · rw [h] at hleft
    exact ⟨q, h, hkept, hleft⟩

/-- The panes beside a leaf stay where they are in the tree when it goes, and they are the heirs. -/
theorem keys_heirs_withoutLeaf (h : p.arena.Holds (f :: path) (.pane index content)) :
    Assoc.keys ((p.withoutLeaf f path index content.id).heirs f.other.index) =
      (p.arena.panesFrom f.other.index).map Pane.id := by
  have hq : (p.withoutLeaf f path index content.id).arena.Holds path f.other := h.collapse
  rw [keys_heirs hq, h.flip.panesFrom_eq]

/-- Only the sibling of a pane is beside it if it is a pane as well. -/
theorem panesFrom_of_siblingOf (h : p.arena.Holds (f :: path) (.pane index content)) {b : PaneId}
    (hsibling : p.siblingOf content.id = .ok (some b)) :
    (p.arena.panesFrom f.other.index).map Pane.id = [b] := by
  rw [siblingOf_eq h, Except.ok.injEq] at hsibling
  obtain ⟨other, hbeside, rfl⟩ := Option.map_eq_some_iff.mp hsibling
  obtain ⟨_, _, i, hpath, hother⟩ := TreePath.beside_eq_some_iff.mp hbeside
  obtain ⟨rfl, rfl⟩ := List.cons.inj hpath
  rw [h.flip.panesFrom_eq, hother]
  rfl

theorem remove_ne_overflow (hp : p.Reachable) {id : PaneId}
    (hrect : Assoc.find? id (p.arena.place p.viewport) = some rect)
    (hnear : ∀ collapsed ∈ (p.arena.leaf? id).bind p.arena.collapse?,
      ∀ heir ∈ heirs { p with arena := collapsed.2 } collapsed.1,
        (rect.distance heir.2).isOk = true) :
    ((remove id).on p).1 ≠ .error .overflow := by
  obtain ⟨t, ht⟩ := hp.exists_holds
  rcases refused_or_exists_path ht id with ⟨r, -, hremove⟩ | ⟨-, f, path, index, view, h, hview⟩
  · rw [hremove]
    nofun
  · rcases remove_succeeds h hview hrect with ⟨heir, hremove, -⟩ | ⟨-, -, heir, hheir, hfar⟩
    · rw [hremove]
      nofun
    · have hcollapsed : (f.other.index, p.arena.withoutLeaf f path index id) ∈
          (p.arena.leaf? id).bind p.arena.collapse? := by
        rw [h.leaf?_eq]
        exact h.collapse?_eq
      have hok := hnear _ hcollapsed heir hheir
      rw [hfar] at hok
      cases hok

/-- A pane that may be removed goes, unless the removal overflows. If it had the focus, the focus is
then on one of the panes beside it, on the nearest by where it was before and where they are
afterwards, and on the first of several as near; a sibling pane is the only one beside it. If another
pane had the focus, it still has it. -/
theorem remove_focuses_nearest (hp : p.Reachable) {id : PaneId} (hid : id ∈ p.paneIds)
    (hview : ¬ p.ShowsTerminal id) (hlast : p.paneIds ≠ [id])
    (hok : ((remove id).on p).1 ≠ .error .overflow) :
    ∃ q l sibling rect, (remove id).on p = (.ok q.focused, q) ∧ q.viewport = p.viewport ∧
      p.arena.leaf? id = some l ∧ p.arena.siblingIndex? l = some sibling ∧
      Assoc.find? id (p.arena.place p.viewport) = some rect ∧
      (p.focused = id →
        Assoc.keys (q.heirs sibling) = (p.arena.panesFrom sibling).map Pane.id ∧
        q.focused ∈ (p.arena.panesFrom sibling).map Pane.id ∧
        IsNearest rect (q.heirs sibling) q.focused ∧
        ∀ b, p.siblingOf id = .ok (some b) → q.focused = b) ∧
      (p.focused ≠ id → q.focused = p.focused) := by
  obtain ⟨t, ht⟩ := hp.exists_holds
  rcases refused_or_exists_path ht id with ⟨r, hrefusal, -⟩ | ⟨-, f, path, index, view, h, hview'⟩
  · rw [removeRefusal?, if_neg (not_not_intro hid), if_neg hview, if_neg hlast] at hrefusal
    cases hrefusal
  obtain ⟨rect, hrect⟩ := exists_rect h p.viewport
  rcases remove_succeeds h hview' hrect with ⟨heir, hremove, hheir⟩ | ⟨hremove, -⟩
  · refine ⟨{ p.withoutLeaf f path index id with focused := heir }, _, _, rect, hremove, rfl,
      h.leaf?_eq, h.siblingIndex?_eq, hrect, fun hfocused => ?_, fun hne => ?_⟩
    · have hkeys := keys_heirs_withoutLeaf h
      rw [Succeeds, if_pos hfocused] at hheir
      have hmem := hkeys ▸ hheir.mem_keys
      refine ⟨hkeys, hmem, hheir, fun b hb => ?_⟩
      rw [panesFrom_of_siblingOf h hb] at hmem
      exact List.mem_singleton.mp hmem
    · rwa [Succeeds, if_neg hne] at hheir
  · exact absurd (congrArg Prod.fst hremove) hok

theorem remove_focuses_nearest_subtree :
    let p := ofLayout (.split .horizontal .even (.pane (.kind .source) true)
      (.split .vertical .even (.pane (.kind .terminal) false) (.pane (.kind .trace) false)))
    p.Reachable ∧ 0 ∈ p.paneIds ∧ ¬ p.ShowsTerminal 0 ∧ p.paneIds ≠ [0] ∧
      ((remove 0).on p).1 ≠ .error .overflow ∧
      ∃ q sibling, (remove 0).on p = (.ok q.focused, q) ∧ q.focused ∈ [1, 2] ∧
        Assoc.keys (q.heirs sibling) = [1, 2] ∧
        IsNearest ⟨0, 0, 40, 24⟩ (q.heirs sibling) q.focused := by
  intro p
  have hp : p.Reachable := reachable_ofLayout _ _
  have hrect : Assoc.find? 0 (p.arena.place p.viewport) = some ⟨0, 0, 40, 24⟩ := by
    decide
  have hok : ((remove 0).on p).1 ≠ .error .overflow :=
    remove_ne_overflow hp hrect (by decide)
  obtain ⟨q, l, sibling, rect, hremove, -, hl, hsibling, hrect', hheir, -⟩ :=
    remove_focuses_nearest hp (by decide) (by decide) (by decide) hok
  obtain rfl := Option.some.inj (hrect.symm.trans hrect')
  have hleaf : p.arena.leaf? 0 = some ⟨1, ⟨0, .kind .source⟩, some 0⟩ := by decide
  obtain rfl := Option.some.inj (hleaf.symm.trans hl)
  have hbeside : p.arena.siblingIndex? ⟨1, ⟨0, .kind .source⟩, some 0⟩ = some 2 := by
    decide
  obtain rfl := Option.some.inj (hbeside.symm.trans hsibling)
  have hids : (p.arena.panesFrom 2).map Pane.id = [1, 2] := by decide
  obtain ⟨hkeys, hmem, hnearest, -⟩ := hheir (by decide)
  exact ⟨hp, by decide, by decide, by decide, hok, q, 2, hremove, hids ▸ hmem, hkeys.trans hids,
    hnearest⟩

end Profile

end SplitScreen
