import SplitScreen.Proofs.Profile.Refinement

namespace SplitScreen

def Pane.SomeTerminal (panes : List Pane) : Prop := ∃ pane ∈ panes, pane.view.isTerminal = true

namespace Profile

/-- What a call may do to the list of panes. -/
inductive Call.Rewrites (c : Call) : List Pane → List Pane → Prop
  | same (panes : List Pane) : Rewrites c panes panes
  | shown (before after : List Pane) (content : Pane) {view : View} (h : c.Writes view) :
    Rewrites c (before ++ content :: after) (before ++ ⟨content.id, view⟩ :: after)
  | doubled (before after : List Pane) (content : Pane) (new : PaneId) :
    Rewrites c (before ++ content :: after) (before ++ content :: ⟨new, content.view⟩ :: after)
  | discarded (before after : List Pane) (content : Pane)
    (h : content.view.isTerminal = true → Pane.SomeTerminal (before ++ after)) :
    Rewrites c (before ++ content :: after) (before ++ after)

variable {p q : Profile} {c : Call} {outcome : Except Fault Answer} {t : IndexedTree}

theorem panes_eq_leaves (ht : p.arena.Holds [] t) : p.panes = t.tree.leaves := ht.panes_eq

/-- Around what is plugged in stand the same panes, whatever it is. -/
theorem exists_leaves_plug (path : TreePath) :
    ∃ before after, ∀ s : IndexedTree,
      (path.plug s).tree.leaves = before ++ s.tree.leaves ++ after := by
  induction path with
  | nil => exact ⟨[], [], fun s => by simp [TreePath.plug]⟩
  | cons f path ih =>
      obtain ⟨before, after, hplug⟩ := ih
      cases hside : f.lacksFirst with
      | true =>
          refine ⟨before, f.other.tree.leaves ++ after, fun s => ?_⟩
          simp [TreePath.plug, hplug, OpenSplit.fill, hside, IndexedTree.tree, Tree.leaves]
      | false =>
          refine ⟨before ++ f.other.tree.leaves, after, fun s => ?_⟩
          simp [TreePath.plug, hplug, OpenSplit.fill, hside, IndexedTree.tree, Tree.leaves]

theorem mem_panes_of_leaf? (ht : p.arena.Holds [] t) {id : PaneId} {l : Leaf}
    (hl : p.arena.leaf? id = some l) : l.content ∈ p.panes ∧ l.content.id = id := by
  obtain ⟨path, -, hid, -, hpath⟩ := ht.exists_eq hl
  exact ⟨mem_panes hpath, hid⟩

theorem exists_panes_collapse (ht : p.arena.Holds [] t) {id : PaneId} {l : Leaf}
    (hl : p.arena.leaf? id = some l) {sibling : NodeIndex} {arena : Arena}
    (hcollapse : p.arena.collapse? l = some (sibling, arena)) :
    ∃ before after, l.content.id = id ∧ p.panes = before ++ l.content :: after ∧
      arena.panes = before ++ after := by
  obtain ⟨f, path, rfl, hid, -, -, -, hq⟩ := ht.exists_collapse hl hcollapse
  obtain ⟨before, after, hs, hu⟩ := (dropped_plug f path l.index l.content).leaves_eq
  refine ⟨before, after, hid, ?_, ?_⟩
  · rw [panes_eq_leaves ht, hs]
  · rw [(Arena.holds_plug_iff.mp hq).panes_eq, hu]

theorem Step.discards_remove {id : PaneId} {answer : Answer}
    (h : p.Step (.remove id) (.ok answer) q) (ht : p.arena.Holds [] t) :
    ∃ before after view, p.panes = before ++ ⟨id, view⟩ :: after ∧ q.panes = before ++ after ∧
      view.isTerminal = false := by
  cases h with
  | stays _ hc => exact absurd trivial hc
  | focuses _ hc => exact absurd trivial hc
  | shows _ hc => exact absurd trivial hc
  | absorbs hl _ hcollapse hview =>
      obtain ⟨before, after, rfl, hp, hq⟩ := exists_panes_collapse ht hl hcollapse
      exact ⟨before, after, _, hp, hq, hview⟩
  | closes hl hcollapse _ hview =>
      obtain ⟨before, after, rfl, hp, hq⟩ := exists_panes_collapse ht hl hcollapse
      exact ⟨before, after, _, hp, hq, hview⟩

/-- A merge that is answered discards the second of the two panes. If that shows the terminal, so
does the first, which is kept. -/
theorem Step.discards_merge {a b : PaneId} {answer : Answer}
    (h : p.Step (.merge a b) (.ok answer) q) (ht : p.arena.Holds [] t) :
    ∃ before after kept view, p.panes = before ++ ⟨b, view⟩ :: after ∧
      q.panes = before ++ after ∧ ⟨a, kept⟩ ∈ before ++ after ∧
      (view.isTerminal = true → kept.isTerminal = true) := by
  cases h with
  | stays _ hc => exact absurd trivial hc
  | focuses _ hc => exact absurd trivial hc
  | shows _ hc => exact absurd trivial hc
  | @merges _ _ kept dropped sibling arena ha hb hne _ hcollapse hview =>
      obtain ⟨before, after, rfl, hp, hq⟩ := exists_panes_collapse ht hb hcollapse
      obtain ⟨hmem, rfl⟩ := mem_panes_of_leaf? ht ha
      refine ⟨before, after, kept.content.view, dropped.content.view, hp, hq, ?_, hview⟩
      rw [hp] at hmem
      rcases List.mem_append.mp hmem with hmem | hmem
      · exact List.mem_append_left _ hmem
      · rcases List.mem_cons.mp hmem with hsame | hmem
        · exact absurd (congrArg Pane.id hsame) hne
        · exact List.mem_append_right _ hmem

theorem Step.rewrites (h : p.Step c outcome q) (ht : p.arena.Holds [] t) :
    c.Rewrites p.panes q.panes := by
  have hdrop : ∀ {id : PaneId} {l : Leaf} {sibling : NodeIndex} {arena : Arena},
      p.arena.leaf? id = some l → p.arena.collapse? l = some (sibling, arena) →
      l.content.view.isTerminal = false → c.Rewrites p.panes arena.panes := by
    intro id l sibling arena hl hcollapse hview
    obtain ⟨before, after, -, hp, hq⟩ := exists_panes_collapse ht hl hcollapse
    rw [hp, hq]
    apply Call.Rewrites.discarded
    rw [hview]
    exact nofun
  cases h with
  | fails | stays | views | focuses => exact .same _
  | @shows _ id l view hc hl hwrites =>
      obtain ⟨path, rfl, rfl, hq⟩ := ht.exists_setView hl view
      obtain ⟨before, after, hplug⟩ := exists_leaves_plug path
      rw [panes_eq_leaves ht, panes_eq_leaves hq, hplug, hplug]
      simpa [IndexedTree.tree, Tree.leaves] using
        Call.Rewrites.shown before after l.content hwrites
  | @splits id l value ratio direction hl hratio =>
      obtain ⟨path, rfl, rfl, hq⟩ := ht.exists_split hl direction ratio
      obtain ⟨before, after, hplug⟩ := exists_leaves_plug path
      rw [panes_eq_leaves ht, panes_eq_leaves hq, hplug, hplug]
      simpa [Arena.splitLeaf, IndexedTree.tree, Tree.leaves] using
        Call.Rewrites.doubled before after l.content p.arena.nextPane
  | merges ha hb hne hparent hcollapse hview =>
      obtain ⟨before, after, kept, view, hp, hq, hmem, hkept⟩ :=
        (Step.merges ha hb hne hparent hcollapse hview).discards_merge ht
      rw [hp, hq]
      apply Call.Rewrites.discarded
      intro hterminal
      exact ⟨_, hmem, hkept hterminal⟩
  | absorbs hl _ hcollapse hview => exact hdrop hl hcollapse hview
  | closes hl hcollapse _ hview => exact hdrop hl hcollapse hview
  | loses hl hcollapse _ _ hview => exact hdrop hl hcollapse hview

variable {xs ys : List Pane}

/-- The last terminal is not taken by a call that writes no other view. -/
theorem Call.Rewrites.someTerminal (h : c.Rewrites xs ys)
    (hc : ∀ view, c.Writes view → view.isTerminal = true) (hxs : Pane.SomeTerminal xs) :
    Pane.SomeTerminal ys := by
  obtain ⟨pane, hmem, hpane⟩ := hxs
  cases h with
  | same => exact ⟨pane, hmem, hpane⟩
  | @shown before after content view hwrites =>
      exact ⟨⟨content.id, view⟩, by simp, hc view hwrites⟩
  | doubled before after content new =>
      refine ⟨pane, ?_, hpane⟩
      simp only [List.mem_append, List.mem_cons] at hmem ⊢
      rcases hmem with hmem | hmem | hmem
      · exact Or.inl hmem
      · exact Or.inr (Or.inl hmem)
      · exact Or.inr (Or.inr (Or.inr hmem))
  | discarded before after content hkept =>
      rcases List.mem_append.mp hmem with hmem | hmem
      · exact ⟨pane, List.mem_append_left _ hmem, hpane⟩
      · rcases List.mem_cons.mp hmem with rfl | hmem
        · exact hkept hpane
        · exact ⟨pane, List.mem_append_right _ hmem, hpane⟩

/-- What holds of all views and of the views that a call writes holds of all views after it. -/
theorem Call.Rewrites.forall_view {P : View → Prop} (h : c.Rewrites xs ys)
    (hc : ∀ view, c.Writes view → P view) (hxs : ∀ pane ∈ xs, P pane.view) :
    ∀ pane ∈ ys, P pane.view := by
  intro pane hmem
  cases h with
  | same => exact hxs pane hmem
  | @shown before after content view hwrites =>
      rcases List.mem_append.mp hmem with hmem | hmem
      · exact hxs pane (List.mem_append_left _ hmem)
      · rcases List.mem_cons.mp hmem with rfl | hmem
        · exact hc view hwrites
        · exact hxs pane (List.mem_append_right _ (List.mem_cons_of_mem _ hmem))
  | doubled before after content new =>
      have hcontent : P content.view := hxs content (by simp)
      simp only [List.mem_append, List.mem_cons] at hmem
      rcases hmem with hmem | rfl | rfl | hmem
      · exact hxs pane (List.mem_append_left _ hmem)
      · exact hcontent
      · exact hcontent
      · exact hxs pane (List.mem_append_right _ (List.mem_cons_of_mem _ hmem))
  | discarded before after content _ =>
      apply hxs
      rcases List.mem_append.mp hmem with hmem | hmem
      · exact List.mem_append_left _ hmem
      · exact List.mem_append_right _ (List.mem_cons_of_mem _ hmem)

theorem panes_run {P : List Pane → Prop} {K : Call → Prop}
    (hkeep : ∀ {c : Call} {xs ys : List Pane}, K c → c.Rewrites xs ys → P xs → P ys)
    (ht : p.arena.Holds [] t) {calls : List Call} (hcalls : ∀ c ∈ calls, K c) (hp : P p.panes) :
    P (p.run calls).panes := by
  induction calls generalizing p t with
  | nil => exact hp
  | cons c calls ih =>
      obtain ⟨u, hu, -⟩ := (step_call c).refines ht
      apply ih hu
      · intro d hd
        exact hcalls d (List.mem_cons_of_mem _ hd)
      · exact hkeep (hcalls c List.mem_cons_self) ((step_call c).rewrites ht) hp

theorem someTerminal_run (ht : p.arena.Holds [] t) {calls : List Call}
    (hcalls : ∀ c ∈ calls, ∀ view, c.Writes view → view.isTerminal = true)
    (hp : Pane.SomeTerminal p.panes) : Pane.SomeTerminal (p.run calls).panes :=
  panes_run (fun hc hrewrites hxs => hrewrites.someTerminal hc hxs) ht hcalls hp

theorem forall_view_run {P : View → Prop} (ht : p.arena.Holds [] t) {calls : List Call}
    (hcalls : ∀ c ∈ calls, ∀ view, c.Writes view → P view) (hp : ∀ pane ∈ p.panes, P pane.view) :
    ∀ pane ∈ (p.run calls).panes, P pane.view :=
  panes_run (P := fun panes => ∀ pane ∈ panes, P pane.view)
    (fun hc hrewrites hxs => hrewrites.forall_view hc hxs) ht hcalls hp

end Profile

end SplitScreen
