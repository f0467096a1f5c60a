import SplitScreen.Proofs.FrontEnd
import SplitScreen.Proofs.Profile.Layout
import SplitScreen.Proofs.Profile.Panes

namespace SplitScreen

theorem IndexedTree.map_view_ofLayout (index : NodeIndex) (id : PaneId) (l : Layout Ratio) :
    (ofLayout index id l).tree.leaves.map Pane.view = l.views := by
  induction l generalizing index id with
  | pane view focused => rfl
  | split direction ratio first second ih₁ ih₂ =>
      simp only [ofLayout, tree, Tree.leaves, List.map_append, ih₁, ih₂, Layout.views]

theorem Tree.views_layout (t : Tree Pane) (focused : PaneId) :
    (t.layout focused).views = t.leaves.map Pane.view := by
  induction t with
  | leaf content => rfl
  | split direction ratio first second ih₁ ih₂ =>
      rw [layout, Layout.views, ih₁, ih₂, leaves, List.map_append]

namespace Profile

variable {p : Profile} {t : IndexedTree}

theorem view_mem_of_mem_ofLayout {l : Layout Ratio} {viewport : Rect} {pane : Pane}
    (h : pane ∈ (ofLayout l viewport).panes) : pane.view ∈ l.views := by
  rw [panes_eq_leaves (Arena.holds_ofLayout l)] at h
  rw [← IndexedTree.map_view_ofLayout 0 0 l]
  exact List.mem_map_of_mem h

theorem views_toLayout (ht : p.arena.Holds [] t) : p.toLayout.views = p.panes.map Pane.view := by
  rw [toLayout_eq ht, Tree.views_layout, panes_eq_leaves ht]

end Profile

namespace Screen

variable {s t : Screen} {P : View → Prop}

def AllViews (P : View → Prop) (s : Screen) : Prop :=
  ∀ (name : Text) (p : Profile), s.profiles.find? name = some p → ∀ pane ∈ p.panes, P pane.view

theorem AllViews.addProfile (hs : s.AllViews P) (name : Text) {l : Layout Ratio}
    (hl : ∀ v ∈ l.views, P v) : (s.addProfile name (Profile.ofLayout l)).AllViews P := by
  intro other p hp pane hpane
  rw [Screen.addProfile, Assoc.find?_insert] at hp
  split at hp
  · obtain rfl := Option.some.inj hp
    exact hl _ (Profile.view_mem_of_mem_ofLayout hpane)
  · exact hs other p hp pane hpane

theorem allViews_ofProfiles {profiles : Assoc Text (Layout Ratio)} {name : Text}
    (h : ofProfiles profiles name = .ok s) (hkind : ∀ k, P (.kind k))
    (hviews : ∀ entry ∈ profiles, ∀ v ∈ entry.2.views, P v) : s.AllViews P := by
  apply ofProfiles_induction h
  · have hbare : (⟨[], smallName, false, false, none, Profile.defaultViewport⟩ : Screen).AllViews P :=
      nofun
    refine (hbare.addProfile smallName ?_).addProfile largeName ?_
    · simp [Layout.small, Layout.views, hkind]
    · simp [Layout.large, Layout.views, hkind]
  · intro u entry hentry hu
    exact hu.addProfile entry.1 (hviews entry hentry)
  · intro u hu hshowing
    rw [(eq_of_showing hshowing).2]
    exact hu

theorem Becomes.allViews (h : s.Becomes t) (hvalid : s.Valid) (hkind : ∀ k, P (.kind k))
    (hs : s.AllViews P) : t.AllViews P := by
  intro name p hp
  obtain ⟨calls, hcalls, hfind⟩ := h.exists_calls name
  rw [hfind] at hp
  obtain ⟨q, hq, rfl⟩ := Option.map_eq_some_iff.mp hp
  obtain ⟨tree, htree⟩ := (hvalid.profile hq).exists_holds
  apply Profile.forall_view_run htree _ (hs name q hq)
  intro c hc view hview
  rw [hcalls c hc view hview]
  exact hkind _

end Screen

end SplitScreen
