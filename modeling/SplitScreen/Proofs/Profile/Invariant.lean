import SplitScreen.Proofs.Arena.WellFormed
import SplitScreen.Proofs.Profile.Refinement

namespace SplitScreen

namespace Profile

/-- No removal of the run ends in an overflow, after which the focus is on the closed pane. -/
def Steady (p : Profile) : List Call → Prop
  | [] => True
  | c :: calls =>
    (∀ id, c = .remove id → (p.call c).1 ≠ .error .overflow) ∧ (p.call c).2.Steady calls

variable {p q : Profile} {c : Call} {outcome : Except Fault Answer} {t : IndexedTree}

theorem Finds.mem_paneIds {id : PaneId} (h : p.Finds id) (ht : p.arena.Holds [] t) :
    id ∈ p.paneIds := by
  rcases h with hleaf | hplace | hmem
  · obtain ⟨l, hl⟩ := Option.isSome_iff_exists.mp hleaf
    obtain ⟨path, -, rfl, -, hpath⟩ := ht.exists_eq hl
    exact List.mem_map_of_mem (mem_panes hpath)
  · rw [ht.keys_place] at hplace
    rw [paneIds_eq ht]
    exact hplace
  · exact hmem

theorem Call.Spec.focused_mem {s t : Plain} (h : c.Spec s t outcome) (hc : c.Restructures)
    (hsteady : ∀ id, c = .remove id → outcome ≠ .error .overflow)
    (hnodup : (s.tree.leaves.map Pane.id).Nodup)
    (hs : s.focused ∈ s.tree.leaves.map Pane.id) : t.focused ∈ t.tree.leaves.map Pane.id := by
  have hids := h.ids_eq hnodup
  cases c with
  | split id direction value =>
      cases outcome with
      | error fault =>
          obtain rfl : t = s := h
          exact hs
      | ok answer =>
          obtain ⟨ratio, view, new, -, rfl, -, hfocused, -⟩ := h
          rw [hids, hfocused]
          exact mem_insertAfter hs
  | merge a b =>
      cases outcome with
      | error fault =>
          obtain rfl : t = s := h
          exact hs
      | ok answer =>
          obtain ⟨⟨view, view', hdropped⟩, hfocused⟩ := h
          rw [hfocused]
          split
          · exact List.mem_map.mpr ⟨⟨a, view'⟩, hdropped.mem_leaves (by simp [Tree.leaves]), rfl⟩
          · next hne =>
              rw [hids]
              exact (List.mem_erase_of_ne hne).mpr hs
  | remove id =>
      cases outcome with
      | error fault =>
          cases fault with
          | overflow => exact absurd rfl (hsteady id rfl)
          | refused | longInteger | focusLost | badMarkup =>
              obtain rfl : t = s := h
              exact hs
      | ok answer =>
          obtain ⟨view, other, hdropped, -, hfocused⟩ := h
          split at hfocused
          · obtain ⟨pane, hpane, hid⟩ := List.mem_map.mp hfocused
            exact List.mem_map.mpr ⟨pane, hdropped.mem_leaves hpane, hid⟩
          · next hne =>
              rw [hids, hfocused]
              exact (List.mem_erase_of_ne hne).mpr hs
  | _ => exact False.elim hc

theorem Step.focused_mem (h : p.Step c outcome q) (ht : p.arena.Holds [] t)
    (hsteady : ∀ id, c = .remove id → outcome ≠ .error .overflow)
    (hfocused : p.focused ∈ p.paneIds) : q.focused ∈ q.paneIds := by
  obtain ⟨u, hu, hspec⟩ := h.refines ht
  by_cases hc : c.Restructures
  · rw [paneIds_eq hu]
    rw [paneIds_eq ht] at hfocused
    exact hspec.focused_mem hc hsteady ht.nodup_leaves_id hfocused
  · have hids : q.paneIds = p.paneIds := by
      rw [paneIds_eq hu, paneIds_eq ht, hspec.ids_eq ht.nodup_leaves_id]
      cases c with
      | split | merge | remove => exact absurd trivial hc
      | _ => rfl
    rw [hids]
    cases h with
    | fails | stays | views | shows => exact hfocused
    | focuses answer hc hid => exact hid.mem_paneIds ht
    | splits | merges | absorbs | closes | loses => exact absurd trivial hc

theorem focused_mem_run (ht : p.arena.Holds [] t) (hfocused : p.focused ∈ p.paneIds)
    {calls : List Call} (hsteady : p.Steady calls) :
    (p.run calls).focused ∈ (p.run calls).paneIds := by
  induction calls generalizing p t with
  | nil => exact hfocused
  | cons c calls ih =>
      obtain ⟨u, hu, -⟩ := (step_call c).refines ht
      exact ih hu ((step_call c).focused_mem ht hsteady.1 hfocused) hsteady.2

theorem length_marks (l : Layout Ratio) : l.marks.length = l.paneCount := by
  induction l with
  | pane view focused => rfl
  | split direction ratio first second ih₁ ih₂ =>
      rw [Layout.marks, List.length_append, ih₁, ih₂]
      rfl

theorem focused_mem_ofLayout (l : Layout Ratio) (viewport : Rect) :
    (ofLayout l viewport).focused ∈ (ofLayout l viewport).paneIds := by
  have hlt : (l.marks.findIdx? (· = true)).getD 0 < l.paneCount := by
    cases hfind : l.marks.findIdx? (· = true) with
    | none => exact l.paneCount_pos
    | some k =>
        rw [← length_marks]
        exact (List.findIdx?_eq_some_iff_findIdx_eq.mp hfind).1
  rw [paneIds_eq (Arena.holds_ofLayout l), ← IndexedTree.map_snd_entries, List.map_map]
  refine IndexedTree.mem_ids_ofLayout.mpr ⟨Int.natCast_nonneg _, ?_⟩
  rw [Int.zero_add]
  exact Int.ofNat_lt.mpr hlt

theorem focused_mem_ofLiteral {l : Layout Value} {viewport : Rect}
    (h : ofLiteral l viewport = .ok p) : p.focused ∈ p.paneIds := by
  obtain ⟨l', -, rfl⟩ := ofLiteral_eq_ok_iff.mp h
  exact focused_mem_ofLayout l' viewport

/-- Along every run from the profile of a literal, the arena is well-formed, and the focus is on a
pane unless a removal has lost it. -/
theorem wellFormed_run {l : Layout Value} {viewport : Rect} (h : ofLiteral l viewport = .ok p)
    (calls : List Call) :
    (p.run calls).arena.WellFormed ∧
      (p.Steady calls → (p.run calls).focused ∈ (p.run calls).paneIds) := by
  obtain ⟨t, ht⟩ := exists_holds_ofLiteral h
  constructor
  · obtain ⟨u, hu⟩ := exists_holds_run ht calls
    exact hu.wellFormed
  · exact focused_mem_run ht (focused_mem_ofLiteral h)

theorem wellFormed_run_large :
    ofLiteral Layout.large.literal = .ok (ofLayout Layout.large) ∧
      ((ofLayout Layout.large).run
        [.split 1 .vertical Ratio.even.toValue, .remove 0]).arena.WellFormed ∧
      ((ofLayout Layout.large).run [.split 1 .vertical Ratio.even.toValue, .remove 0]).focused ∈
        ((ofLayout Layout.large).run
          [.split 1 .vertical Ratio.even.toValue, .remove 0]).paneIds := by
  have h : ofLiteral Layout.large.literal = .ok (ofLayout Layout.large) := by simp [ofLiteral]
  obtain ⟨hwellFormed, hfocused⟩ :=
    wellFormed_run h [.split 1 .vertical Ratio.even.toValue, .remove 0]
  refine ⟨h, hwellFormed, hfocused ⟨fun id hid => ?_, fun id hid hoverflow => ?_, trivial⟩⟩
  · cases hid
  · cases hoverflow

end Profile

end SplitScreen
