import Mathlib.Data.List.Forall2
import SplitScreen.Proofs.Arena.Planted
import SplitScreen.Proofs.Profile.Layout
import SplitScreen.Proofs.Profile.Outcome

/-!
Pane trees that differ in nothing but ids and indices. Two trees are twins under a relation of ids
when they have the same shape, directions, ratios and views, and related ids at corresponding
panes; the indices do not matter. Twins have the same places, the same layout, and corresponding
surroundings of every subtree (`Twin.exists_plug`). Main statement: a tree is the twin of the one
that is made anew from its layout (`twin_ofLayout`).
-/

namespace SplitScreen

/-- A relation between the panes of one tree and those of another. -/
abbrev Pairing := PaneId → PaneId → Prop

variable {R S : Pairing}

/-- Panes that show the same, under related ids. -/
def Pane.Twin (R : Pairing) (c d : Pane) : Prop := R c.id d.id ∧ c.view = d.view

theorem Pane.Twin.flip {c d : Pane} (h : c.Twin R d) : d.Twin (flip R) c := ⟨h.1, h.2.symm⟩

/-- Trees that differ in nothing but indices and related ids. -/
inductive IndexedTree.Twin (R : Pairing) : IndexedTree → IndexedTree → Prop
  | pane {i j : NodeIndex} {c d : Pane} (h : c.Twin R d) : Twin R (.pane i c) (.pane j d)
  | split {i j : NodeIndex} {direction : Direction} {ratio : Ratio} {t t' u u' : IndexedTree}
    (h₁ : Twin R t t') (h₂ : Twin R u u') :
    Twin R (.split i direction ratio t u) (.split j direction ratio t' u')

structure OpenSplit.Twin (R : Pairing) (f g : OpenSplit) : Prop where
  direction : f.direction = g.direction
  ratio : f.ratio = g.ratio
  lacksFirst : f.lacksFirst = g.lacksFirst
  other : f.other.Twin R g.other

abbrev TreePath.Twin (R : Pairing) : TreePath → TreePath → Prop := List.Forall₂ (OpenSplit.Twin R)

namespace IndexedTree

variable {t u : IndexedTree}

theorem Twin.mono (h : t.Twin R u) (hRS : ∀ a b, R a b → S a b) : t.Twin S u := by
  induction h with
  | pane h => exact .pane ⟨hRS _ _ h.1, h.2⟩
  | split _ _ ih₁ ih₂ => exact .split ih₁ ih₂

theorem Twin.flip (h : t.Twin R u) : u.Twin (flip R) t := by
  induction h with
  | pane h => exact .pane h.flip
  | split _ _ ih₁ ih₂ => exact .split ih₁ ih₂

theorem Twin.leaves (h : t.Twin R u) :
    List.Forall₂ (Pane.Twin R) t.tree.leaves u.tree.leaves := by
  induction h with
  | pane h => exact .cons h .nil
  | split _ _ ih₁ ih₂ => exact List.rel_append ih₁ ih₂

theorem Twin.pane? (h : t.Twin R u) : Option.Rel (Pane.Twin R) t.pane? u.pane? := by
  cases h with
  | pane h => exact .some h
  | split => exact .none

theorem Twin.place (h : t.Twin R u) (area : Rect) :
    List.Forall₂ (fun x y => x.1.Twin R y.1 ∧ x.2 = y.2) (t.tree.place area)
      (u.tree.place area) := by
  induction h generalizing area with
  | pane h => exact .cons ⟨h, rfl⟩ .nil
  | split _ _ ih₁ ih₂ => exact List.rel_append (ih₁ _) (ih₂ _)

theorem Twin.layout_eq (h : t.Twin R u) {x y : PaneId}
    (hxy : ∀ a b, R a b → (a = x ↔ b = y)) : t.tree.layout x = u.tree.layout y := by
  induction h with
  | pane h =>
      simp only [tree, Tree.layout, h.2, Layout.pane.injEq, true_and, decide_eq_decide]
      exact hxy _ _ h.1
  | split _ _ ih₁ ih₂ => simp only [tree, Tree.layout, ih₁, ih₂]

end IndexedTree

theorem OpenSplit.Twin.fill {f g : OpenSplit} {t u : IndexedTree} (h : f.Twin R g)
    (ht : t.Twin R u) : (f.fill t).Twin R (g.fill u) := by
  unfold OpenSplit.fill
  rw [h.direction, h.ratio, h.lacksFirst]
  split
  · exact .split ht h.other
  · exact .split h.other ht

theorem OpenSplit.exists_fill {f : OpenSplit} {t u : IndexedTree} (h : (f.fill t).Twin R u) :
    ∃ g s, u = g.fill s ∧ f.Twin R g ∧ t.Twin R s := by
  obtain ⟨index, direction, ratio, lacksFirst, other⟩ := f
  cases lacksFirst with
  | true =>
      obtain _ | ⟨h₁, h₂⟩ := h
      exact ⟨⟨_, direction, ratio, true, _⟩, _, rfl, ⟨rfl, rfl, rfl, h₂⟩, h₁⟩
  | false =>
      obtain _ | ⟨h₁, h₂⟩ := h
      exact ⟨⟨_, direction, ratio, false, _⟩, _, rfl, ⟨rfl, rfl, rfl, h₁⟩, h₂⟩

namespace TreePath

variable {path path' : TreePath} {t u : IndexedTree}

theorem Twin.plug (h : path.Twin R path') (ht : t.Twin R u) :
    (path.plug t).Twin R (path'.plug u) := by
  induction h generalizing t u with
  | nil => exact ht
  | cons hf _ ih => exact ih (hf.fill ht)

theorem Twin.mono (h : path.Twin R path') (hRS : ∀ a b, R a b → S a b) : path.Twin S path' :=
  List.Forall₂.imp (fun _ _ hf => ⟨hf.direction, hf.ratio, hf.lacksFirst, hf.other.mono hRS⟩) h

/-- What is plugged into a path has its twin in the place that corresponds. -/
theorem exists_plug_twin (h : (path.plug t).Twin R u) :
    ∃ (path' : TreePath) (s : IndexedTree), u = path'.plug s ∧ path.Twin R path' ∧ t.Twin R s := by
  induction path generalizing t with
  | nil => exact ⟨[], u, rfl, .nil, h⟩
  | cons f path ih =>
      obtain ⟨path', s, rfl, hpath, hs⟩ := ih h
      obtain ⟨g, s, rfl, hg, ht⟩ := OpenSplit.exists_fill hs
      exact ⟨g :: path', s, rfl, .cons hg hpath, ht⟩

theorem Twin.beside (h : path.Twin R path') :
    Option.Rel (Pane.Twin R) path.beside path'.beside := by
  cases h with
  | nil => exact .none
  | cons hf _ => exact hf.other.pane?

end TreePath

/-- A tree is the twin of the tree that is made from its layout, where the panes are numbered in
their order. -/
theorem IndexedTree.twin_ofLayout (index : NodeIndex) (id focused : PaneId) (t : IndexedTree)
    (h : ∀ (k : Nat) (content : Pane), t.tree.leaves[k]? = some content →
      R content.id (id + k)) :
    t.Twin R (ofLayout index id (t.tree.layout focused)) := by
  induction t generalizing index id with
  | pane i content => exact .pane ⟨by simpa using h 0 content rfl, rfl⟩
  | split i direction ratio first second ih₁ ih₂ =>
      refine .split (ih₁ _ _ fun k content hk => h k content ?_)
        (ih₂ _ _ fun k content hk => ?_)
      · simp only [tree, Tree.leaves]
        rw [List.getElem?_append_left (List.getElem?_eq_some_iff.mp hk).1, hk]
      · have hmoved := h (first.tree.leaves.length + k) content (by
          simp only [tree, Tree.leaves]
          rw [List.getElem?_append_right (Nat.le_add_right _ _), Nat.add_sub_cancel_left, hk])
        rw [Tree.paneCount_layout, Int.add_assoc]
        rw [Int.natCast_add] at hmoved
        exact hmoved

end SplitScreen
