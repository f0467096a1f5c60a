import SplitScreen.Proofs.Outcome
import SplitScreen.Proofs.Profile.Literal
import SplitScreen.Proofs.Profile.Removal

namespace SplitScreen

instance : DecidablePred Value.IsRatio := fun v =>
  decidable_of_iff ((Ratio.ofValue? v).isSome = true)
    (by rw [Value.isRatio_iff, Option.isSome_iff_exists])

/-- An outcome that is the answer unless there is a fault. -/
def failsOr {α : Type} (fault? : Option Fault) (answer : α) : Except Fault α :=
  match fault? with
  | some fault => .error fault
  | none => .ok answer

def refusedOr {α : Type} (refusal? : Option Refusal) (answer : α) : Except Fault α :=
  failsOr (refusal?.map .refused) answer

namespace Profile

/-- The second pane is told to be the sibling of the first. -/
def Beside (p : Profile) (a b : PaneId) : Prop := p.siblingOf a = .ok (some b)

instance (p : Profile) (a b : PaneId) : Decidable (p.Beside a b) :=
  decidable_of_iff ((p.siblingOf a).toOption = some (some b))
    ⟨eq_ok_of_toOption, fun h => congrArg Except.toOption h⟩

def mergeRefusal? (p : Profile) (a b : PaneId) : Option Refusal :=
  if a ∉ p.paneIds then some (.noPane a)
  else if b ∉ p.paneIds then some (.noPane b)
  else if ¬ p.Beside a b then some (.notSiblings a b)
  else if p.ShowsTerminal b ∧ ¬ p.ShowsTerminal a then some (.terminalDiscarded b)
  else none

variable {p : Profile} {f : OpenSplit} {path : TreePath} {index : NodeIndex} {content : Pane}
  {t : IndexedTree} {a b id : PaneId}

theorem beside_iff (h : p.arena.Holds path (.pane index content)) :
    p.Beside content.id b ↔ path.beside.map Pane.id = some b := by
  rw [Beside, siblingOf_eq h, Except.ok.injEq]

theorem Beside.symm (h : p.Beside a b) (ht : p.arena.Holds [] t) : p.Beside b a := by
  obtain ⟨f, path, index, i, view, view', hpath, hother⟩ := exists_path_of_siblingOf ht h
  exact (beside_iff (hpath.flip_pane hother)).mpr rfl

theorem Beside.ne (h : p.Beside a b) (ht : p.arena.Holds [] t) : b ≠ a := by
  obtain ⟨f, path, index, i, view, view', hpath, hother⟩ := exists_path_of_siblingOf ht h
  have hbeside : TreePath.beside (f :: path) = some ⟨b, view'⟩ :=
    TreePath.beside_eq_some_iff.mpr ⟨f, path, i, rfl, hother⟩
  obtain ⟨-, -, hne⟩ := hpath.leaf?_beside hbeside
  exact hne

theorem on_merge_of_beside (ht : p.arena.Holds [] t) (h : p.Beside a b) :
    ((merge a b).on p).1 = refusedOr
      (if p.ShowsTerminal b ∧ ¬ p.ShowsTerminal a then some (.terminalDiscarded b) else none) () := by
  obtain ⟨f, path, index, i, view', view, hdropped, hother⟩ :=
    exists_path_of_siblingOf ht (h.symm ht)
  have hkept := hdropped.flip_pane hother
  have hdiscards : (view'.isTerminal && !view.isTerminal) = true ↔
      p.ShowsTerminal b ∧ ¬ p.ShowsTerminal a := by
    rw [showsTerminal_iff hdropped, showsTerminal_iff hkept, Bool.and_eq_true, Bool.not_eq_true',
      Bool.not_eq_true]
  rw [on_merge hdropped hother]
  by_cases hterminal : p.ShowsTerminal b ∧ ¬ p.ShowsTerminal a
  · rw [if_pos (hdiscards.mpr hterminal), if_pos hterminal]
    rfl
  · rw [if_neg (mt hdiscards.mp hterminal), if_neg hterminal]
    rfl

theorem merge_outcome (ht : p.arena.Holds [] t) (a b : PaneId) :
    ((merge a b).on p).1 = refusedOr (p.mergeRefusal? a b) () := by
  unfold mergeRefusal?
  by_cases ha : a ∈ p.paneIds
  · obtain ⟨around, k, view, hkept⟩ := exists_path_of_mem_paneIds ht ha
    rw [if_neg (not_not_intro ha)]
    by_cases hb : b ∈ p.paneIds
    · rw [if_neg (not_not_intro hb)]
      by_cases hbeside : p.Beside a b
      · rw [if_neg (not_not_intro hbeside), on_merge_of_beside ht hbeside]
      · obtain ⟨path, index, view', h⟩ := exists_path_of_mem_paneIds ht hb
        have hother : path.beside.map Pane.id ≠ some a := by
          intro hsome
          exact hbeside (((beside_iff h).mpr hsome).symm ht)
        rw [if_pos hbeside, on_merge_of_ne h hkept.leaf?_eq hother]
        rfl
    · rw [if_pos hb, merge, Edit.on_bind, on_findLeaf_at hkept]
      exact congrArg Prod.fst (on_findLeaf_bind ht hb _)
  · rw [if_pos ha, merge, on_findLeaf_bind ht ha]
    rfl

end Profile

end SplitScreen
