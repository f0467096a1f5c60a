import SplitScreen.Proofs.Edit
import SplitScreen.Proofs.Profile.Conditions
import SplitScreen.Proofs.Profile.Invariant

namespace SplitScreen

namespace Profile

/-- The arena holds a tree, and the focus is on one of its panes. -/
structure Valid (p : Profile) : Prop where
  exists_holds : ∃ t, p.arena.Holds [] t
  focused_mem : p.focused ∈ p.paneIds

variable {p q : Profile} {t : IndexedTree}

theorem valid_ofLayout (l : Layout Ratio) (viewport : Rect) : (ofLayout l viewport).Valid :=
  ⟨⟨_, Arena.holds_ofLayout l⟩, focused_mem_ofLayout l viewport⟩

theorem Valid.setViewport (h : p.Valid) (area : Rect) : (p.setViewport area).Valid :=
  ⟨h.exists_holds, h.focused_mem⟩

theorem Valid.exists_focused (h : p.Valid) :
    ∃ (path : TreePath) (index : NodeIndex) (view : View),
      p.arena.Holds path (.pane index ⟨p.focused, view⟩) := by
  obtain ⟨t, ht⟩ := h.exists_holds
  exact exists_path_of_mem_paneIds ht h.focused_mem

/-- An outcome that is an answer, a refusal or an overflow. -/
def Foreseen {α : Type} (outcome : Except Fault α) : Prop :=
  outcome ≠ .error .focusLost ∧ outcome ≠ .error .badMarkup

theorem foreseen_ok {α : Type} (a : α) : Foreseen (.ok a) := ⟨nofun, nofun⟩

theorem foreseen_refused {α : Type} (r : Refusal) :
    Foreseen (.error (.refused r) : Except Fault α) := ⟨nofun, nofun⟩

theorem foreseen_overflow {α : Type} : Foreseen (.error .overflow : Except Fault α) :=
  ⟨nofun, nofun⟩

theorem foreseen_invalidRatio {α : Type} (ratio : Value) :
    Foreseen (.error (.invalidRatio ratio) : Except Fault α) := by
  rcases Fault.invalidRatio_cases ratio with h | h
  · rw [h]
    exact ⟨nofun, nofun⟩
  · rw [h]
    exact foreseen_refused _

theorem foreseen_refusedOr {α : Type} (refusal? : Option Refusal) (answer : α) :
    Foreseen (refusedOr refusal? answer) := by
  cases refusal? with
  | none => exact foreseen_ok answer
  | some r => exact foreseen_refused r

theorem Foreseen.map {α β : Type} {outcome : Except Fault α} (h : Foreseen outcome) (g : α → β) :
    Foreseen (outcome.map g) := by
  rcases outcome with fault | a
  · cases fault with
    | refused r => exact foreseen_refused r
    | longInteger => exact ⟨nofun, nofun⟩
    | overflow => exact foreseen_overflow
    | focusLost => exact absurd rfl h.1
    | badMarkup => exact absurd rfl h.2
  · exact foreseen_ok _

theorem foreseen_done {x : Edit Profile Unit} (h : Foreseen (x.on p).1) :
    Foreseen ((done x).on p).1 := by
  have hdone : done x = (fun _ => Answer.done) <$> x := by rw [map_eq_pure_bind]; rfl
  rw [hdone, Edit.on_map]
  exact h.map _

theorem foreseen_read {α : Type} (f : Profile → Except Refusal α) :
    Foreseen ((Edit.read f).on p).1 := by
  rw [Edit.on_read]
  cases f p with
  | error r => exact foreseen_refused r
  | ok a => exact foreseen_ok a

/-- An edit of a pane is as foreseen when it is so wherever the pane stands. -/
theorem foreseen_of_leaf (ht : p.arena.Holds [] t) {α : Type} {x : Edit Profile α} {id : PaneId}
    {f : Leaf → Edit Profile α} (hx : x = findLeaf id >>= f)
    (hleaf : ∀ (path : TreePath) (index : NodeIndex) (content : Pane), content.id = id →
      p.arena.Holds path (.pane index content) → Foreseen (x.on p).1) :
    Foreseen (x.on p).1 := by
  cases hl : p.arena.leaf? id with
  | none =>
      rw [hx, Edit.on_bind, on_findLeaf_of_none p hl]
      exact foreseen_refused _
  | some l =>
      obtain ⟨path, -, hid, -, hpath⟩ := ht.exists_eq hl
      exact hleaf path l.index l.content hid hpath

theorem foreseen_split (ht : p.arena.Holds [] t) (id : PaneId) (direction : Direction)
    (value : Value) : Foreseen ((split id direction value).on p).1 := by
  refine foreseen_of_leaf ht (by rw [split]) fun path index content hid h => ?_
  subst hid
  rw [on_split h]
  cases Ratio.ofValue? value with
  | none => exact foreseen_invalidRatio value
  | some ratio => exact foreseen_ok _

theorem foreseen_merge (ht : p.arena.Holds [] t) (a b : PaneId) :
    Foreseen ((merge a b).on p).1 := by
  rw [merge_outcome ht]
  exact foreseen_refusedOr _ _

theorem foreseen_remove (ht : p.arena.Holds [] t) (id : PaneId) :
    Foreseen ((remove id).on p).1 := by
  rcases refused_or_exists_path ht id with ⟨r, -, h⟩ | ⟨-, f, path, index, view, h, hview⟩
  · rw [h]
    exact foreseen_refused r
  · rcases remove_ends h hview with ⟨heir, hremove, -⟩ | ⟨hremove, -⟩
    · rw [hremove]
      exact foreseen_ok heir
    · rw [hremove]
      exact foreseen_overflow

theorem foreseen_focusTowards (hp : p.Valid) (side : Side) :
    Foreseen ((focusTowards side).on p).1 := by
  obtain ⟨path, index, view, h⟩ := hp.exists_focused
  obtain ⟨rect, hrect⟩ := exists_rect h p.viewport
  unfold focusTowards
  simp only [Edit.on_bind, Edit.on_get, hrect, Edit.on_ofOutcome]
  cases nearestOnSide? side rect (p.arena.place p.viewport) with
  | error e => exact foreseen_overflow
  | ok nearest => cases nearest <;> exact foreseen_ok _

theorem foreseen_setView (ht : p.arena.Holds [] t) (id : PaneId) (view : View) :
    Foreseen ((setView id view).on p).1 := by
  refine foreseen_of_leaf ht (by rw [setView]) fun path index content hid h => ?_
  subst hid
  rw [setView, Edit.on_bind, on_findLeaf_at h]
  exact foreseen_ok _

theorem foreseen_gotoOrFocus (ht : p.arena.Holds [] t) (view : View) :
    Foreseen ((gotoOrFocus view).on p).1 := by
  unfold gotoOrFocus
  simp only [Edit.on_bind, Edit.on_get]
  split
  · exact foreseen_ok _
  · exact foreseen_setView ht p.focused view

theorem foreseen_focusAt (point : Point) : Foreseen ((focusAt point).on p).1 := by
  unfold focusAt
  simp only [Edit.on_bind, Edit.on_get]
  split <;> exact foreseen_ok _

theorem foreseen_call (hp : p.Valid) (c : Call) : Foreseen (p.call c).1 := by
  obtain ⟨t, ht⟩ := hp.exists_holds
  cases c with
  | split id direction value =>
      rw [call, Call.edit, Edit.on_map]
      exact (foreseen_split ht id direction value).map _
  | merge a b => exact foreseen_done (foreseen_merge ht a b)
  | remove id =>
      rw [call, Call.edit, Edit.on_map]
      exact (foreseen_remove ht id).map _
  | focus id =>
      refine foreseen_done (foreseen_of_leaf ht (by rw [focus]) fun path index content hid h => ?_)
      subst hid
      rw [focus, Edit.on_bind, on_findLeaf_at h]
      exact foreseen_ok _
  | focusAt point =>
      rw [call, Call.edit, Edit.on_map]
      exact (foreseen_focusAt point).map _
  | setViewport area => exact foreseen_ok _
  | focusTowards side => exact foreseen_done (foreseen_focusTowards hp side)
  | goto view => exact foreseen_done (foreseen_setView ht p.focused view)
  | gotoOrFocus view => exact foreseen_done (foreseen_gotoOrFocus ht view)
  | setView id view => exact foreseen_done (foreseen_setView ht id view)
  | siblingOf | pane | focusedPane | panes | flatten | toLayout | roundTrip =>
      exact foreseen_read _

theorem Step.valid {c : Call} {outcome : Except Fault Answer} (h : p.Step c outcome q)
    (hp : p.Valid) (houtcome : outcome ≠ .error .overflow) : q.Valid := by
  obtain ⟨t, ht⟩ := hp.exists_holds
  obtain ⟨u, hu, -⟩ := h.refines ht
  exact ⟨⟨u, hu⟩, h.focused_mem ht (fun _ _ => houtcome) hp.focused_mem⟩

theorem safe_call (c : Call) : c.edit.Safe Valid := by
  intro p hp
  obtain ⟨hlost, htitle⟩ := foreseen_call hp c
  have hvalid := (p.step_call c).valid hp
  rw [call] at hlost htitle hvalid
  rcases hon : c.edit.on p with ⟨fault | answer, q⟩
  · rw [hon] at hlost htitle hvalid
    cases fault with
    | refused | longInteger => exact hvalid (by rintro ⟨⟩)
    | overflow => trivial
    | focusLost => exact absurd rfl hlost
    | badMarkup => exact absurd rfl htitle
  · rw [hon] at hvalid
    exact hvalid (by rintro ⟨⟩)

theorem safe_of_done {x : Edit Profile Unit} (h : (done x).Safe Valid) : x.Safe Valid :=
  Edit.Safe.of_map (g := fun _ => Answer.done) (by rw [map_eq_pure_bind]; exact h)

end Profile

end SplitScreen
