import SplitScreen.Proofs.Outcome
import SplitScreen.Proofs.Profile.Flatten
import SplitScreen.Proofs.Profile.Outcome

namespace SplitScreen

namespace Profile

def Answer.ids : Answer → List PaneId
  | .id k => [k]
  | .id? k => k.toList
  | .pane content => [content.id]
  | .panes contents => contents.map Pane.id
  | .tiles shown => shown.map Tile.id
  | .done | .yes _ | .layout _ => []

/-- The ids in the answer of a call, if it has one. -/
def answered : Except Fault Answer → List PaneId
  | .ok answer => answer.ids
  | .error _ => []

/-- The ids that panes have, or that are answered, at some point of a run. -/
def issued (p : Profile) : List Call → List PaneId
  | [] => p.paneIds
  | c :: calls => p.paneIds ++ answered (p.call c).1 ++ (p.call c).2.issued calls

def Call.Names (id : PaneId) : Call → Prop
  | .split k _ _ | .remove k | .siblingOf k | .focus k | .pane k | .setView k _ => k = id
  | .merge a b => a = id ∨ b = id
  | _ => False

/-- The pane that is gone after a call that ends so. A removal overflows only when its pane is gone
already. -/
def Call.discarded? : Call → Except Fault Answer → Option PaneId
  | .merge _ b, .ok _ => some b
  | .remove id, .ok _ | .remove id, .error .overflow => some id
  | _, _ => none

/-- No pane has the id, no tile shows it, and a call that names it is refused because there is no
such pane. -/
structure Retired (p : Profile) (id : PaneId) : Prop where
  notMem : id ∉ p.paneIds
  not_shown (area : Rect) : id ∉ (p.flatten area).map Tile.id
  refused {c : Call} (h : c.Names id) :
    ∃ k, c.Names k ∧ k ∉ p.paneIds ∧ p.call c = (.error (.refused (.noPane k)), p)

variable {p q : Profile} {c : Call} {outcome : Except Fault Answer} {t : IndexedTree}
  {id : PaneId}

theorem nextPane_of_collapse? {a b : Arena} {l : Leaf} {sibling : NodeIndex}
    (h : a.collapse? l = some (sibling, b)) : b.nextPane = a.nextPane := by
  simp only [Arena.collapse?, Option.bind_eq_bind, Option.bind_eq_some_iff, Option.pure_def,
    Option.some.injEq, Prod.mk.injEq] at h
  obtain ⟨index, -, parent, -, other, -, -, rfl⟩ := h
  simp

theorem Step.nextPane_le (h : p.Step c outcome q) : p.arena.nextPane ≤ q.arena.nextPane := by
  cases h with
  | fails | stays | views | focuses => exact Int.le_refl _
  | shows => simp [Arena.setView]
  | splits =>
      rw [Arena.nextPane_split]
      exact Int.le_add_one (Int.le_refl _)
  | merges _ _ _ _ hcollapse | absorbs _ _ hcollapse | closes _ hcollapse | loses _ hcollapse =>
      exact Int.le_of_eq (nextPane_of_collapse? hcollapse).symm

theorem nextPane_le_run (p : Profile) (calls : List Call) :
    p.arena.nextPane ≤ (p.run calls).arena.nextPane := by
  induction calls generalizing p with
  | nil => exact Int.le_refl _
  | cons c calls ih => exact Int.le_trans (p.step_call c).nextPane_le (ih _)

theorem Step.new_eq (h : p.Step c outcome q) {new : PaneId} {direction : Direction} {ratio : Value}
    (hc : c = .split id direction ratio) (houtcome : outcome = .ok (.id new)) :
    new = p.arena.nextPane ∧ q.arena.nextPane = p.arena.nextPane + 1 := by
  cases h with
  | splits =>
      rw [Except.ok.injEq, Answer.id.injEq] at houtcome
      exact ⟨houtcome.symm, Arena.nextPane_split ..⟩
  | fails => cases houtcome
  | stays _ hnot | focuses _ hnot => exact absurd (hc ▸ trivial) hnot
  | views | merges | absorbs | closes | loses => cases hc
  | shows => cases houtcome

theorem mem_of_mem_insertAfter {new k : PaneId} {ids : List PaneId}
    (h : k ∈ insertAfter id new ids) : k ∈ ids ∨ k = new := by
  induction ids with
  | nil => cases h
  | cons j ids ih =>
      rw [insertAfter] at h
      split at h <;> grind

/-- An id that no pane has had comes up as the answer of a split. -/
theorem mem_track {k : PaneId} {ids : List PaneId} (h : k ∈ c.track outcome ids) :
    k ∈ ids ∨ ∃ id direction ratio, c = .split id direction ratio ∧ outcome = .ok (.id k) := by
  unfold Call.track at h
  split at h
  · next id direction ratio new =>
      rcases mem_of_mem_insertAfter h with h | rfl
      · exact Or.inl h
      · exact Or.inr ⟨id, direction, ratio, rfl, rfl⟩
  · exact Or.inl (List.mem_of_mem_erase h)
  · exact Or.inl (List.mem_of_mem_erase h)
  · exact Or.inl (List.mem_of_mem_erase h)
  · exact Or.inl h

theorem Step.paneIds_eq (h : p.Step c outcome q) (ht : p.arena.Holds [] t) :
    q.paneIds = c.track outcome p.paneIds := by
  obtain ⟨u, hu, hspec⟩ := h.refines ht
  rw [Profile.paneIds_eq hu, Profile.paneIds_eq ht]
  exact hspec.ids_eq ht.nodup_leaves_id

theorem Call.Spec.focused_eq_or_mem {s t : Plain} (h : c.Spec s t outcome)
    (hc : c.Restructures) : t.focused = s.focused ∨ t.focused ∈ t.tree.leaves.map Pane.id := by
  have hsame (heq : t = s) : t.focused = s.focused := by rw [heq]
  cases c with
  | split id direction value =>
      rcases outcome with fault | answer
      · exact Or.inl (hsame h)
      · obtain ⟨_, _, _, -, -, -, hfocused, -⟩ := h
        exact Or.inl hfocused
  | merge a b =>
      rcases outcome with fault | answer
      · exact Or.inl (hsame h)
      · obtain ⟨⟨view, view', hdropped⟩, hfocused⟩ := h
        rw [hfocused]
        split
        · exact Or.inr (List.mem_map_of_mem (hdropped.mem_leaves (List.mem_singleton_self _)))
        · exact Or.inl rfl
  | remove id =>
      rcases outcome with fault | answer
      · cases fault with
        | overflow =>
            obtain ⟨_, _, -, hs, ht⟩ := h
            exact Or.inl (ht.trans hs.symm)
        | refused | longInteger | focusLost | badMarkup => exact Or.inl (hsame h)
      · obtain ⟨view, other, hdropped, -, hfocused⟩ := h
        split at hfocused
        · obtain ⟨pane, hpane, hid⟩ := List.mem_map.mp hfocused
          exact Or.inr (List.mem_map.mpr ⟨pane, hdropped.mem_leaves hpane, hid⟩)
        · exact Or.inl hfocused
  | _ => exact hc.elim

/-- A step leaves the focus where it is, or moves it to a pane that is there afterwards. -/
theorem Step.focused_eq_or_mem (h : p.Step c outcome q) (ht : p.arena.Holds [] t) :
    q.focused = p.focused ∨ q.focused ∈ q.paneIds := by
  obtain ⟨u, hu, hspec⟩ := h.refines ht
  by_cases hc : c.Restructures
  · rw [Profile.paneIds_eq hu]
    exact hspec.focused_eq_or_mem hc
  · cases h with
    | fails | stays | views | shows => exact Or.inl rfl
    | focuses _ _ hid => exact Or.inr (hid.mem_paneIds ht)
    | splits | merges | absorbs | closes | loses => exact absurd trivial hc

theorem Step.focused_lt (h : p.Step c outcome q) (ht : p.arena.Holds [] t)
    (hfocused : p.focused < p.arena.nextPane) : q.focused < q.arena.nextPane := by
  obtain ⟨u, hu, -⟩ := h.refines ht
  rcases h.focused_eq_or_mem ht with heq | hmem
  · rw [heq]
    exact Int.lt_of_lt_of_le hfocused h.nextPane_le
  · exact lt_nextPane hu hmem

theorem mem_paneIds_of_leaf? (ht : p.arena.Holds [] t) {l : Leaf}
    (hl : p.arena.leaf? id = some l) : id ∈ p.paneIds :=
  Finds.mem_paneIds (Or.inl (Option.isSome_of_eq_some hl)) ht

theorem id_mem_of_pane (ht : p.arena.Holds [] t) {pane : Pane} (h : p.pane id = .ok pane) :
    pane.id ∈ p.paneIds := by
  obtain ⟨l, hl, hpane⟩ := exists_of_bind h
  obtain rfl : l.content = pane := Except.ok.inj hpane
  unfold Arena.leaf at hl
  split at hl
  · next hleaf =>
      obtain rfl := Except.ok.inj hl
      obtain ⟨path, -, -, -, hpath⟩ := ht.exists_eq hleaf
      exact List.mem_map_of_mem (mem_panes hpath)
  · cases hl

theorem siblingOf_mem (ht : p.arena.Holds [] t) {sibling : PaneId}
    (h : p.siblingOf id = .ok (some sibling)) : sibling ∈ p.paneIds := by
  obtain ⟨f, path, index, i, view, view', hpath, hother⟩ := exists_path_of_siblingOf ht h
  exact List.mem_map_of_mem (mem_panes (hpath.flip_pane hother))

theorem eq_of_on_done {x : Edit Profile Unit} {answer : Answer}
    (h : (done x).on p = (.ok answer, q)) : answer = .done := by
  rw [done, Edit.on_bind] at h
  rcases hon : x.on p with ⟨fault | _, r⟩
  · rw [hon] at h
    cases h
  · rw [hon] at h
    cases h
    rfl

theorem eq_of_on_tell {f : Profile → Except Refusal Answer} {answer : Answer}
    (h : (tell f).on p = (.ok answer, q)) : f p = .ok answer ∧ q = p := by
  rw [tell, Edit.on_read, Prod.mk.injEq] at h
  exact ⟨mapError_eq_ok_iff.mp h.1, h.2.symm⟩

theorem lt_of_on_tell (ht : p.arena.Holds [] t) {f : Profile → Except Refusal Answer}
    {answer : Answer} (h : (tell f).on p = (.ok answer, q)) {k : PaneId}
    (hf : f p = .ok answer → k ∈ p.paneIds) : k < q.arena.nextPane := by
  obtain ⟨hanswer, rfl⟩ := eq_of_on_tell h
  exact lt_nextPane ht (hf hanswer)

/-- What is answered are panes, or the focus. -/
theorem answer_lt (ht : p.arena.Holds [] t) (hfocused : p.focused < p.arena.nextPane)
    {answer : Answer} (hcall : p.call c = (.ok answer, q)) {k : PaneId} (hk : k ∈ answer.ids) :
    k < q.arena.nextPane := by
  have hstep := step_of_call hcall
  cases c with
  | split id direction ratio =>
      cases hstep with
      | splits =>
          rw [List.mem_singleton.mp hk, Arena.nextPane_split]
          exact Int.lt_succ _
      | stays _ hnot | focuses _ hnot | shows _ hnot => exact absurd trivial hnot
  | remove id =>
      obtain ⟨_, -, _, _, -, hanswer, -⟩ := hstep.refines ht
      rw [hanswer] at hk
      rw [List.mem_singleton.mp hk]
      exact hstep.focused_lt ht hfocused
  | siblingOf id =>
      refine lt_of_on_tell ht hcall fun hanswer => ?_
      obtain ⟨sibling, hsibling, rfl⟩ := exists_of_map hanswer
      obtain rfl : sibling = some k := Option.mem_toList.mp hk
      exact siblingOf_mem ht hsibling
  | pane id =>
      refine lt_of_on_tell ht hcall fun hanswer => ?_
      obtain ⟨pane, hpane, rfl⟩ := exists_of_map hanswer
      rw [List.mem_singleton.mp hk]
      exact id_mem_of_pane ht hpane
  | focusedPane =>
      refine lt_of_on_tell ht hcall fun hanswer => ?_
      obtain ⟨pane, hpane, rfl⟩ := exists_of_map hanswer
      rw [List.mem_singleton.mp hk]
      exact id_mem_of_pane ht hpane
  | panes =>
      refine lt_of_on_tell ht hcall fun hanswer => ?_
      obtain rfl := Except.ok.inj hanswer
      exact hk
  | flatten area =>
      refine lt_of_on_tell ht hcall fun hanswer => ?_
      obtain rfl := Except.ok.inj hanswer
      rw [← ids_flatten ht area]
      exact hk
  | toLayout | roundTrip =>
      obtain ⟨hanswer, -⟩ := eq_of_on_tell hcall
      obtain rfl := Except.ok.inj hanswer
      cases hk
  | focusAt point =>
      rw [call, Call.edit, Edit.on_map, Prod.mk.injEq] at hcall
      obtain ⟨hit, -, rfl⟩ := exists_of_map hcall.1
      cases hk
  | merge | focus | setViewport | focusTowards | goto | gotoOrFocus | setView =>
      obtain rfl := eq_of_on_done hcall
      cases hk

theorem lt_of_mem_issued (ht : p.arena.Holds [] t) (hfocused : p.focused < p.arena.nextPane)
    {calls : List Call} {k : PaneId} (hk : k ∈ p.issued calls) :
    k < (p.run calls).arena.nextPane := by
  induction calls generalizing p t with
  | nil => exact lt_nextPane ht hk
  | cons c calls ih =>
      have hstep := p.step_call c
      obtain ⟨u, hu, -⟩ := hstep.refines ht
      have hle : (p.call c).2.arena.nextPane ≤ (p.run (c :: calls)).arena.nextPane :=
        nextPane_le_run _ calls
      rw [issued, List.mem_append, List.mem_append] at hk
      rcases hk with (hpane | hanswer) | hlater
      · exact Int.lt_of_lt_of_le (lt_nextPane ht hpane) (Int.le_trans hstep.nextPane_le hle)
      · cases hcall : (p.call c).1 with
        | error fault =>
            rw [hcall] at hanswer
            cases hanswer
        | ok answer =>
            rw [hcall] at hanswer
            exact Int.lt_of_lt_of_le (answer_lt ht hfocused (Prod.ext hcall rfl) hanswer) hle
      · exact ih hu (hstep.focused_lt ht hfocused) hlater

theorem notMem_run (ht : p.arena.Holds [] t) (hlt : id < p.arena.nextPane) (hid : id ∉ p.paneIds)
    (calls : List Call) : id ∉ (p.run calls).paneIds := by
  induction calls generalizing p t with
  | nil => exact hid
  | cons c calls ih =>
      have hstep := p.step_call c
      obtain ⟨u, hu, -⟩ := hstep.refines ht
      refine ih hu (Int.lt_of_lt_of_le hlt hstep.nextPane_le) fun hmem => ?_
      rw [hstep.paneIds_eq ht] at hmem
      rcases mem_track hmem with hmem | ⟨_, _, _, hc, houtcome⟩
      · exact hid hmem
      · exact absurd (hstep.new_eq hc houtcome).1 (Int.ne_of_lt hlt)

theorem on_merge_of_notMem (ht : p.arena.Holds [] t) {a b : PaneId}
    (h : a ∉ p.paneIds ∨ b ∉ p.paneIds) :
    ∃ k, (a = k ∨ b = k) ∧ k ∉ p.paneIds ∧
      (merge a b).on p = (.error (.refused (.noPane k)), p) := by
  unfold merge
  cases ha : p.arena.leaf? a with
  | none =>
      have hid := (leaf?_eq_none_iff ht).mp ha
      exact ⟨a, Or.inl rfl, hid, on_findLeaf_bind ht hid _⟩
  | some l =>
      have hid : b ∉ p.paneIds := h.resolve_left (not_not_intro (mem_paneIds_of_leaf? ht ha))
      refine ⟨b, Or.inr rfl, hid, ?_⟩
      rw [Edit.on_bind, on_findLeaf_of_some p ha]
      exact on_findLeaf_bind ht hid _

theorem retired (ht : p.arena.Holds [] t) (hid : id ∉ p.paneIds) : p.Retired id where
  notMem := hid
  not_shown area := by
    rw [ids_flatten ht]
    exact hid
  refused {c} h := by
    have hleaf : p.arena.leaf id = .error (.noPane id) := by
      rw [Arena.leaf, (leaf?_eq_none_iff ht).mpr hid]
    cases c with
    | merge a b =>
        obtain ⟨k, hnames, hk, hon⟩ := on_merge_of_notMem ht (h.imp (· ▸ hid) (· ▸ hid))
        refine ⟨k, hnames, hk, ?_⟩
        rw [call, Call.edit, done, Edit.on_bind, hon]
    | split k direction ratio =>
        obtain rfl : k = id := h
        refine ⟨k, rfl, hid, ?_⟩
        rw [call, Call.edit, Edit.on_map, split, on_findLeaf_bind ht hid]
        rfl
    | remove k =>
        obtain rfl : k = id := h
        refine ⟨k, rfl, hid, ?_⟩
        rw [call, Call.edit, Edit.on_map, remove, on_findLeaf_bind ht hid]
        rfl
    | focus k =>
        obtain rfl : k = id := h
        refine ⟨k, rfl, hid, ?_⟩
        rw [call, Call.edit, done, Edit.on_bind, focus, on_findLeaf_bind ht hid]
    | setView k view =>
        obtain rfl : k = id := h
        refine ⟨k, rfl, hid, ?_⟩
        rw [call, Call.edit, done, Edit.on_bind, setView, on_findLeaf_bind ht hid]
    | pane k =>
        obtain rfl : k = id := h
        refine ⟨k, rfl, hid, ?_⟩
        rw [call, Call.edit, tell, Edit.on_read, pane, hleaf]
        rfl
    | siblingOf k =>
        obtain rfl : k = id := h
        refine ⟨k, rfl, hid, ?_⟩
        rw [call, Call.edit, tell, Edit.on_read, siblingOf, hleaf]
        rfl
    | _ => exact h.elim

/-- An id of a run that no pane has at its end is retired for good. -/
theorem retired_run (ht : p.arena.Holds [] t) (hlt : id < p.arena.nextPane) (hid : id ∉ p.paneIds)
    (calls : List Call) : (p.run calls).Retired id := by
  obtain ⟨u, hu⟩ := exists_holds_run ht calls
  exact retired hu (notMem_run ht hlt hid calls)

theorem Call.Spec.exists_dropped {s t : Plain} (h : c.Spec s t outcome)
    (hdiscarded : c.discarded? outcome = some id) :
    ∃ view other, Tree.Dropped ⟨id, view⟩ other s.tree t.tree := by
  unfold Call.discarded? at hdiscarded
  split at hdiscarded
  · obtain rfl := Option.some.inj hdiscarded
    obtain ⟨⟨view, view', hdropped⟩, -⟩ := h
    exact ⟨view, _, hdropped⟩
  · obtain rfl := Option.some.inj hdiscarded
    obtain ⟨view, other, hdropped, -⟩ := h
    exact ⟨view, other, hdropped⟩
  · obtain rfl := Option.some.inj hdiscarded
    obtain ⟨view, other, hdropped, -⟩ := h
    exact ⟨view, other, hdropped⟩
  · cases hdiscarded

theorem Step.discards (h : p.Step c outcome q) (ht : p.arena.Holds [] t)
    (hdiscarded : c.discarded? outcome = some id) : id ∈ p.paneIds ∧ id ∉ q.paneIds := by
  obtain ⟨u, hu, hspec⟩ := h.refines ht
  obtain ⟨view, other, hdropped⟩ := hspec.exists_dropped hdiscarded
  obtain ⟨before, after, hs, ht'⟩ := hdropped.leaves_eq
  have hnodup := ht.nodup_leaves_id
  rw [hs, List.map_append, List.map_cons] at hnodup
  rw [Profile.paneIds_eq ht, Profile.paneIds_eq hu, hs, ht', List.map_append, List.map_cons,
    List.map_append]
  constructor
  · exact List.mem_append_right _ List.mem_cons_self
  · exact (List.nodup_cons.mp (List.perm_middle.nodup_iff.mp hnodup)).1

/-- Along every run from the profile of a literal, no two panes share an id, and the pane of a split
gets a higher one than all that panes have had and answers have named so far. An id that is discarded
is retired for good, and has the focus no more unless a removal overflows. -/
theorem ids_given_once {l : Layout Value} {viewport : Rect} (h : ofLiteral l viewport = .ok p)
    (calls : List Call) :
    (p.run calls).paneIds.Nodup ∧
    (∀ (id new : PaneId) (direction : Direction) (ratio : Value),
      ((p.run calls).call (.split id direction ratio)).1 = .ok (.id new) →
        ∀ k ∈ p.issued calls, k < new) ∧
    ∀ (c : Call) (id : PaneId), c.discarded? ((p.run calls).call c).1 = some id →
      ∀ more : List Call,
        (p.run (calls ++ c :: more)).Retired id ∧
          (p.Steady (calls ++ c :: more) → (p.run (calls ++ c :: more)).focused ≠ id) := by
  obtain ⟨t, ht⟩ := exists_holds_ofLiteral h
  have hfocused := focused_mem_ofLiteral h
  obtain ⟨u, hu⟩ := exists_holds_run ht calls
  refine ⟨?_, ?_, ?_⟩
  · rw [paneIds_eq hu]
    exact hu.nodup_leaves_id
  · intro id new direction ratio hsplit k hk
    rw [((p.run calls).step_call _).new_eq rfl hsplit |>.1]
    exact lt_of_mem_issued ht (lt_nextPane ht hfocused) hk
  · intro c id hdiscarded more
    have hstep := (p.run calls).step_call c
    obtain ⟨hmem, hnotMem⟩ := hstep.discards hu hdiscarded
    obtain ⟨v, hv, -⟩ := hstep.refines hu
    have hlt := Int.lt_of_lt_of_le (lt_nextPane hu hmem) hstep.nextPane_le
    have hretired : (p.run (calls ++ c :: more)).Retired id := by
      rw [run_append]
      exact retired_run hv hlt hnotMem more
    refine ⟨hretired, fun hsteady heq => ?_⟩
    have hfocus := focused_mem_run ht hfocused hsteady
    rw [heq] at hfocus
    exact hretired.notMem hfocus

theorem ids_given_once_large :
    let p := ofLayout Layout.large
    let split : Call := .split 0 .vertical Ratio.even.toValue
    ofLiteral Layout.large.literal = .ok p ∧
      (p.run [split, .remove 4, split]).paneIds.Nodup ∧
      (∀ k ∈ p.issued [split, .remove 4], k < 5) ∧
      (p.run [split, .remove 4, split]).Retired 4 ∧
      (p.run [split, .remove 4, split]).focused ≠ 4 := by
  intro p split
  have h : ofLiteral Layout.large.literal = .ok p := by simp [ofLiteral, p]
  obtain ⟨hnodup, -, -⟩ := ids_given_once h [split, .remove 4, split]
  obtain ⟨-, hnew, -⟩ := ids_given_once h [split, .remove 4]
  obtain ⟨-, -, hdiscarded⟩ := ids_given_once h [split]
  obtain ⟨hretired, hfocused⟩ := hdiscarded (.remove 4) 4 (by decide) [split]
  have hfive : ((p.run [split, .remove 4]).call split).1 = .ok (.id 5) :=
    eq_ok_of_toOption (by decide)
  refine ⟨h, hnodup, hnew 0 5 .vertical Ratio.even.toValue hfive, hretired, hfocused ?_⟩
  refine ⟨fun id hid => ?_, fun id hid hoverflow => ?_, fun id hid => ?_, trivial⟩
  · simp [split] at hid
  · cases hoverflow
  · simp [split] at hid

end Profile

end SplitScreen
