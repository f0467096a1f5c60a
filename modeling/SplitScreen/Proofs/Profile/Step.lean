import SplitScreen.Profile
import SplitScreen.Proofs.Profile.Nearest

namespace SplitScreen

namespace Profile

/-- The calls that are to change the shape of the tree. -/
def Call.Restructures : Call → Prop
  | .split .. | .merge .. | .remove _ => True
  | _ => False

/-- The call may show the view in a pane that showed another. -/
def Call.Writes (view : View) : Call → Prop
  | .goto other | .gotoOrFocus other | .setView _ other => other = view
  | _ => False

/-- The call is to split a pane by what is no ratio. -/
def Call.LacksRatio : Call → Prop
  | .split _ _ value => Ratio.ofValue? value = none
  | _ => False

/-- A pane is found under the id in one of the ways in which a call looks for panes. -/
def Finds (p : Profile) (id : PaneId) : Prop :=
  (p.arena.leaf? id).isSome ∨ id ∈ Assoc.keys (p.arena.place p.viewport) ∨ id ∈ p.paneIds

/-- What a call does: how it ends, and the profile that it leaves. -/
inductive Step (p : Profile) : Call → Except Fault Answer → Profile → Prop
  /-- A fault before anything is written. -/
  | fails (c : Call) (fault : Fault) (hoverflow : fault = .overflow → ¬ c.Restructures)
    (hlong : fault = .longInteger → c.LacksRatio) : Step p c (.error fault) p
  /-- An answer to a question, or an edit with nothing to write. -/
  | stays {c : Call} (answer : Answer) (hc : ¬ c.Restructures) : Step p c (.ok answer) p
  | views (area : Rect) : Step p (.setViewport area) (.ok .done) { p with viewport := area }
  | focuses {c : Call} (answer : Answer) {id : PaneId} (hc : ¬ c.Restructures) (hid : p.Finds id) :
    Step p c (.ok answer) { p with focused := id }
  | shows {c : Call} {id : PaneId} {l : Leaf} (view : View) (hc : ¬ c.Restructures)
    (hl : p.arena.leaf? id = some l) (hwrites : c.Writes view) :
    Step p c (.ok .done) { p with arena := p.arena.setView l view }
  | splits {id : PaneId} {l : Leaf} {value : Value} {ratio : Ratio} (direction : Direction)
    (hl : p.arena.leaf? id = some l) (hratio : Ratio.ofValue? value = some ratio) :
    Step p (.split id direction value) (.ok (.id p.arena.nextPane))
      { p with arena := p.arena.split l direction ratio }
  | merges {a b : PaneId} {kept dropped : Leaf} {sibling : NodeIndex} {arena : Arena}
    (ha : p.arena.leaf? a = some kept) (hb : p.arena.leaf? b = some dropped) (hne : a ≠ b)
    (hparent : kept.parent = dropped.parent)
    (hcollapse : p.arena.collapse? dropped = some (sibling, arena))
    (hview : dropped.content.view.isTerminal = true → kept.content.view.isTerminal = true) :
    Step p (.merge a b) (.ok .done)
      { p with arena := arena, focused := if p.focused = b then a else p.focused }
  /-- A pane is absorbed by the pane beside it. -/
  | absorbs {id heir : PaneId} {l : Leaf} {sibling : NodeIndex} {arena : Arena}
    (hl : p.arena.leaf? id = some l) (hheir : p.arena.siblingPane? l = some heir)
    (hcollapse : p.arena.collapse? l = some (sibling, arena))
    (hview : l.content.view.isTerminal = false) :
    Step p (.remove id) (.ok (.id (if p.focused = id then heir else p.focused)))
      { p with arena := arena, focused := if p.focused = id then heir else p.focused }
  /-- A pane is closed beside a subtree, which inherits the focus. -/
  | closes {id focused : PaneId} {l : Leaf} {sibling : NodeIndex} {arena : Arena}
    (hl : p.arena.leaf? id = some l) (hcollapse : p.arena.collapse? l = some (sibling, arena))
    (hfocused : if p.focused = id then focused ∈ (arena.panesFrom sibling).map Pane.id
      else focused = p.focused)
    (hview : l.content.view.isTerminal = false) :
    Step p (.remove id) (.ok (.id focused)) { p with arena := arena, focused := focused }
  /-- A pane is closed, but its focus finds no heir. -/
  | loses {id : PaneId} {l : Leaf} {sibling : NodeIndex} {arena : Arena} {fault : Fault}
    (hl : p.arena.leaf? id = some l) (hcollapse : p.arena.collapse? l = some (sibling, arena))
    (hfocused : p.focused = id)
    (hfault : fault = .overflow ∨
      fault = .focusLost ∧ { p with arena := arena }.heirs sibling = [])
    (hview : l.content.view.isTerminal = false) :
    Step p (.remove id) (.error fault) { p with arena := arena }

variable (p : Profile)

theorem on_findLeaf (id : PaneId) :
    (findLeaf id).on p = ((p.arena.leaf id).mapError .refused, p) :=
  Edit.on_read ..

theorem on_findLeaf_of_some {id : PaneId} {l : Leaf} (hl : p.arena.leaf? id = some l) :
    (findLeaf id).on p = (.ok l, p) := by
  rw [on_findLeaf, Arena.leaf, hl]
  rfl

theorem on_findLeaf_of_none {id : PaneId} (hl : p.arena.leaf? id = none) :
    (findLeaf id).on p = (.error (.refused (.noPane id)), p) := by
  rw [on_findLeaf, Arena.leaf, hl]
  rfl

@[simp] theorem on_setFocus (id : PaneId) :
    (setFocus id).on p = (.ok (), { p with focused := id }) := rfl

@[simp] theorem on_setArena (arena : Arena) :
    (setArena arena).on p = (.ok (), { p with arena := arena }) := rfl

theorem split_cases (id : PaneId) (direction : Direction) (value : Value) :
    (∃ fault, fault ≠ .overflow ∧ (fault = .longInteger → Ratio.ofValue? value = none) ∧
        (split id direction value).on p = (.error fault, p)) ∨
      ∃ l ratio, p.arena.leaf? id = some l ∧ Ratio.ofValue? value = some ratio ∧
        (split id direction value).on p =
          (.ok p.arena.nextPane, { p with arena := p.arena.split l direction ratio }) := by
  unfold split
  cases hl : p.arena.leaf? id with
  | none =>
      exact Or.inl ⟨.refused (.noPane id), nofun, nofun, by
        simp [Edit.on_bind, on_findLeaf_of_none p hl]⟩
  | some l =>
      cases hratio : Ratio.ofValue? value with
      | none =>
          refine Or.inl ⟨.invalidRatio value, ?_, fun _ => rfl, by
            simp [Edit.on_bind, on_findLeaf_of_some p hl]⟩
          rcases Fault.invalidRatio_cases value with h | h
          · rw [h]
            nofun
          · rw [h]
            nofun
      | some ratio =>
          exact Or.inr ⟨l, ratio, rfl, rfl, by
            simp [Edit.on_bind, on_findLeaf_of_some p hl, Except.map]⟩

theorem collapse_cases (l : Leaf) :
    (p.arena.collapse? l = none ∧ (collapse l).on p = (.error .focusLost, p)) ∨
      ∃ sibling arena, p.arena.collapse? l = some (sibling, arena) ∧
        (collapse l).on p = (.ok sibling, { p with arena := arena }) := by
  unfold collapse
  cases hcollapse : p.arena.collapse? l with
  | none => exact Or.inl ⟨rfl, by simp [Edit.on_bind, hcollapse]⟩
  | some result =>
      exact Or.inr ⟨result.1, result.2, rfl, by simp [Edit.on_bind, hcollapse, Except.map]⟩

theorem merge_cases (a b : PaneId) :
    (∃ fault, fault ≠ .overflow ∧ fault ≠ .longInteger ∧
        (merge a b).on p = (.error fault, p)) ∨
      ∃ kept dropped sibling arena, p.arena.leaf? a = some kept ∧
        p.arena.leaf? b = some dropped ∧ a ≠ b ∧ kept.parent = dropped.parent ∧
        p.arena.collapse? dropped = some (sibling, arena) ∧
        (dropped.content.view.isTerminal = true → kept.content.view.isTerminal = true) ∧
        (merge a b).on p = (.ok (),
          { p with arena := arena, focused := if p.focused = b then a else p.focused }) := by
  unfold merge
  cases hkept : p.arena.leaf? a with
  | none =>
      exact Or.inl ⟨.refused (.noPane a), nofun, nofun, by
        simp [Edit.on_bind, on_findLeaf_of_none p hkept]⟩
  | some kept =>
      cases hdropped : p.arena.leaf? b with
      | none =>
          exact Or.inl ⟨.refused (.noPane b), nofun, nofun, by
            simp [Edit.on_bind, on_findLeaf_of_some p hkept, on_findLeaf_of_none p hdropped]⟩
      | some dropped =>
          simp only [Edit.on_bind, on_findLeaf_of_some p hkept, on_findLeaf_of_some p hdropped]
          split
          · exact Or.inl ⟨.refused (.notSiblings a b), nofun, nofun, rfl⟩
          · next hsiblings =>
              obtain ⟨hne, -, hparent⟩ : a ≠ b ∧ kept.parent ≠ none ∧
                  kept.parent = dropped.parent := by
                simpa [not_or] using hsiblings
              split
              · exact Or.inl ⟨.refused (.terminalDiscarded b), nofun, nofun, rfl⟩
              · next hguard =>
                  have hview : dropped.content.view.isTerminal = true →
                      kept.content.view.isTerminal = true := by
                    simpa using hguard
                  rcases collapse_cases p dropped with ⟨-, hcollapse⟩ |
                    ⟨sibling, arena, hsome, hcollapse⟩
                  · exact Or.inl ⟨.focusLost, nofun, nofun, by simp [Edit.on_bind, hcollapse]⟩
                  · refine Or.inr ⟨kept, dropped, sibling, arena, rfl, rfl, hne, hparent, hsome,
                      hview, ?_⟩
                    by_cases hfocused : p.focused = b
                    · simp [Edit.on_bind, hcollapse, hfocused]
                    · simp [Edit.on_bind, hcollapse, hfocused]

theorem inherit_cases (origin : Rect) (subtree : NodeIndex) :
    (∃ id ∈ Assoc.keys (p.heirs subtree),
        (inherit origin subtree).on p = (.ok (), { p with focused := id })) ∨
      ∃ fault, (fault = .overflow ∨ fault = .focusLost ∧ p.heirs subtree = []) ∧
        (inherit origin subtree).on p = (.error fault, p) := by
  unfold inherit
  cases hnearest : nearest? origin (p.heirs subtree) with
  | error e =>
      exact Or.inr ⟨.overflow, Or.inl rfl, by simp [Edit.on_bind, hnearest, Fault.ofOverflow]⟩
  | ok nearest =>
      rcases nearest?_cases hnearest with ⟨hnil, rfl⟩ | ⟨k, hmem, rfl⟩
      · exact Or.inr ⟨.focusLost, Or.inr ⟨rfl, hnil⟩, by
          simp [Edit.on_bind, hnearest, Fault.ofOverflow]⟩
      · exact Or.inl ⟨k, hmem, by simp [Edit.on_bind, hnearest, Fault.ofOverflow]⟩

theorem rectOf_cases (id : PaneId) :
    (∃ rect, (rectOf id).on p = (.ok rect, p)) ∨ (rectOf id).on p = (.error .focusLost, p) := by
  unfold rectOf
  cases hrect : Assoc.find? id (p.arena.place p.viewport) with
  | none => exact Or.inr (by simp [Edit.on_bind, hrect])
  | some rect => exact Or.inl ⟨rect, by simp [Edit.on_bind, hrect]⟩

theorem close_cases (id : PaneId) (l : Leaf) :
    (close id l).on p = (.error .focusLost, p) ∨
      ∃ sibling arena, p.arena.collapse? l = some (sibling, arena) ∧
        ((∃ heir, (if p.focused = id then heir ∈ (arena.panesFrom sibling).map Pane.id
            else heir = p.focused) ∧
            (close id l).on p = (.ok (), { p with arena := arena, focused := heir })) ∨
          p.focused = id ∧ ∃ fault, (fault = .overflow ∨
            fault = .focusLost ∧ { p with arena := arena }.heirs sibling = []) ∧
            (close id l).on p = (.error fault, { p with arena := arena })) := by
  unfold close
  rcases rectOf_cases p id with ⟨rect, hrect⟩ | hrect
  · rcases collapse_cases p l with ⟨-, hcollapse⟩ | ⟨sibling, arena, hsome, hcollapse⟩
    · exact Or.inl (by simp [Edit.on_bind, hrect, hcollapse])
    · refine Or.inr ⟨sibling, arena, hsome, ?_⟩
      simp only [Edit.on_bind, hrect, hcollapse, Edit.on_get]
      by_cases hfocused : p.focused = id
      · simp only [if_pos hfocused]
        rcases inherit_cases { p with arena := arena } rect sibling with
          ⟨heir, hmem, hinherit⟩ | ⟨fault, hfault, hinherit⟩
        · exact Or.inl ⟨heir, mem_of_mem_heirs hmem, hinherit⟩
        · exact Or.inr ⟨hfocused, fault, hfault, hinherit⟩
      · simp only [if_neg hfocused]
        exact Or.inl ⟨p.focused, rfl, rfl⟩
  · exact Or.inl (by simp [Edit.on_bind, hrect])

variable {p}

theorem step_split (id : PaneId) (direction : Direction) (value : Value) :
    p.Step (.split id direction value) (p.call (.split id direction value)).1
      (p.call (.split id direction value)).2 := by
  rw [call, Call.edit, Edit.on_map]
  rcases split_cases p id direction value with
    ⟨fault, hoverflow, hlong, hon⟩ | ⟨l, ratio, hl, hratio, hon⟩
  · rw [hon]
    exact .fails _ _ (fun h => absurd h hoverflow) hlong
  · rw [hon]
    exact .splits direction hl hratio

theorem step_merge (a b : PaneId) :
    p.Step (.merge a b) (p.call (.merge a b)).1 (p.call (.merge a b)).2 := by
  rw [call, Call.edit, done, Edit.on_bind]
  rcases merge_cases p a b with ⟨fault, hoverflow, hlong, hon⟩ |
    ⟨kept, dropped, sibling, arena, ha, hb, hne, hparent, hcollapse, hview, hon⟩
  · rw [hon]
    exact .fails _ _ (fun h => absurd h hoverflow) fun h => absurd h hlong
  · rw [hon]
    exact .merges ha hb hne hparent hcollapse hview

theorem step_remove (id : PaneId) :
    p.Step (.remove id) (p.call (.remove id)).1 (p.call (.remove id)).2 := by
  rw [call, Call.edit, Edit.on_map, remove, Edit.on_bind]
  cases hl : p.arena.leaf? id with
  | none =>
      rw [on_findLeaf_of_none p hl]
      exact .fails _ _ nofun nofun
  | some l =>
      rw [on_findLeaf_of_some p hl]
      simp only
      split
      · exact .fails _ _ nofun nofun
      · next hterminal =>
          have hview : l.content.view.isTerminal = false := by simpa using hterminal
          split
          · exact .fails _ _ nofun nofun
          · simp only [Edit.on_bind, Edit.on_get]
            cases hsibling : p.arena.siblingPane? l with
            | none =>
                rcases close_cases p id l with hon | ⟨sibling, arena, hcollapse,
                  ⟨heir, hheir, hon⟩ | ⟨hfocused, fault, hfault, hon⟩⟩
                · simp only [Edit.on_bind, hon]
                  exact .fails _ _ nofun nofun
                · simp only [Edit.on_bind, hon]
                  exact .closes hl hcollapse hheir hview
                · simp only [Edit.on_bind, hon]
                  exact .loses hl hcollapse hfocused hfault hview
            | some heir =>
                rcases merge_cases p heir id with ⟨fault, hoverflow, hlong, hon⟩ |
                  ⟨kept, dropped, sibling, arena, -, hdropped, -, -, hcollapse, -, hon⟩
                · simp only [Edit.on_bind, hon]
                  exact .fails _ _ (fun h => absurd h hoverflow) fun h => absurd h hlong
                · simp only [Edit.on_bind, hon]
                  obtain rfl : l = dropped := Option.some.inj (hl.symm.trans hdropped)
                  exact .absorbs hl hsibling hcollapse hview

theorem step_setView (id : PaneId) (view : View) {c : Call} (hc : ¬ c.Restructures)
    (hwrites : c.Writes view) :
    p.Step c ((done (setView id view)).on p).1 ((done (setView id view)).on p).2 := by
  rw [done, setView]
  cases hl : p.arena.leaf? id with
  | none =>
      simp only [Edit.on_bind, on_findLeaf_of_none p hl]
      exact .fails _ _ nofun nofun
  | some l =>
      simp only [Edit.on_bind, on_findLeaf_of_some p hl]
      exact .shows view hc hl hwrites

theorem step_gotoOrFocus (view : View) :
    p.Step (.gotoOrFocus view) (p.call (.gotoOrFocus view)).1
      (p.call (.gotoOrFocus view)).2 := by
  rw [call, Call.edit]
  cases hfind : p.panes.find? fun pane => decide (pane.view = view) with
  | none =>
      have hon : (done (gotoOrFocus view)).on p = (done (setView p.focused view)).on p := by
        simp only [done, gotoOrFocus, goto, Edit.on_bind, Edit.on_get, hfind]
      rw [hon]
      exact step_setView p.focused view nofun rfl
  | some pane =>
      simp only [done, gotoOrFocus, Edit.on_bind, Edit.on_get, hfind, on_setFocus]
      have hmem := List.mem_of_find?_eq_some hfind
      exact .focuses _ nofun (Or.inr (Or.inr (List.mem_map.mpr ⟨pane, hmem, rfl⟩)))

theorem step_goto (view : View) :
    p.Step (.goto view) (p.call (.goto view)).1 (p.call (.goto view)).2 := by
  have hon : (done (goto view)).on p = (done (setView p.focused view)).on p := by
    simp only [done, goto, Edit.on_bind, Edit.on_get]
  rw [call, Call.edit, hon]
  exact step_setView p.focused view nofun rfl

theorem step_focus (id : PaneId) :
    p.Step (.focus id) (p.call (.focus id)).1 (p.call (.focus id)).2 := by
  rw [call, Call.edit, done, focus]
  cases hl : p.arena.leaf? id with
  | none =>
      simp only [Edit.on_bind, on_findLeaf_of_none p hl]
      exact .fails _ _ nofun nofun
  | some l =>
      simp only [Edit.on_bind, on_findLeaf_of_some p hl, on_setFocus]
      exact .focuses _ nofun (Or.inl (by rw [hl]; rfl))

theorem step_focusAt (point : Point) :
    p.Step (.focusAt point) (p.call (.focusAt point)).1 (p.call (.focusAt point)).2 := by
  rw [call, Call.edit, Edit.on_map, focusAt]
  simp only [Edit.on_bind, Edit.on_get]
  cases hfind : (p.arena.place p.viewport).find? fun placed => placed.2.contains point with
  | none => exact .stays _ nofun
  | some placed =>
      have hmem := List.mem_of_find?_eq_some hfind
      exact .focuses _ nofun (Or.inr (Or.inl (List.mem_map.mpr ⟨placed, hmem, rfl⟩)))

theorem step_focusTowards (side : Side) :
    p.Step (.focusTowards side) (p.call (.focusTowards side)).1
      (p.call (.focusTowards side)).2 := by
  rw [call, Call.edit, done, focusTowards]
  simp only [Edit.on_bind, Edit.on_get]
  cases hcurrent : Assoc.find? p.focused (p.arena.place p.viewport) with
  | none => exact .fails _ _ nofun nofun
  | some current =>
      simp only [Edit.on_bind, Edit.on_ofOutcome]
      cases hnearest : nearestOnSide? side current (p.arena.place p.viewport) with
      | error e => exact .fails _ _ (fun _ => nofun) nofun
      | ok nearest =>
          cases nearest with
          | none => exact .stays _ nofun
          | some id => exact .focuses _ nofun (Or.inr (Or.inl (mem_of_nearestOnSide? hnearest)))

theorem step_tell {c : Call} {f : Profile → Except Refusal Answer} (hc : ¬ c.Restructures) :
    p.Step c ((tell f).on p).1 ((tell f).on p).2 := by
  rw [tell, Edit.on_read]
  cases f p with
  | error r => exact .fails _ _ nofun nofun
  | ok answer => exact .stays _ hc

theorem step_call (c : Call) : p.Step c (p.call c).1 (p.call c).2 := by
  cases c with
  | split id direction ratio => exact step_split id direction ratio
  | merge a b => exact step_merge a b
  | remove id => exact step_remove id
  | focus id => exact step_focus id
  | focusAt point => exact step_focusAt point
  | setViewport area => exact .views area
  | focusTowards side => exact step_focusTowards side
  | goto view => exact step_goto view
  | gotoOrFocus view => exact step_gotoOrFocus view
  | setView id view => exact step_setView id view nofun rfl
  | siblingOf | pane | focusedPane | panes | flatten | toLayout | roundTrip =>
      exact step_tell nofun

theorem step_of_call {outcome : Except Fault Answer} {q : Profile} {c : Call}
    (h : p.call c = (outcome, q)) : p.Step c outcome q := by
  have hstep := p.step_call c
  rwa [h] at hstep

end Profile

end SplitScreen
