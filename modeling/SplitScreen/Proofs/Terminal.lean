import SplitScreen.Proofs.FrontEnd
import SplitScreen.Proofs.Profile.Panes

namespace SplitScreen

/-- The profile of the name has a pane that shows the terminal. -/
def Screen.HasTerminal (s : Screen) (name : Text) : Prop :=
  ∃ p, s.profiles.find? name = some p ∧ Pane.SomeTerminal p.panes

namespace Screen

variable {s t : Screen} {name : Text} {p : Profile}

theorem Becomes.hasTerminal (h : s.Becomes t)
    (hs : ∀ {p : Profile}, s.profiles.find? name = some p → ∃ tree, p.arena.Holds [] tree)
    (hterminal : s.HasTerminal name) : t.HasTerminal name := by
  obtain ⟨p, hp, hpanes⟩ := hterminal
  obtain ⟨calls, hcalls, hfind⟩ := h.exists_calls name
  obtain ⟨tree, htree⟩ := hs hp
  refine ⟨p.run calls, by rw [hfind, hp]; rfl, ?_⟩
  apply Profile.someTerminal_run htree _ hpanes
  intro c hc view hview
  rw [hcalls c hc view hview]
  rfl

end Screen

namespace Profile

variable {p q : Profile}

theorem remove_discards (hp : p.Reachable) {id : PaneId} {answer : Answer}
    (h : p.call (.remove id) = (.ok answer, q)) :
    ∃ before after view, p.panes = before ++ ⟨id, view⟩ :: after ∧ q.panes = before ++ after ∧
      view.isTerminal = false := by
  obtain ⟨t, ht⟩ := hp.exists_holds
  exact (step_of_call h).discards_remove ht

/-- A merge discards a terminal pane only when the pane that is kept shows the terminal too. -/
theorem merge_discards (hp : p.Reachable) {a b : PaneId} {answer : Answer}
    (h : p.call (.merge a b) = (.ok answer, q)) :
    ∃ before after kept view, p.panes = before ++ ⟨b, view⟩ :: after ∧
      q.panes = before ++ after ∧ ⟨a, kept⟩ ∈ before ++ after ∧
      (view.isTerminal = true → kept.isTerminal = true) := by
  obtain ⟨t, ht⟩ := hp.exists_holds
  exact (step_of_call h).discards_merge ht

/-- No call but one that writes a view takes the last terminal, however it ends. -/
theorem someTerminal_call (hp : p.Reachable) {c : Call} (hc : c.Restructures)
    (hpanes : Pane.SomeTerminal p.panes) : Pane.SomeTerminal (p.call c).2.panes := by
  obtain ⟨t, ht⟩ := hp.exists_holds
  apply (p.step_call c).rewrites ht |>.someTerminal _ hpanes
  intro view hwrites
  cases c with
  | split | merge | remove => exact hwrites.elim
  | _ => exact hc.elim

end Profile

namespace Session

/-- A profile that has a terminal pane at some point of a session has one after every later event.
For a single profile: a removal that is answered discards no terminal pane, a merge that is answered
only one beside another, and neither takes the last one however it ends. -/
theorem terminal_kept :
    (∀ (literals : Assoc Text (Layout Value)) (name : Text) (s : Screen),
      Screen.ofLiterals literals name = .ok s →
      ∀ (origin : Point) (width height : Int) (inputs : List Input),
        (s :: (start s origin width height inputs).screens).Pairwise fun t u =>
          ∀ name, t.HasTerminal name → u.HasTerminal name) ∧
    (∀ (p q : Profile) (id : PaneId) (answer : Profile.Answer), p.Reachable →
      p.call (.remove id) = (.ok answer, q) →
      ∃ before after view, p.panes = before ++ ⟨id, view⟩ :: after ∧ q.panes = before ++ after ∧
        view.isTerminal = false) ∧
    (∀ (p q : Profile) (a b : PaneId) (answer : Profile.Answer), p.Reachable →
      p.call (.merge a b) = (.ok answer, q) →
      ∃ before after kept view, p.panes = before ++ ⟨b, view⟩ :: after ∧
        q.panes = before ++ after ∧ ⟨a, kept⟩ ∈ before ++ after ∧
        (view.isTerminal = true → kept.isTerminal = true)) ∧
    ∀ (p : Profile) (c : Profile.Call), p.Reachable → c.Restructures →
      Pane.SomeTerminal p.panes → Pane.SomeTerminal (p.call c).2.panes := by
  refine ⟨fun literals name s h origin width height inputs => ?_,
    fun p q id answer hp h => Profile.remove_discards hp h,
    fun p q a b answer hp h => Profile.merge_discards hp h,
    fun p c hp hc hpanes => Profile.someTerminal_call hp hc hpanes⟩
  have hvalid := Screen.valid_ofLiterals h
  have hpairs := pairwise_screens s origin width height inputs
  -- The trees of a later screen come from those of the first one.
  refine hpairs.imp_of_mem fun {t u} ht _ htu other => htu.hasTerminal ?_
  intro p hp
  rcases List.mem_cons.mp ht with rfl | ht
  · exact (Screen.Becomes.refl _).exists_holds hvalid hp
  · exact (List.rel_of_pairwise_cons hpairs ht).exists_holds hvalid hp

theorem terminal_kept_large :
    let s := Screen.initial
    let p := Profile.ofLayout Layout.large
    let q := (p.call (.remove 2)).2
    let r := (p.call (.merge 1 0)).2
    ((s :: (start s ⟨0, 1⟩ 80 22 [.event (.key "2"), .event (.key "x")]).screens).Pairwise
        fun t u => ∀ name, t.HasTerminal name → u.HasTerminal name) ∧
      (∃ before after view, p.panes = before ++ ⟨2, view⟩ :: after ∧ q.panes = before ++ after ∧
        view.isTerminal = false) ∧
      (∃ before after kept view, p.panes = before ++ ⟨0, view⟩ :: after ∧
        r.panes = before ++ after ∧ ⟨1, kept⟩ ∈ before ++ after ∧
        (view.isTerminal = true → kept.isTerminal = true)) ∧
      Pane.SomeTerminal r.panes := by
  intro s p q r
  obtain ⟨hsession, hremove, hmerge, hcall⟩ := terminal_kept
  have hp : p.Reachable := Profile.reachable_ofLayout Layout.large Profile.defaultViewport
  have hpanes : Pane.SomeTerminal p.panes := ⟨⟨1, .kind .terminal⟩, by decide, rfl⟩
  have hs : Screen.ofLiterals [] Screen.smallName = .ok s := rfl
  refine ⟨hsession [] _ s hs ⟨0, 1⟩ 80 22 _, hremove p q 2 (.id 1) hp rfl,
    hmerge p r 1 0 .done hp rfl, hcall p (.merge 1 0) hp trivial hpanes⟩

end Session

end SplitScreen
