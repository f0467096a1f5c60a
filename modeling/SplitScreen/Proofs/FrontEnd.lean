import SplitScreen.Proofs.Screen.Delegation
import SplitScreen.Proofs.Screen.Invariant
import SplitScreen.Session

namespace SplitScreen

namespace Screen

/-- One screen comes from another by actions of its own that register no profile. -/
def Becomes (s t : Screen) : Prop :=
  ∃ actions : List Action, (∀ a ∈ actions, a.IsOwn ∧ ¬ a.Registers) ∧ t = s.run actions

variable {s t u : Screen} {name : Text} {p : Profile}

theorem Becomes.refl (s : Screen) : s.Becomes s := ⟨[], nofun, rfl⟩

theorem becomes_act (s : Screen) {a : Action} (hown : a.IsOwn) (hregisters : ¬ a.Registers) :
    s.Becomes (s.act a).2 :=
  ⟨[a], List.forall_mem_singleton.mpr ⟨hown, hregisters⟩, rfl⟩

theorem Becomes.trans (h : s.Becomes t) (h' : t.Becomes u) : s.Becomes u := by
  obtain ⟨actions, hactions, rfl⟩ := h
  obtain ⟨more, hmore, rfl⟩ := h'
  refine ⟨actions ++ more, fun a ha => ?_, (List.foldl_append ..).symm⟩
  rcases List.mem_append.mp ha with ha | ha
  · exact hactions a ha
  · exact hmore a ha

theorem writes_of_mem_callsFor {a : Action} (ha : a.IsOwn) {c : Profile.Call}
    (hc : c ∈ a.callsFor name s) {view : View} (hview : c.Writes view) :
    view = .kind .terminal := by
  unfold Action.callsFor at hc
  split at hc
  · rw [List.mem_singleton.mp hc] at hview
    exact hview.elim
  · split at hc
    · split at hc
      · exact (ha.calls hc).2 view hview
      · cases hc
    · cases hc

theorem writes_of_mem_log {actions : List Action}
    (h : ∀ a ∈ actions, a.IsOwn ∧ ¬ a.Registers) {c : Profile.Call}
    (hc : c ∈ s.log name actions) {view : View} (hview : c.Writes view) :
    view = .kind .terminal := by
  induction actions generalizing s with
  | nil => cases hc
  | cons a actions ih =>
      obtain ⟨ha, hactions⟩ := List.forall_mem_cons.mp h
      rcases List.mem_append.mp hc with hc | hc
      · exact writes_of_mem_callsFor ha.1 hc hview
      · exact ih hactions hc

theorem Becomes.exists_calls (h : s.Becomes t) (name : Text) :
    ∃ calls : List Profile.Call,
      (∀ c ∈ calls, ∀ view, c.Writes view → view = .kind .terminal) ∧
        t.profiles.find? name = (s.profiles.find? name).map fun p => p.run calls := by
  obtain ⟨actions, hactions, rfl⟩ := h
  refine ⟨s.log name actions, fun c hc view => writes_of_mem_log hactions hc, ?_⟩
  exact find?_run s name fun a ha => (hactions a ha).2

theorem Becomes.registered (h : s.Becomes t) (hs : s.Registered) : t.Registered := by
  obtain ⟨actions, hactions, rfl⟩ := h
  induction actions generalizing s with
  | nil => exact hs
  | cons a actions ih =>
      obtain ⟨ha, hactions⟩ := List.forall_mem_cons.mp hactions
      have hname : ∀ name, a ≠ .setCurrent name := by
        rintro name rfl
        exact ha.1
      exact ih ((step_act s a).registered hname hs) hactions

theorem becomes_pointed (s : Screen) (point : Point) :
    s.Becomes (dispatchPointer.on (s.movePointer point)).2 := by
  refine ⟨[.movePointer point, .dispatchPointer], ?_, ?_⟩
  · simp [Action.IsOwn, Action.Registers]
  · exact (congrArg Prod.snd (Edit.on_map _ _ _)).symm

theorem Becomes.exists_holds (h : s.Becomes t) (hs : s.Valid)
    (hp : t.profiles.find? name = some p) : ∃ tree, p.arena.Holds [] tree := by
  obtain ⟨calls, -, hfind⟩ := h.exists_calls name
  rw [hfind] at hp
  obtain ⟨q, hq, rfl⟩ := Option.map_eq_some_iff.mp hp
  obtain ⟨tree, htree⟩ := (hs.profile hq).exists_holds
  exact Profile.exists_holds_run htree calls

end Screen

def Command.actions : Command → List Screen.Action
  | quit => []
  | focus side => [.focusTowards side]
  | split direction => [.splitFocused direction Ratio.even.toValue]
  | close => [.closeFocused]
  | merge => [.mergeFocused]
  | fullScreen => [.toggleFullScreen]
  | enterTerminal => [.enterTerminal]
  | release => [.release]
  | small => [.switchTo Screen.smallName]
  | large => [.switchTo Screen.largeName]

theorem Command.snd_apply (c : Command) (s : Screen) : (c.apply s).2 = s.run c.actions := by
  cases c with
  | quit => rfl
  | fullScreen | release => rfl
  | focus | merge | enterTerminal | small | large => exact (Screen.on_silent _ s).symm
  | split | close =>
      rw [apply, edit, Edit.on_bind, actions, Screen.run, List.foldl_cons, Screen.act,
        Screen.Action.edit, Edit.on_map]
      split <;> next hon => simp only [hon, List.foldl_nil, Edit.on_pure]

theorem Command.becomes_apply (c : Command) (s : Screen) : s.Becomes (c.apply s).2 := by
  refine ⟨c.actions, ?_, c.snd_apply s⟩
  cases c <;> simp [actions, Screen.Action.IsOwn, Screen.Action.Registers]

namespace FrontEnd

/-- Drawing gives the screen the area of the panes, whether all can be drawn or not. -/
theorem screen_refresh (f : FrontEnd) :
    f.refresh.2.screen = if f.area.area = 0 then f.screen else f.screen.resize f.area := by
  unfold refresh
  generalize (if f.area.area = 0 then f.screen else f.screen.resize f.area) = s
  simp only
  split
  · rfl
  · split
    · rfl
    · split <;> rfl

theorem becomes_refresh (f : FrontEnd) : f.screen.Becomes f.refresh.2.screen := by
  rw [screen_refresh]
  split
  · exact .refl _
  · exact Screen.becomes_act (a := .resize f.area) f.screen trivial id

theorem becomes_run (f : FrontEnd) (c : Command) : f.screen.Becomes (f.run c).2.screen := by
  have happly := c.becomes_apply f.screen
  unfold run
  split
  · next s hs =>
      rw [hs] at happly
      exact happly.trans (becomes_refresh { f with screen := s })
  · next hs =>
      rw [hs] at happly
      exact happly
  · next hs =>
      rw [hs] at happly
      exact happly

/-- A key runs a command or changes nothing. -/
theorem key_cases (f : FrontEnd) (name : String) :
    (∃ reaction, f.key name = (.ok ⟨reaction, []⟩, f)) ∨ ∃ c, f.key name = f.run c := by
  unfold key
  split
  · exact Or.inl ⟨_, rfl⟩
  · split
    · exact Or.inl ⟨_, rfl⟩
    · split
      · exact Or.inl ⟨_, rfl⟩
      · exact Or.inr ⟨_, rfl⟩

theorem becomes_key (f : FrontEnd) (name : String) : f.screen.Becomes (f.key name).2.screen := by
  rcases f.key_cases name with ⟨reaction, h⟩ | ⟨c, h⟩
  · rw [h]
    exact .refl _
  · rw [h]
    exact becomes_run f c

theorem becomes_pointer (f : FrontEnd) (cell : Point) :
    f.screen.Becomes (f.pointer cell).2.screen := by
  have hmoved := f.screen.becomes_pointed ⟨cell.x - f.origin.x, cell.y - f.origin.y⟩
  unfold pointer
  simp only
  split
  · exact .refl _
  · exact hmoved
  · exact hmoved
  · split
    · exact hmoved.trans (becomes_refresh { f with screen := _ })
    · exact hmoved

theorem becomes_handle (f : FrontEnd) (e : Event) : f.screen.Becomes (f.handle e).2.screen := by
  cases e with
  | key name => exact becomes_key f name
  | pointer cell => exact becomes_pointer f cell
  | resize width height => exact becomes_refresh { f with width := width, height := height }

end FrontEnd

theorem FrontEnd.handle_quit (f : FrontEnd) : f.handle (.key "q") = (.ok ⟨.ran .quit, []⟩, f) := by
  have hkey : Command.ofKey? "q" = some .quit := rfl
  have hallowed : (f.screen.captured && !Command.allowedWhenCaptured .quit) = false :=
    Bool.and_false _
  rw [handle, key, hkey]
  simp only [hallowed, Bool.false_eq_true, if_false, if_true]

namespace Session

/-- The screens that are shown after the start and after every event, and the last one. -/
def screens (session : Session) : List Screen :=
  session.frames.map (fun frame => frame.shown.screen) ++ [session.last.screen]

section Frames

variable {P : FrontEnd → Prop}
  (hstep : ∀ {f g : FrontEnd} {e : Event} {report : FrontEnd.Report}, P f →
    f.handle e = (.ok report, g) → P g)

include hstep

/-- What the events that are handled keep holds of every frame. -/
theorem of_mem_proceed {f : FrontEnd} (hf : P f) {inputs : List Input} {frame : Frame}
    (h : frame ∈ (proceed f inputs).frames) : P frame.shown := by
  induction inputs generalizing f with
  | nil => cases h
  | cons input inputs ih =>
      cases input with
      | interrupt => cases h
      | event e =>
          unfold proceed at h
          split at h
          · cases h
          · next report g hhandle =>
              have hg := hstep hf hhandle
              split at h
              · obtain rfl := List.mem_singleton.mp h
                exact hg
              · rcases List.mem_cons.mp h with rfl | h
                · exact hg
                · exact ih hg h

theorem of_mem_start {s : Screen} {origin : Point} {width height : Int}
    (hmount : ∀ {report : FrontEnd.Report} {f : FrontEnd},
      (FrontEnd.ofScreen s origin width height).mount = (.ok report, f) → P f)
    {inputs : List Input} {frame : Frame}
    (h : frame ∈ (start s origin width height inputs).frames) : P frame.shown := by
  unfold start at h
  split at h
  · cases h
  · next hon =>
      rcases List.mem_cons.mp h with rfl | h
      · exact hmount hon
      · exact of_mem_proceed hstep (hmount hon) h

end Frames

theorem pairwise_cons {s t : Screen} {screens : List Screen} (h : s.Becomes t)
    (hscreens : (t :: screens).Pairwise Screen.Becomes) :
    (s :: t :: screens).Pairwise Screen.Becomes := by
  refine List.Pairwise.cons (fun u hu => ?_) hscreens
  rcases List.mem_cons.mp hu with rfl | hu
  · exact h
  · exact h.trans (List.rel_of_pairwise_cons hscreens hu)

theorem pairwise_proceed (f : FrontEnd) (inputs : List Input) :
    (f.screen :: (proceed f inputs).screens).Pairwise Screen.Becomes := by
  have hlast (g : FrontEnd) : [g.screen].Pairwise Screen.Becomes := List.pairwise_singleton _ _
  induction inputs generalizing f with
  | nil => exact pairwise_cons (.refl _) (hlast f)
  | cons input inputs ih =>
      cases input with
      | interrupt => exact pairwise_cons (.refl _) (hlast f)
      | event e =>
          have hhandle := f.becomes_handle e
          unfold proceed
          split
          · next hon =>
              rw [hon] at hhandle
              exact pairwise_cons hhandle (hlast _)
          · next hon =>
              rw [hon] at hhandle
              simp only
              split
              · exact pairwise_cons hhandle (pairwise_cons (.refl _) (hlast _))
              · exact pairwise_cons hhandle (ih _)

/-- Of two screens of a session, the later comes from the earlier. -/
theorem pairwise_screens (s : Screen) (origin : Point) (width height : Int)
    (inputs : List Input) :
    (s :: (start s origin width height inputs).screens).Pairwise Screen.Becomes := by
  have hmount : s.Becomes (FrontEnd.ofScreen s origin width height).mount.2.screen :=
    (FrontEnd.ofScreen s origin width height).becomes_refresh
  unfold start
  split
  · next hon =>
      rw [hon] at hmount
      exact pairwise_cons hmount (List.pairwise_singleton _ _)
  · next f hon =>
      rw [hon] at hmount
      exact pairwise_cons hmount (pairwise_proceed f inputs)

theorem becomes_last (s : Screen) (origin : Point) (width height : Int) (inputs : List Input) :
    s.Becomes (start s origin width height inputs).last.screen := by
  apply List.rel_of_pairwise_cons (pairwise_screens s origin width height inputs)
  exact List.mem_append_right _ (List.mem_singleton_self _)

end Session

end SplitScreen
