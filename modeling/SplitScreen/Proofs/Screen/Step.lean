import SplitScreen.Proofs.Outcome
import SplitScreen.Screen

/-!
What an action can do to a screen, told once. Profiles are only written by calls on the current one,
which `Action.callsOn` lists, by the area of the screen, and when a profile is registered; the
modes, the pending pointer and the name of the current profile each have their own actions. What
holds of screens along a run is shown on steps, without looking into the edits again.
-/

namespace SplitScreen

namespace Profile

theorem on_done (x : Edit Profile Unit) (p : Profile) :
    (done x).on p = ((x.on p).1.map fun _ => .done, (x.on p).2) := by
  rw [done, Edit.on_bind]
  rcases x.on p with ⟨fault | _, q⟩ <;> rfl

theorem call_tell {f : Profile → Except Refusal Answer} {c : Call} (hc : c.edit = tell f)
    (p : Profile) : (p.call c).2 = p := by
  rw [call, hc, tell, Edit.on_read]

end Profile

namespace Screen

/-- The calls that an action makes on the current profile of a screen. -/
def Action.callsOn (s : Screen) (p : Profile) : Action → List Profile.Call
  | .dispatchPointer =>
    match s.pending with
    | none => []
    | some point => if s.fullScreen then [] else [.focusAt point]
  | .enterTerminal => if s.fullScreen then [] else [.gotoOrFocus (.kind .terminal)]
  | .mergeFocused =>
    match p.siblingOf p.focused with
    | .ok (some sibling) => [.siblingOf p.focused, .merge p.focused sibling]
    | _ => [.siblingOf p.focused]
  | .closeFocused => [.remove p.focused]
  | .splitFocused direction ratio => [.split p.focused direction ratio]
  | .focusTowards side => [.focusTowards side]
  | .focusedPane => [.focusedPane]
  | .flatten area => if s.fullScreen then [.focusedPane] else [.flatten area]
  | .onActive call => [call]
  | _ => []

/-- What an action does: the screen that it leaves. -/
inductive Step (s : Screen) : Action → Screen → Prop
  /-- A question, or an action that is refused before anything is written. -/
  | stays {a : Action} (ha : ∀ area, a ≠ .resize area)
    (hcalls : ∀ p q : Profile, s.active = .ok p → q.run (a.callsOn s p) = q) : Step s a s
  | calls {a : Action} {p : Profile} (ha : ∀ area, a ≠ .resize area) (hp : s.active = .ok p) :
    Step s a (s.setActive (p.run (a.callsOn s p)))
  /-- The terminal is in focus, and the keys go to it. -/
  | enters {p : Profile} (hp : s.active = .ok p) :
    Step s .enterTerminal (s.setActive (p.run (Action.enterTerminal.callsOn s p))).capture
  /-- The pending pointer is taken, and hits nothing that it could be on. -/
  | takes (hcalls : ∀ p q : Profile, s.active = .ok p →
      q.run (Action.dispatchPointer.callsOn s p) = q) :
    Step s .dispatchPointer { s with pending := none }
  | points {p : Profile} (hp : s.active = .ok p) :
    Step s .dispatchPointer
      { s.setActive (p.run (Action.dispatchPointer.callsOn s p)) with pending := none }
  | toggles : Step s .toggleFullScreen s.toggleFullScreen
  | captures : Step s .capture s.capture
  | releases : Step s .release s.release
  | moves (point : Point) : Step s (.movePointer point) (s.movePointer point)
  | switches {name : Text} (hname : s.profiles.contains name = true) :
    Step s (.switchTo name) { s with current := name }
  | resizes (area : Rect) : Step s (.resize area) (s.resize area)
  | registers {name : Text} {literal : Layout Value} {viewport : Rect} {p : Profile}
    (hp : Profile.ofLiteral literal viewport = .ok p) :
    Step s (.addProfile name literal viewport) (s.addProfile name p)
  | names (name : Text) : Step s (.setCurrent name) { s with current := name }
  | sets (point : Option Point) : Step s (.setPending point) { s with pending := point }

variable {s : Screen} {a : Action} {p : Profile}

theorem find?_of_active (h : s.active = .ok p) : s.profiles.find? s.current = some p := by
  unfold active at h
  split at h
  · next q hq => rw [hq, Except.ok.inj h]
  · cases h

theorem setActive_of_active (h : s.active = .ok p) : s.setActive p = s := by
  rw [setActive, Assoc.insert_of_find? (find?_of_active h)]

theorem on_onActive {α : Type} (h : s.active = .ok p) (x : Edit Profile α) :
    (onActive x).on s = ((x.on p).1, s.setActive (x.on p).2) := by
  simp only [onActive, Edit.on_bind, Edit.on_read_of_ok h, Edit.on_modify, Edit.on_ofOutcome]

theorem on_onActive_of_error {α : Type} {r : Refusal} (h : s.active = .error r)
    (x : Edit Profile α) : (onActive x).on s = (.error (.refused r), s) := by
  simp only [onActive, Edit.on_bind, Edit.on_read_of_error h]

theorem snd_on_onActive_of_error {α : Type} {r : Refusal} (h : s.active = .error r)
    (x : Edit Profile α) : ((onActive x).on s).2 = s := by
  rw [on_onActive_of_error h]

theorem on_silent (x : Edit Screen Unit) (s : Screen) : ((silent x).on s).2 = (x.on s).2 := by
  rw [silent, Edit.on_bind]
  rcases x.on s with ⟨fault | _, t⟩ <;> rfl

theorem step_onActive {α : Type} {x : Edit Profile α} (ha : ∀ area, a ≠ .resize area)
    (hx : ∀ p, (x.on p).2 = p.run (a.callsOn s p)) : s.Step a ((onActive x).on s).2 := by
  cases hactive : s.active with
  | error r =>
      rw [snd_on_onActive_of_error hactive]
      apply Step.stays ha
      intro p q hp
      rw [hactive] at hp
      cases hp
  | ok p =>
      rw [on_onActive hactive, hx p]
      exact Step.calls ha hactive

theorem step_read {α : Type} {f : Screen → Except Refusal α} (ha : ∀ area, a ≠ .resize area)
    (hcalls : ∀ p q : Profile, q.run (a.callsOn s p) = q) :
    s.Step a ((Edit.read f).on s).2 := by
  rw [Edit.on_read]
  exact Step.stays ha fun p q _ => hcalls p q

theorem on_switchTo (name : Text) (s : Screen) :
    (switchTo name).on s =
      if s.profiles.contains name then (.ok (), { s with current := name })
      else (.error (.refused (.noProfile name)), s) := by
  unfold switchTo showing
  by_cases hname : s.profiles.contains name = true
  · simp [Edit.on_bind, Edit.on_read, hname, mapError_ok]
  · simp [Edit.on_bind, Edit.on_read, hname, mapError_error]

theorem step_dispatchPointer (s : Screen) : s.Step .dispatchPointer (dispatchPointer.on s).2 := by
  rw [dispatchPointer]
  simp only [Edit.on_bind, Edit.on_get, Edit.on_set]
  cases hpending : s.pending with
  | none =>
      apply Step.takes
      intro p q _
      rw [Action.callsOn, hpending]
      rfl
  | some point =>
      by_cases hfull : s.fullScreen = true
      · simp only [if_pos hfull]
        apply Step.takes
        intro p q _
        rw [Action.callsOn, hpending, hfull]
        rfl
      · simp only [if_neg hfull]
        cases hactive : s.active with
        | error r =>
            have htaken : ({ s with pending := none } : Screen).active = .error r := hactive
            rw [snd_on_onActive_of_error htaken]
            apply Step.takes
            intro p q hp
            rw [hactive] at hp
            cases hp
        | ok p =>
            have htaken : ({ s with pending := none } : Screen).active = .ok p := hactive
            have hfocus : ((Profile.focusAt point).on p).2 =
                p.run (Action.dispatchPointer.callsOn s p) := by
              rw [Action.callsOn, hpending]
              simp only [if_neg hfull]
              exact (congrArg Prod.snd (Edit.on_map _ _ _)).symm
            rw [on_onActive htaken, hfocus]
            exact Step.points hactive

theorem step_enterTerminal (s : Screen) : s.Step .enterTerminal (enterTerminal.on s).2 := by
  unfold enterTerminal
  simp only [Edit.on_bind, Edit.on_get]
  by_cases hfull : s.fullScreen = true
  · simp only [if_pos hfull]
    refine Step.stays nofun fun p q _ => ?_
    rw [Action.callsOn, if_pos hfull]
    rfl
  · have hgoto (p : Profile) : ((Profile.gotoOrFocus (.kind .terminal)).on p).2 =
        p.run (Action.enterTerminal.callsOn s p) := by
      rw [Action.callsOn, if_neg hfull]
      exact (congrArg Prod.snd (Profile.on_done _ _)).symm
    simp only [if_neg hfull, Edit.on_bind]
    cases hactive : s.active with
    | error r =>
        simp only [onActive, Edit.on_bind, Edit.on_read_of_error hactive]
        refine Step.stays nofun fun p q hp => ?_
        rw [hactive] at hp
        cases hp
    | ok p =>
        rw [on_onActive hactive, hgoto p]
        -- The keys go to the terminal only when the profile answers.
        rcases ((Profile.gotoOrFocus (.kind .terminal)).on p).1 with fault | _
        · exact Step.calls nofun hactive
        · exact Step.enters hactive

theorem step_mergeFocused (s : Screen) : s.Step .mergeFocused (mergeFocused.on s).2 := by
  refine step_onActive nofun fun p => ?_
  have hsibling : (p.call (.siblingOf p.focused)).2 = p := Profile.call_tell rfl p
  simp only [Edit.on_bind, Edit.on_get, Edit.on_read, Action.callsOn]
  rcases hside : p.siblingOf p.focused with r | sibling
  · exact hsibling.symm
  · cases sibling with
    | none => exact hsibling.symm
    | some sibling =>
        have hrun : p.run [.siblingOf p.focused, .merge p.focused sibling] =
            (p.call (.merge p.focused sibling)).2 := by
          rw [Profile.run, List.foldl_cons, hsibling]
          rfl
        rw [hrun, Profile.call, Profile.Call.edit, Profile.on_done]
        rfl

theorem step_act (s : Screen) (a : Action) : s.Step a (s.act a).2 := by
  cases a with
  | toggleFullScreen => exact Step.toggles
  | capture => exact Step.captures
  | release => exact Step.releases
  | movePointer point => exact Step.moves point
  | setCurrent name => exact Step.names name
  | setPending point => exact Step.sets point
  | resize area => exact Step.resizes area
  | profileNames => exact step_read nofun fun _ _ => rfl
  | focusedPane => exact step_read nofun fun _ => Profile.call_tell rfl
  | flatten area =>
      refine step_read nofun fun p q => ?_
      rw [Action.callsOn]
      split <;> exact Profile.call_tell rfl q
  | switchTo name =>
      rw [act, Action.edit, on_silent, on_switchTo]
      split
      · next hname => exact Step.switches hname
      · exact Step.stays nofun fun _ _ _ => rfl
  | addProfile name literal viewport =>
      rw [act, Action.edit, Edit.on_bind, Edit.on_ofOutcome]
      cases hliteral : Profile.ofLiteral literal viewport with
      | error fault => exact Step.stays nofun fun _ _ _ => rfl
      | ok p => exact Step.registers hliteral
  | dispatchPointer =>
      rw [act, Action.edit, Edit.on_map]
      exact step_dispatchPointer s
  | enterTerminal =>
      rw [act, Action.edit, on_silent]
      exact step_enterTerminal s
  | mergeFocused =>
      rw [act, Action.edit, on_silent]
      exact step_mergeFocused s
  | closeFocused | splitFocused =>
      rw [act, Action.edit, Edit.on_map]
      refine step_onActive nofun fun p => ?_
      simp only [Edit.on_bind, Edit.on_get]
      exact (congrArg Prod.snd (Edit.on_map _ _ _)).symm
  | focusTowards side =>
      rw [act, Action.edit, on_silent]
      exact step_onActive nofun fun p => (congrArg Prod.snd (Profile.on_done _ _)).symm
  | onActive call =>
      rw [act, Action.edit, Edit.on_map]
      exact step_onActive nofun fun p => rfl

theorem Step.pending_eq_none {t : Screen} (h : s.Step a t) (hmove : ∀ point, a ≠ .movePointer point)
    (hset : ∀ point, a ≠ .setPending point) (hs : s.pending = none) : t.pending = none := by
  cases h with
  | stays | calls | enters | captures | releases | switches | resizes | registers | names =>
      exact hs
  | takes | points => rfl
  | toggles =>
      rw [toggleFullScreen]
      split
      · exact hs
      · rfl
  | moves point => exact absurd rfl (hmove point)
  | sets point => exact absurd rfl (hset point)

end Screen

end SplitScreen
