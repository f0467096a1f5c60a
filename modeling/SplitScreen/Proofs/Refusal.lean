import SplitScreen.FrontEnd
import SplitScreen.Proofs.Edit
import SplitScreen.Proofs.Profile.Step
import SplitScreen.Proofs.Screen.Reachable

/-!
A refused operation changes nothing, on all three levels. On a profile that is read off the steps.
On a screen every action is put together from checked edits, but for the one that takes the pending
pointer before it looks for the current profile; that one is never refused on a reachable screen,
where the current profile is registered. In the front end a refused command becomes a notice.
-/

namespace SplitScreen

namespace Profile

theorem checked_call (c : Call) : c.edit.Checked := by
  intro p q r hon
  have hstep := p.step_call c
  rw [call, hon] at hstep
  generalize houtcome : (Except.error (.refused r) : Except Fault Answer) = outcome at hstep
  cases hstep with
  | fails => rfl
  | stays | views | focuses | shows | splits | merges | absorbs | closes => cases houtcome
  | loses hl hcollapse hfocused hfault =>
      obtain rfl := Except.error.inj houtcome
      rcases hfault with hfault | ⟨hfault, -⟩ <;> cases hfault

/-- Only a split by what is no ratio has a refusal that may be lost. -/
theorem says_call {c : Call} (hc : ¬ c.LacksRatio) : c.edit.Says := by
  intro p q hon
  have hstep := p.step_call c
  rw [call, hon] at hstep
  generalize houtcome : (Except.error .longInteger : Except Fault Answer) = outcome at hstep
  cases hstep with
  | fails _ fault _ hlong =>
      obtain rfl := Except.error.inj houtcome
      exact hc (hlong rfl)
  | stays | views | focuses | shows | splits | merges | absorbs | closes => cases houtcome
  | loses hl hcollapse hfocused hfault =>
      obtain rfl := Except.error.inj houtcome
      rcases hfault with hfault | ⟨hfault, -⟩ <;> cases hfault

theorem says_of_done {x : Edit Profile Unit} (h : (done x).Says) : x.Says :=
  Edit.Says.of_map (g := fun _ => Answer.done) (by rw [map_eq_pure_bind]; exact h)

theorem checked_of_done {x : Edit Profile Unit} (h : (done x).Checked) : x.Checked :=
  Edit.Checked.of_map (g := fun _ => Answer.done) (by rw [map_eq_pure_bind]; exact h)

theorem checked_split (id : PaneId) (direction : Direction) (ratio : Value) :
    (split id direction ratio).Checked :=
  (checked_call (.split id direction ratio)).of_map

theorem checked_merge (a b : PaneId) : (merge a b).Checked :=
  checked_of_done (checked_call (.merge a b))

theorem checked_remove (id : PaneId) : (remove id).Checked :=
  (checked_call (.remove id)).of_map

theorem checked_focusTowards (side : Side) : (focusTowards side).Checked :=
  checked_of_done (checked_call (.focusTowards side))

theorem checked_gotoOrFocus (view : View) : (gotoOrFocus view).Checked :=
  checked_of_done (checked_call (.gotoOrFocus view))

theorem accepts_focusAt (point : Point) : (focusAt point).Accepts := by
  intro p q r hon
  unfold focusAt at hon
  simp only [Edit.on_bind, Edit.on_get] at hon
  split at hon <;> cases hon

end Profile

namespace Screen

variable {α : Type} {s t : Screen} {r : Refusal}

theorem checked_onActive {x : Edit Profile α} (hx : x.Checked) : (onActive x).Checked := by
  intro s t r hon
  cases hactive : s.active with
  | error r' =>
      simp only [onActive, Edit.on_bind, Edit.on_read_of_error hactive] at hon
      cases hon
      rfl
  | ok p =>
      rw [on_onActive hactive] at hon
      obtain ⟨houtcome, rfl⟩ := Prod.mk.inj hon
      have hp : (x.on p).2 = p := hx (Prod.ext houtcome rfl)
      rw [hp]
      exact setActive_of_active hactive

theorem says_onActive {x : Edit Profile α} (hx : x.Says) : (onActive x).Says := by
  intro s t hon
  cases hactive : s.active with
  | error r =>
      simp only [onActive, Edit.on_bind, Edit.on_read_of_error hactive] at hon
      cases hon
  | ok p =>
      rw [on_onActive hactive] at hon
      exact hx (Prod.ext (Prod.mk.inj hon).1 rfl)

theorem checked_silent {x : Edit Screen Unit} (h : x.Checked) : (silent x).Checked :=
  h.bind fun _ => Edit.accepts_pure done

theorem checked_switchTo (name : Text) : (switchTo name).Checked :=
  (Edit.reads_read _).bind fun t => (Edit.accepts_set t).checked

theorem checked_enterTerminal : enterTerminal.Checked := by
  refine Edit.reads_get.bind fun s => ?_
  split
  · exact (Edit.reads_refuse _).checked
  · exact (checked_onActive (Profile.checked_gotoOrFocus _)).bind fun _ => Edit.accepts_modify _

theorem checked_splitFocused (direction : Direction) (ratio : Value) :
    (splitFocused direction ratio).Checked :=
  checked_onActive (Edit.reads_get.bind fun p => Profile.checked_split p.focused direction ratio)

theorem checked_mergeFocused : mergeFocused.Checked := by
  refine checked_onActive (Edit.reads_get.bind fun p => ?_)
  refine (Edit.reads_read _).bind fun sibling => ?_
  cases sibling with
  | none => exact (Edit.reads_refuse _).checked
  | some sibling => exact Profile.checked_merge p.focused sibling

theorem checked_closeFocused : closeFocused.Checked :=
  checked_onActive (Edit.reads_get.bind fun p => Profile.checked_remove p.focused)

theorem checked_focusTowards (side : Side) : (Screen.focusTowards side).Checked :=
  checked_onActive (Profile.checked_focusTowards side)

/-- The pending pointer is taken before the current profile is looked for, which is there. -/
theorem dispatchPointer_ne (h : s.Registered) :
    dispatchPointer.on s ≠ (.error (.refused r), t) := by
  intro hon
  rw [dispatchPointer] at hon
  simp only [Edit.on_bind, Edit.on_get, Edit.on_set] at hon
  split at hon
  · cases hon
  · split at hon
    · cases hon
    · next point _ _ =>
        obtain ⟨p, hp⟩ := h.exists_active
        have htaken : ({ s with pending := none } : Screen).active = .ok p := hp
        rw [on_onActive htaken] at hon
        obtain ⟨houtcome, -⟩ := Prod.mk.inj hon
        exact Profile.accepts_focusAt point (Prod.ext houtcome rfl)

theorem checked_edit {a : Action} (ha : a ≠ .dispatchPointer) : a.edit.Checked := by
  cases a with
  | toggleFullScreen | capture | release | movePointer | resize | setCurrent | setPending =>
      exact checked_silent (Edit.accepts_modify _).checked
  | dispatchPointer => exact absurd rfl ha
  | enterTerminal => exact checked_silent checked_enterTerminal
  | mergeFocused => exact checked_silent checked_mergeFocused
  | closeFocused => exact checked_closeFocused.map _
  | splitFocused direction ratio => exact (checked_splitFocused direction ratio).map _
  | focusTowards side => exact checked_silent (checked_focusTowards side)
  | switchTo name => exact checked_silent (checked_switchTo name)
  | addProfile name literal viewport =>
      exact (Edit.reads_ofOutcome _).bind fun p => checked_silent (Edit.accepts_modify _).checked
  | profileNames =>
      exact (Edit.reads_read fun s : Screen => .ok (Answer.names s.profileNames)).checked
  | focusedPane | flatten => exact (Edit.reads_read _).checked
  | onActive call => exact (checked_onActive (Profile.checked_call call)).map _

theorem act_refused (h : s.Registered) {a : Action} (hact : s.act a = (.error (.refused r), t)) :
    t = s := by
  by_cases ha : a = .dispatchPointer
  · subst ha
    rw [act, Action.edit, Edit.on_map] at hact
    obtain ⟨houtcome, rfl⟩ := Prod.mk.inj hact
    cases hon : dispatchPointer.on s with
    | mk outcome u =>
        rw [hon] at houtcome
        cases outcome with
        | ok hit => cases houtcome
        | error fault =>
            obtain rfl : fault = .refused r := Except.error.inj houtcome
            exact absurd hon (dispatchPointer_ne h)
  · exact checked_edit ha hact

end Screen

theorem Command.checked_edit (c : Command) : c.edit.Checked := by
  cases c with
  | quit => exact (Edit.accepts_pure ()).checked
  | focus side => exact Screen.checked_focusTowards side
  | split direction =>
      exact (Screen.checked_splitFocused direction _).bind fun _ => Edit.accepts_pure ()
  | close => exact Screen.checked_closeFocused.bind fun _ => Edit.accepts_pure ()
  | merge => exact Screen.checked_mergeFocused
  | fullScreen | release => exact (Edit.accepts_modify _).checked
  | enterTerminal => exact Screen.checked_enterTerminal
  | small | large => exact Screen.checked_switchTo _

/-- The ratio of a split is even, so that no command is refused without words. -/
theorem Command.says_edit (c : Command) : c.edit.Says := by
  cases c with
  | quit => exact Edit.says_pure ()
  | focus side =>
      exact Screen.says_onActive (Profile.says_of_done (Profile.says_call (c := .focusTowards side) id))
  | split direction =>
      refine (Screen.says_onActive (Edit.says_get.bind fun p => ?_)).bind fun _ => Edit.says_pure ()
      have heven : ¬ Profile.Call.LacksRatio (.split p.focused direction Ratio.even.toValue) := by
        simp [Profile.Call.LacksRatio]
      exact (Profile.says_call heven).of_map
  | close =>
      refine (Screen.says_onActive (Edit.says_get.bind fun p => ?_)).bind fun _ => Edit.says_pure ()
      exact (Profile.says_call (c := .remove p.focused) id).of_map
  | merge =>
      change Screen.mergeFocused.Says
      refine Screen.says_onActive (Edit.says_get.bind fun p => ?_)
      refine (Edit.says_read _).bind fun sibling => ?_
      cases sibling with
      | none => exact Edit.says_refuse _
      | some sibling =>
          exact Profile.says_of_done (Profile.says_call (c := .merge p.focused sibling) id)
  | fullScreen | release => exact Edit.says_modify _
  | enterTerminal =>
      refine Edit.says_get.bind fun s => ?_
      split
      · exact Edit.says_refuse _
      · refine (Screen.says_onActive (Profile.says_of_done ?_)).bind fun _ => Edit.says_modify _
        exact Profile.says_call (c := .gotoOrFocus (.kind .terminal)) id
  | small | large => exact (Edit.says_read _).bind fun t => Edit.says_set t

theorem FrontEnd.run_refused {f : FrontEnd} {c : Command} {r : Refusal} {s : Screen}
    (h : c.apply f.screen = (.error (.refused r), s)) :
    f.run c = (.ok ⟨.ran c, [r.message]⟩, { f with status := some r.message }) := by
  obtain rfl : s = f.screen := c.checked_edit h
  rw [run, h]

/-- A refused operation changes nothing: no profile, no screen, and of the front end only the
notice, which is the message of the refusal. -/
theorem refused_unchanged :
    (∀ (p q : Profile) (c : Profile.Call) (r : Refusal),
      p.call c = (.error (.refused r), q) → q = p) ∧
    (∀ (s t : Screen) (a : Screen.Action) (r : Refusal), s.Reachable →
      s.act a = (.error (.refused r), t) → t = s) ∧
    ∀ (f : FrontEnd) (c : Command) (r : Refusal) (s : Screen),
      c.apply f.screen = (.error (.refused r), s) →
        f.run c = (.ok ⟨.ran c, [r.message]⟩, { f with status := some r.message }) := by
  refine ⟨fun p q c r h => ?_, fun s t a r hs h => ?_, fun f c r s h => FrontEnd.run_refused h⟩
  · exact Profile.checked_call c h
  · exact Screen.act_refused hs.registered h

theorem refused_unchanged_initial :
    let f := FrontEnd.ofScreen Screen.initial ⟨0, 0⟩ 80 24
    (Profile.ofLayout Layout.small).call (.remove 0) =
        (.error (.refused .terminalClosed), Profile.ofLayout Layout.small) ∧
      Screen.initial.Reachable ∧
      Screen.initial.act .mergeFocused = (.error (.refused .noSibling), Screen.initial) ∧
      f.run .merge = (.ok ⟨.ran .merge, [Refusal.noSibling.message]⟩,
        { f with status := some Refusal.noSibling.message }) := by
  obtain ⟨hprofile, hscreen, hfront⟩ := refused_unchanged
  have hinitial : Screen.initial.Reachable :=
    .start (show Screen.ofLiterals [] Screen.smallName = .ok Screen.initial from rfl)
  have hclosed := hprofile (Profile.ofLayout Layout.small) _ (.remove 0) .terminalClosed rfl
  have hmerged := hscreen Screen.initial _ .mergeFocused .noSibling hinitial rfl
  refine ⟨Prod.ext rfl hclosed, hinitial, Prod.ext rfl hmerged, ?_⟩
  exact hfront _ .merge .noSibling _ rfl

end SplitScreen
