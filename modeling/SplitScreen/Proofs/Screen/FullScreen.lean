import SplitScreen.Proofs.Profile.Flatten
import SplitScreen.Proofs.Screen.Valid

/-!
Full screen is a way of looking at a screen. Only pointing, entering the terminal and drawing ask for
the mode; every other action does to a screen in full screen what it does to one that is not
(`Action.respects_edit`), so the switches of the mode can be left out of a run (`record_kept`).
What is drawn in full screen is the focused pane, which is the one that is marked among the tiles of
the panes side by side. Main statement: `full_screen_only_views`.
-/

namespace SplitScreen

namespace Screen

/-- The screen out of full screen, with no movement of the pointer waiting. -/
def windowed (s : Screen) : Screen := { s with fullScreen := false, pending := none }

/-- The action asks for the mode: it points, enters the terminal or draws. -/
def Action.AsksMode : Action → Prop
  | .dispatchPointer | .enterTerminal | .flatten _ => True
  | _ => False

/-- What is done to a screen in a run: an action, or a profile of any kind is registered. -/
inductive Operation
  | act (a : Action)
  | register (name : Text) (p : Profile)

namespace Operation

def on (s : Screen) : Operation → Except Fault Answer × Screen
  | act a => s.act a
  | register name p => (.ok done, s.addProfile name p)

def AsksMode : Operation → Prop
  | act a => a.AsksMode
  | register .. => False

def toggles : Operation → Bool
  | act .toggleFullScreen => true
  | _ => false

end Operation

def after (s : Screen) (run : List Operation) : Screen :=
  run.foldl (fun t o => (o.on t).2) s

/-- The operations of a run, each with how it ended. -/
def record : Screen → List Operation → List (Operation × Except Fault Answer)
  | _, [] => []
  | s, o :: run => (o, (o.on s).1) :: record (o.on s).2 run

variable {s t : Screen}

theorem eq_of_windowed (h : s.windowed = t.windowed) :
    ∃ fullScreen pending, t = { s with fullScreen := fullScreen, pending := pending } := by
  obtain ⟨profiles, current, fullScreen, captured, pending, viewport⟩ := t
  simp only [windowed, mk.injEq] at h
  obtain ⟨rfl, rfl, -, rfl, -, rfl⟩ := h
  exact ⟨fullScreen, pending, rfl⟩

theorem windowed_movePointer (s : Screen) (point : Point) :
    (s.movePointer point).windowed = s.windowed := by
  unfold movePointer
  split <;> rfl

theorem respects_onActive {α : Type} (x : Edit Profile α) :
    (onActive x).Respects windowed := by
  intro s t h
  obtain ⟨fullScreen, pending, rfl⟩ := eq_of_windowed h
  let u : Screen := { s with fullScreen := fullScreen, pending := pending }
  cases hactive : s.active with
  | error r =>
      have hactive' : u.active = .error r := hactive
      rw [on_onActive_of_error hactive, on_onActive_of_error hactive']
      exact ⟨rfl, h⟩
  | ok p =>
      have hactive' : u.active = .ok p := hactive
      rw [on_onActive hactive, on_onActive hactive']
      exact ⟨rfl, rfl⟩

theorem respects_switchTo (name : Text) : (switchTo name).Respects windowed := by
  intro s t h
  obtain ⟨fullScreen, pending, rfl⟩ := eq_of_windowed h
  simp only [on_switchTo]
  split
  · exact ⟨rfl, rfl⟩
  · exact ⟨rfl, h⟩

theorem respects_silent {x : Edit Screen Unit} (hx : x.Respects windowed) :
    (silent x).Respects windowed :=
  hx.bind fun _ => Edit.respects_pure done

/-- An action that does not ask for the mode does the same in full screen and out of it. -/
theorem Action.respects_edit {a : Action} (ha : ¬ a.AsksMode) : a.edit.Respects windowed := by
  cases a with
  | dispatchPointer | enterTerminal | flatten => exact absurd trivial ha
  | toggleFullScreen => exact respects_silent (Edit.respects_modify fun _ _ h => h)
  | capture | release | resize | setCurrent =>
      refine respects_silent (Edit.respects_modify fun s t h => ?_)
      obtain ⟨fullScreen, pending, rfl⟩ := eq_of_windowed h
      rfl
  | setPending point => exact respects_silent (Edit.respects_modify fun _ _ h => h)
  | movePointer point =>
      refine respects_silent (Edit.respects_modify fun s t h => ?_)
      rw [windowed_movePointer, windowed_movePointer, h]
  | switchTo name => exact respects_silent (respects_switchTo name)
  | mergeFocused | focusTowards => exact respects_silent (respects_onActive _)
  | closeFocused | splitFocused | onActive => exact (respects_onActive _).map _
  | focusedPane | profileNames =>
      refine Edit.respects_read fun s t h => ?_
      obtain ⟨fullScreen, pending, rfl⟩ := eq_of_windowed h
      rfl
  | addProfile name literal viewport =>
      refine (Edit.respects_ofOutcome _).bind fun p => ?_
      refine respects_silent (Edit.respects_modify fun s t h => ?_)
      obtain ⟨fullScreen, pending, rfl⟩ := eq_of_windowed h
      rfl

theorem Operation.respects {o : Operation} (ho : ¬ o.AsksMode) (h : s.windowed = t.windowed) :
    (o.on s).1 = (o.on t).1 ∧ (o.on s).2.windowed = (o.on t).2.windowed := by
  cases o with
  | act a => exact Action.respects_edit ho h
  | register name p =>
      obtain ⟨fullScreen, pending, rfl⟩ := eq_of_windowed h
      exact ⟨rfl, rfl⟩

theorem Operation.windowed_of_toggles {o : Operation} (ho : o.toggles = true) (s : Screen) :
    (o.on s).2.windowed = s.windowed := by
  unfold toggles at ho
  split at ho
  · rfl
  · cases ho

/-- The switches of the mode can be left out of a run on a screen that looks the same apart from
the mode. -/
theorem record_kept {run : List Operation} (hrun : ∀ o ∈ run, ¬ o.AsksMode)
    (h : s.windowed = t.windowed) :
    (s.record run).filter (fun ended => !ended.1.toggles) =
        t.record (run.filter fun o => !o.toggles) ∧
      (s.after run).windowed = (t.after (run.filter fun o => !o.toggles)).windowed := by
  induction run generalizing s t with
  | nil => exact ⟨rfl, h⟩
  | cons o run ih =>
      obtain ⟨ho, hrest⟩ := List.forall_mem_cons.mp hrun
      cases htoggles : o.toggles with
      | true =>
          have hstep : (o.on s).2.windowed = t.windowed :=
            (o.windowed_of_toggles htoggles s).trans h
          simp only [record, List.filter_cons, htoggles]
          exact ih hrest hstep
      | false =>
          obtain ⟨houtcome, hstep⟩ := o.respects ho h
          obtain ⟨hrecord, hafter⟩ := ih hrest hstep
          simp only [record, List.filter_cons, htoggles, Bool.not_false, if_true, hrecord,
            houtcome]
          exact ⟨trivial, hafter⟩

/-- The tile of the focused pane, which full screen shows alone. -/
theorem Valid.flatten_modes (h : s.Valid) (area : Rect) :
    ∃ tiles tile, ({ s with fullScreen := false } : Screen).flatten area = .ok tiles ∧
      tiles.filter Tile.focused = [tile] ∧
      ({ s with fullScreen := true } : Screen).flatten area =
        .ok [⟨tile.id, tile.view, area, true⟩] := by
  obtain ⟨p, hactive, hp⟩ := h.exists_active
  obtain ⟨tree, htree⟩ := hp.exists_holds
  obtain ⟨tile, htile, hid⟩ := Profile.exists_focused_tile htree hp.focused_mem area
  have hmem : tile ∈ p.flatten area :=
    List.mem_of_mem_filter (htile ▸ List.mem_singleton_self tile)
  have hpane : p.focusedPane = .ok ⟨tile.id, tile.view⟩ :=
    hid ▸ (Profile.tile_eq htree hmem).1
  refine ⟨p.flatten area, tile, ?_, htile, ?_⟩
  · have hwindowed : ({ s with fullScreen := false } : Screen).active = .ok p := hactive
    simp only [flatten, hwindowed]
    rfl
  · have hfull : ({ s with fullScreen := true } : Screen).active = .ok p := hactive
    simp only [flatten, focusedPane, hfull, bind, Except.bind, hpane]
    rfl

/-- Going through both modes only forgets a movement of the pointer. -/
theorem toggle_toggle (s : Screen) :
    s.run [.toggleFullScreen, .toggleFullScreen] = { s with pending := none } := by
  change s.toggleFullScreen.toggleFullScreen = _
  obtain ⟨profiles, current, fullScreen, captured, pending, viewport⟩ := s
  cases fullScreen <;> rfl

/-- The switches of the mode can be left out of every run of operations that do not ask for it: all
others end as they did, and profiles, current profile, captured input and area come out the same.
On a screen that is reached without an overflow, full screen shows the one tile that is marked among
the panes side by side, over the whole area, and two switches only forget a movement of the
pointer. -/
theorem full_screen_only_views :
    (∀ (s : Screen) (run : List Operation), (∀ o ∈ run, ¬ o.AsksMode) →
      let kept := run.filter fun o => !o.toggles
      (s.record run).filter (fun ended => !ended.1.toggles) = s.record kept ∧
        (s.after run).profiles = (s.after kept).profiles ∧
        (s.after run).current = (s.after kept).current ∧
        (s.after run).captured = (s.after kept).captured ∧
        (s.after run).viewport = (s.after kept).viewport) ∧
    (∀ (literals : Assoc Text (Layout Value)) (name : Text) (s t : Screen),
      ofLiterals literals name = .ok s → s.Leads t → ∀ area : Rect,
        ∃ tiles tile, ({ t with fullScreen := false } : Screen).flatten area = .ok tiles ∧
          tiles.filter Tile.focused = [tile] ∧
          ({ t with fullScreen := true } : Screen).flatten area =
            .ok [⟨tile.id, tile.view, area, true⟩]) ∧
    ∀ s : Screen, s.run [.toggleFullScreen, .toggleFullScreen] = { s with pending := none } := by
  refine ⟨fun s run hrun => ?_, fun literals name s t h ht area => ?_, toggle_toggle⟩
  · obtain ⟨hrecord, hafter⟩ := record_kept hrun (rfl : s.windowed = s.windowed)
    simp only [windowed, mk.injEq] at hafter
    obtain ⟨hprofiles, hcurrent, -, hcaptured, -, hviewport⟩ := hafter
    exact ⟨hrecord, hprofiles, hcurrent, hcaptured, hviewport⟩
  · exact (ht.valid (valid_ofLiterals h)).flatten_modes area

theorem full_screen_only_views_large :
    let s := (initial.act (.switchTo largeName)).2
    let edits : List Operation := [.act (.splitFocused .horizontal Ratio.even.toValue),
      .act (.focusTowards .left), .act .closeFocused, .act .mergeFocused]
    let t := s.after (.act .toggleFullScreen :: edits)
    t.fullScreen = true ∧ t.profiles = (s.after edits).profiles ∧
      ∃ tiles tile, ({ s with fullScreen := false } : Screen).flatten s.viewport = .ok tiles ∧
        tiles.filter Tile.focused = [tile] ∧
        ({ s with fullScreen := true } : Screen).flatten s.viewport =
          .ok [⟨tile.id, tile.view, s.viewport, true⟩] := by
  intro s edits t
  obtain ⟨hkept, hdrawn, -⟩ := full_screen_only_views
  have hasks : ∀ o ∈ Operation.act .toggleFullScreen :: edits, ¬ o.AsksMode := by
    simp [edits, Operation.AsksMode, Action.AsksMode]
  have hleads : initial.Leads s := Leads.refl.answered (by rintro _ ⟨⟩) (by decide)
  exact ⟨by decide +kernel, (hkept s _ hasks).2.1, hdrawn [] smallName _ _ rfl hleads s.viewport⟩

end Screen

end SplitScreen
