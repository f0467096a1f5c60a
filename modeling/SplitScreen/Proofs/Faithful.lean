import SplitScreen.Proofs.FrontEnd

/-!
What is drawn is what is. A front end is faithful when its tiles and its status bar are those of its
screen and no movement of the pointer waits to be handled. Mounting makes it so, and every event
keeps it so: either all is drawn anew, or nothing that can be seen has changed (`handle_faithful`).
Main statement: `faithful_of_valid`, for every frame of a session. A session ends early only when a
coordinate overflows or the title of a pane or the status bar cannot be read.
-/

namespace SplitScreen

namespace Profile

variable {p : Profile} {t : IndexedTree}

/-- The pane under a cell of the area of a profile, the first of several. -/
def paneAt? (p : Profile) (point : Point) : Option PaneId :=
  ((p.arena.place p.viewport).find? fun placed => placed.2.contains point).map Prod.fst

theorem on_focusAt (p : Profile) (point : Point) :
    (focusAt point).on p =
      match p.paneAt? point with
      | none => (.ok false, p)
      | some id => (.ok true, { p with focused := id }) := by
  unfold focusAt paneAt?
  simp only [Edit.on_bind, Edit.on_get]
  cases (p.arena.place p.viewport).find? fun placed => placed.2.contains point with
  | none => rfl
  | some placed => rfl

theorem mem_paneIds_of_paneAt? (ht : p.arena.Holds [] t) {point : Point} {id : PaneId}
    (h : p.paneAt? point = some id) : id ∈ p.paneIds := by
  obtain ⟨placed, hfind, rfl⟩ := Option.map_eq_some_iff.mp h
  rw [paneIds_eq ht, ← ht.keys_place p.viewport]
  exact List.mem_map_of_mem (List.mem_of_find?_eq_some hfind)

end Profile

namespace FrontEnd

/-- The tiles and the status bar are those of the screen, and no movement of the pointer waits. -/
structure Faithful (f : FrontEnd) : Prop where
  drawn : f.screen.flatten f.area = .ok f.drawn
  bar : f.bar = barText f.screen
  pending : f.screen.pending = none

def Untitled (f : FrontEnd) : Prop :=
  ∃ tiles, f.screen.flatten f.area = .ok tiles ∧ ∃ t ∈ tiles, title? t = none

def Unbarred (f : FrontEnd) : Prop := (barText f.screen).title? = none

/-- A step ends with a faithful front end of the given size, over a screen in good order, unless a
coordinate overflows or a title or the status bar cannot be read. -/
def EndsFaithful (size : Int × Int) : After Report → Prop
  | (.ok _, f) => f.Faithful ∧ f.screen.Valid ∧ (f.width, f.height) = size
  | (.error .overflow, _) => True
  | (.error .badMarkup, f) => f.Untitled ∨ f.Unbarred
  | (.error (.refused _), _) | (.error .longInteger, _) | (.error .focusLost, _) => False

variable {f : FrontEnd} {s : Screen}

theorem exists_flatten (h : s.Valid) (area : Rect) : ∃ tiles, s.flatten area = .ok tiles := by
  obtain ⟨p, hactive, hp⟩ := h.exists_active
  unfold Screen.flatten
  split
  · obtain ⟨path, index, view, hpath⟩ := hp.exists_focused
    have hpane : s.focusedPane = .ok ⟨p.focused, view⟩ := by
      simp [Screen.focusedPane, hactive, Profile.focusedPane, Profile.pane, Arena.leaf,
        hpath.leaf?_eq, bind, Except.bind, pure, Except.pure]
    exact ⟨_, by rw [hpane]; rfl⟩
  · exact ⟨_, by rw [hactive]; rfl⟩

theorem place_error {t : Tile} {fault : Fault} (h : place t = .error fault) :
    fault = .overflow ∨ fault = .badMarkup ∧ title? t = none := by
  unfold place at h
  cases hmap : [t.rect.x, t.rect.y, t.rect.width, t.rect.height].mapM Double.ofInt with
  | error e =>
      simp only [hmap, Fault.ofOverflow, bind, Except.bind, Except.error.injEq] at h
      exact Or.inl h.symm
  | ok doubles =>
      simp only [hmap, Fault.ofOverflow, bind, Except.bind] at h
      split at h
      · next htitle => exact Or.inr ⟨(Except.error.inj h).symm, Option.isNone_iff_eq_none.mp htitle⟩
      · cases h

theorem forM_place_error {tiles : List Tile} {fault : Fault}
    (h : tiles.forM place = .error fault) :
    fault = .overflow ∨ fault = .badMarkup ∧ ∃ t ∈ tiles, title? t = none := by
  induction tiles with
  | nil => cases h
  | cons tile tiles ih =>
      cases hplace : place tile with
      | error e =>
          have hfault : (Except.error e : Except Fault Unit) = .error fault := by
            simpa [List.forM, hplace, bind, Except.bind] using h
          rcases place_error (hplace.trans hfault) with hoverflow | ⟨hbad, htitle⟩
          · exact Or.inl hoverflow
          · exact Or.inr ⟨hbad, tile, List.mem_cons_self, htitle⟩
      | ok _ =>
          rcases ih (by simpa [List.forM, hplace, bind, Except.bind] using h) with
            hoverflow | ⟨hbad, t, ht, htitle⟩
          · exact Or.inl hoverflow
          · exact Or.inr ⟨hbad, t, List.mem_cons_of_mem _ ht, htitle⟩

theorem refreshed_faithful (hs : f.screen.Valid) (hpending : f.screen.pending = none)
    (reaction : Reaction) : EndsFaithful (f.width, f.height) (f.refreshed reaction) := by
  rw [refreshed, refresh]
  generalize hresized : (if f.area.area = 0 then f.screen else f.screen.resize f.area) = s
  have hvalid : s.Valid := by
    rw [← hresized]
    split
    · exact hs
    · exact hs.resize f.area
  have hnone : s.pending = none := by
    rw [← hresized]
    split
    · exact hpending
    · exact hpending
  obtain ⟨tiles, htiles⟩ := exists_flatten hvalid f.area
  simp only [htiles]
  cases hplace : tiles.forM place with
  | error fault =>
      rcases forM_place_error hplace with rfl | ⟨rfl, hbad⟩
      · trivial
      · exact Or.inl ⟨tiles, htiles, hbad⟩
  | ok _ =>
      by_cases hbar : (barText s).title?.isNone = true
      · simp only [if_pos hbar]
        exact Or.inr (Option.isNone_iff_eq_none.mp hbar)
      · simp only [if_neg hbar]
        exact ⟨⟨htiles, rfl, hnone⟩, hvalid, rfl⟩

theorem mount_faithful (hs : f.screen.Valid) (hpending : f.screen.pending = none) :
    EndsFaithful (f.width, f.height) f.mount :=
  refreshed_faithful hs hpending .mounted

theorem pending_apply (c : Command) (hs : s.pending = none) : (c.apply s).2.pending = none := by
  rw [c.snd_apply]
  cases c with
  | quit => exact hs
  | _ => exact (Screen.step_act s _).pending_eq_none nofun nofun hs

/-- A command that takes place is drawn; one that is refused has changed nothing. -/
theorem run_faithful (hf : f.Faithful) (hs : f.screen.Valid) (c : Command) :
    EndsFaithful (f.width, f.height) (f.run c) := by
  have hend := c.safe_edit f.screen hs
  have hpending := pending_apply c hf.pending
  rw [Command.apply] at hpending
  rcases hon : c.edit.on f.screen with ⟨fault | _, t⟩
  · rw [hon] at hend
    have happly : c.apply f.screen = (.error fault, t) := hon
    cases fault with
    | refused r =>
        -- Nothing is drawn, and nothing needs to be: a refusal leaves the screen as it was.
        rw [run_refused happly]
        exact ⟨⟨hf.drawn, hf.bar, hf.pending⟩, hs, rfl⟩
    | overflow =>
        rw [run, happly]
        trivial
    | longInteger => exact absurd hon (@Command.says_edit c f.screen t)
    | focusLost | badMarkup => exact hend.elim
  · rw [hon] at hend hpending
    have happly : c.apply f.screen = (.ok (), t) := hon
    rw [run, happly]
    exact refreshed_faithful (f := { f with screen := t }) hend hpending _

theorem key_faithful (hf : f.Faithful) (hs : f.screen.Valid) (name : String) :
    EndsFaithful (f.width, f.height) (f.key name) := by
  rcases f.key_cases name with ⟨reaction, h⟩ | ⟨c, h⟩
  · rw [h]
    exact ⟨hf, hs, rfl⟩
  · rw [h]
    exact run_faithful hf hs c

theorem on_dispatchPointer (h : s.pending = none) (point : Point) :
    Screen.dispatchPointer.on (s.movePointer point) =
      if s.fullScreen then (.ok false, s)
      else (Screen.onActive (Profile.focusAt point)).on s := by
  obtain ⟨profiles, current, fullScreen, captured, pending, viewport⟩ := s
  obtain rfl : pending = none := h
  cases fullScreen with
  | true => rfl
  | false =>
      simp only [Screen.dispatchPointer, Screen.movePointer, Edit.on_bind, Edit.on_get,
        Edit.on_set, Bool.false_eq_true, if_false]

theorem active_setActive (s : Screen) (p : Profile) : (s.setActive p).active = .ok p := by
  simp only [Screen.active, Screen.setActive, Assoc.find?_insert_self]

/-- The pane of the current profile that the pointer meets at a cell of the terminal. -/
def hit? (f : FrontEnd) (p : Profile) (cell : Point) : Option PaneId :=
  if f.screen.fullScreen then none else p.paneAt? ⟨cell.x - f.origin.x, cell.y - f.origin.y⟩

theorem hit?_mem {p : Profile} (hp : p.Valid) {cell : Point} {id : PaneId}
    (h : f.hit? p cell = some id) : id ∈ p.paneIds := by
  obtain ⟨t, ht⟩ := hp.exists_holds
  unfold hit? at h
  split at h
  · cases h
  · exact Profile.mem_paneIds_of_paneAt? ht h

/-- The pointer moves the focus to the pane that it meets, and all is drawn anew if that is another
one than before. -/
theorem pointer_eq (hpending : f.screen.pending = none) {p : Profile}
    (hactive : f.screen.active = .ok p) (cell : Point) :
    f.pointer cell =
      match f.hit? p cell with
      | none => (.ok ⟨.pointed, []⟩, f)
      | some id =>
        if id = p.focused then (.ok ⟨.pointed, []⟩, f)
        else ({ f with screen := f.screen.setActive { p with focused := id } } : FrontEnd).refreshed
          .pointed := by
  unfold pointer hit?
  simp only [on_dispatchPointer hpending, hactive, Except.map]
  cases f.screen.fullScreen with
  | true => simp only [hactive, if_true, Bool.false_and, Bool.false_eq_true, if_false]
  | false =>
      simp only [Bool.false_eq_true, if_false, Screen.on_onActive hactive, Profile.on_focusAt]
      cases p.paneAt? ⟨cell.x - f.origin.x, cell.y - f.origin.y⟩ with
      | none =>
          simp only [Screen.setActive_of_active hactive, hactive, Bool.false_and,
            Bool.false_eq_true, if_false]
      | some id =>
          simp only [active_setActive, Bool.true_and, decide_eq_true_eq]
          by_cases hsame : id = p.focused
          · -- The focus is where it was, so the screen is the one that was drawn.
            obtain rfl := hsame
            rw [if_pos rfl, if_neg (not_not_intro rfl), Screen.setActive_of_active hactive]
          · rw [if_neg hsame, if_pos hsame]

theorem pointer_faithful (hf : f.Faithful) (hs : f.screen.Valid) (cell : Point) :
    EndsFaithful (f.width, f.height) (f.pointer cell) := by
  obtain ⟨p, hactive, hp⟩ := hs.exists_active
  rw [pointer_eq hf.pending hactive]
  split
  · exact ⟨hf, hs, rfl⟩
  · next id hhit =>
      split
      · exact ⟨hf, hs, rfl⟩
      · have hfocused : id ∈ p.paneIds := hit?_mem hp hhit
        exact refreshed_faithful
          (f := { f with screen := f.screen.setActive { p with focused := id } })
          (hs.setActive ⟨hp.exists_holds, hfocused⟩) hf.pending _

end FrontEnd

/-- The size of the area of the panes after an event. -/
def Event.size (size : Int × Int) : Event → Int × Int
  | .resize width height => (width, height)
  | .key _ | .pointer _ => size

def Input.sizeAfter (size : Int × Int) : List Input → Int × Int
  | [] => size
  | .event e :: rest => sizeAfter (e.size size) rest
  | .interrupt :: rest => sizeAfter size rest

theorem FrontEnd.handle_faithful {f : FrontEnd} (hf : f.Faithful) (hs : f.screen.Valid)
    (e : Event) : EndsFaithful (e.size (f.width, f.height)) (f.handle e) := by
  cases e with
  | key name => exact key_faithful hf hs name
  | pointer cell => exact pointer_faithful hf hs cell
  | resize width height =>
      exact refreshed_faithful (f := { f with width := width, height := height }) hs hf.pending _

namespace Session

/-- Every frame is faithful, of its size and over a screen in good order, and so is what is shown in
the end unless a fault ends the session: an overflow, or a title or a status bar that cannot be
read. -/
structure Faithful (session : Session) (size : Nat → Int × Int) : Prop where
  frame {k : Nat} {frame : Frame} (h : session.frames[k]? = some frame) :
    frame.shown.Faithful ∧ frame.shown.screen.Valid ∧
      (frame.shown.width, frame.shown.height) = size k
  last (h : session.fault = none) : session.last.Faithful ∧ session.last.screen.Valid
  fault : session.fault = none ∨ session.fault = some .overflow ∨ session.fault = some .badMarkup

theorem faithful_of_endsFaithful {size : Nat → Int × Int} {f : FrontEnd} {fault : Fault}
    {notes : List Note} (h : FrontEnd.EndsFaithful (size 0) (.error fault, f)) :
    (⟨[], f, some fault, notes⟩ : Session).Faithful size := by
  refine ⟨nofun, nofun, Or.inr ?_⟩
  cases fault with
  | overflow => exact Or.inl rfl
  | badMarkup => exact Or.inr rfl
  | refused | longInteger | focusLost => exact h.elim

theorem Faithful.cons {size : Nat → Int × Int} {later : Session} {report : FrontEnd.Report}
    {f : FrontEnd} {notes : List Note} (hf : FrontEnd.EndsFaithful (size 0) (.ok report, f))
    (h : later.Faithful fun k => size (k + 1)) :
    ({ later with frames := ⟨report, f⟩ :: later.frames, notes := notes } : Session).Faithful
      size := by
  refine ⟨fun {k frame} hk => ?_, h.last, h.fault⟩
  cases k with
  | zero =>
      obtain rfl : ⟨report, f⟩ = frame := by simpa using hk
      exact hf
  | succ k => exact h.frame hk

theorem proceed_faithful {f : FrontEnd} (hf : f.Faithful) (hs : f.screen.Valid)
    (inputs : List Input) :
    (proceed f inputs).Faithful fun k =>
      Input.sizeAfter (f.width, f.height) (inputs.take (k + 1)) := by
  induction inputs generalizing f with
  | nil => exact ⟨nofun, fun _ => ⟨hf, hs⟩, Or.inl rfl⟩
  | cons input inputs ih =>
      cases input with
      | interrupt => exact ⟨nofun, fun _ => ⟨hf, hs⟩, Or.inl rfl⟩
      | event e =>
          have hend := f.handle_faithful hf hs e
          have hsize : Input.sizeAfter (f.width, f.height) ((.event e :: inputs).take 1) =
              e.size (f.width, f.height) := by
            simp [Input.sizeAfter]
          rw [← hsize] at hend
          unfold proceed
          rcases hhandle : f.handle e with ⟨fault | report, g⟩
          · rw [hhandle] at hend
            exact faithful_of_endsFaithful hend
          · rw [hhandle] at hend
            obtain ⟨hg, hvalid, hsizes⟩ := id hend
            simp only
            split
            · have hlast : ∀ size, (⟨[], g, none, []⟩ : Session).Faithful size := fun _ =>
                ⟨by simp, fun _ => ⟨hg, hvalid⟩, Or.inl rfl⟩
              exact Faithful.cons hend (hlast _)
            · -- The sizes of the later frames count from the size after this event.
              refine Faithful.cons hend ?_
              rw [hsize] at hsizes
              have hrest := ih hg hvalid
              rw [hsizes] at hrest
              exact hrest

theorem faithful_of_valid {s : Screen} (hs : s.Valid) (hpending : s.pending = none) (origin : Point)
    (width height : Int) (inputs : List Input) :
    (start s origin width height inputs).Faithful fun k =>
      Input.sizeAfter (width, height) (inputs.take k) := by
  have hend := FrontEnd.mount_faithful (f := FrontEnd.ofScreen s origin width height) hs hpending
  unfold start
  rcases hmount : (FrontEnd.ofScreen s origin width height).mount with ⟨fault | report, f⟩
  · rw [hmount] at hend
    exact faithful_of_endsFaithful hend
  · rw [hmount] at hend
    obtain ⟨hf, hvalid, hsize⟩ := id hend
    refine Faithful.cons hend ?_
    have hrest := proceed_faithful hf hvalid inputs
    rw [hsize] at hrest
    exact hrest

end Session

end SplitScreen
