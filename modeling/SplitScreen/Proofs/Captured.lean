import SplitScreen.Proofs.Events
import SplitScreen.Proofs.Profile.Flatten

namespace SplitScreen

namespace Profile

variable {p q : Profile} {t : IndexedTree}

theorem focusedPane_of_gotoOrFocus (ht : p.arena.Holds [] t) {view : View}
    (h : (gotoOrFocus view).on p = (.ok (), q)) :
    ∃ pane, q.focusedPane = .ok pane ∧ pane.view = view := by
  have hpane : ∀ {p : Profile} {l : Leaf}, p.arena.leaf? p.focused = some l →
      p.focusedPane = .ok l.content := by
    intro p l hl
    simp [focusedPane, pane, Arena.leaf, hl, bind, Except.bind, pure, Except.pure]
  unfold gotoOrFocus at h
  simp only [Edit.on_bind, Edit.on_get] at h
  split at h
  · next found hfind =>
      obtain rfl := (Prod.mk.inj h).2
      have hmem : found ∈ t.tree.leaves := ht.panes_eq ▸ List.mem_of_find?_eq_some hfind
      obtain ⟨l, hl, rfl⟩ := leaf?_of_mem_leaves ht hmem
      exact ⟨l.content, hpane hl, of_decide_eq_true (List.find?_some hfind :)⟩
  · unfold goto setView at h
    simp only [Edit.on_bind, Edit.on_get] at h
    cases hl : p.arena.leaf? p.focused with
    | none =>
        rw [on_findLeaf_of_none p hl] at h
        cases h
    | some l =>
        rw [on_findLeaf_of_some p hl] at h
        obtain rfl := (Prod.mk.inj h).2
        obtain ⟨path, -, -, hq⟩ := ht.exists_setView hl view
        have hleaf := (Arena.holds_plug_iff.mpr hq).leaf?_eq
        exact ⟨⟨p.focused, view⟩, hpane (p := { p with arena := p.arena.setView l view }) hleaf, rfl⟩

end Profile

namespace Screen

/-- The trees of the profiles, with the ids and the views of the panes and the next numbers. -/
def arenas (s : Screen) : Assoc Text Arena := s.profiles.map fun entry => (entry.1, entry.2.arena)

/-- The modes, the current profile and the arena of every profile are the same. -/
structure SamePanes (s t : Screen) : Prop where
  captured : t.captured = s.captured
  fullScreen : t.fullScreen = s.fullScreen
  current : t.current = s.current
  arenas : t.arenas = s.arenas

variable {s t u : Screen} {p : Profile}

theorem SamePanes.refl (s : Screen) : s.SamePanes s := ⟨rfl, rfl, rfl, rfl⟩

theorem SamePanes.trans (h : s.SamePanes t) (h' : t.SamePanes u) : s.SamePanes u where
  captured := h'.captured.trans h.captured
  fullScreen := h'.fullScreen.trans h.fullScreen
  current := h'.current.trans h.current
  arenas := h'.arenas.trans h.arenas

theorem arenas_resize (s : Screen) (area : Rect) : (s.resize area).arenas = s.arenas := by
  rw [arenas, resize, List.map_map]
  rfl

theorem resize_resize (s : Screen) (area other : Rect) :
    (s.resize area).resize other = s.resize other := by
  simp only [resize, List.map_map]
  rfl

theorem samePanes_of_resize_eq {area : Rect} (h : t.resize area = s.resize area) :
    s.SamePanes t := by
  constructor
  · exact (congrArg captured h :)
  · exact (congrArg fullScreen h :)
  · exact (congrArg current h :)
  · rw [← arenas_resize t area, h, arenas_resize]

theorem samePanes_setActive (hactive : s.active = .ok p) (id : PaneId) :
    s.SamePanes (s.setActive { p with focused := id }) := by
  refine ⟨rfl, rfl, rfl, ?_⟩
  have hfind : Assoc.find? s.current s.arenas = some p.arena := by
    rw [arenas, Assoc.find?_mapValues Profile.arena, find?_of_active hactive]
    rfl
  rw [arenas, setActive, Assoc.map_insert Profile.arena]
  exact Assoc.insert_of_find? hfind

theorem active_resize (s : Screen) (area : Rect) :
    (s.resize area).active = s.active.map fun p => p.setViewport area := by
  unfold active
  have hfind : (s.resize area).profiles.find? (s.resize area).current =
      (s.profiles.find? s.current).map fun p => p.setViewport area :=
    Assoc.find?_mapValues (fun p : Profile => p.setViewport area) _ _
  rw [hfind]
  cases s.profiles.find? s.current with
  | none => rfl
  | some p => rfl

theorem focusedPane_resize (s : Screen) (area : Rect) :
    (s.resize area).focusedPane = s.focusedPane := by
  unfold focusedPane
  rw [active_resize]
  cases s.active with
  | error r => rfl
  | ok p => rfl

theorem exists_of_enterTerminal (h : enterTerminal.on s = (.ok (), t)) :
    ∃ p q, s.active = .ok p ∧ (Profile.gotoOrFocus (.kind .terminal)).on p = (.ok (), q) ∧
      t = (s.setActive q).capture := by
  unfold enterTerminal at h
  simp only [Edit.on_bind, Edit.on_get] at h
  split at h
  · cases h
  · cases hactive : s.active with
    | error r =>
        simp only [onActive, Edit.on_bind, Edit.on_read_of_error hactive] at h
        cases h
    | ok p =>
        rw [Edit.on_bind, on_onActive hactive] at h
        rcases hon : (Profile.gotoOrFocus (.kind .terminal)).on p with ⟨fault | _, q⟩
        · rw [hon] at h
          cases h
        · rw [hon] at h
          exact ⟨p, q, rfl, hon, (Prod.mk.inj h).2.symm⟩

end Screen

theorem Command.key_of_allowed {name : String} {c : Command} (hname : ofKey? name = some c)
    (h : c.allowedWhenCaptured = true) : name = "q" ∨ name = "escape" := by
  unfold ofKey? at hname
  split at hname
  case h_1 => exact Or.inl rfl
  case h_16 => exact Or.inr rfl
  all_goals
    cases hname
    try cases h

namespace FrontEnd

variable {f : FrontEnd} {e : Event}

/-- What an event does while the keys go to a pane. A key that stands for a command is blocked, and
any other is ignored; the pointer at most moves the focus of the current profile; and two screens
before and after another size differ in areas only. -/
def HeldBack (f : FrontEnd) : Event → Prop
  | .key name =>
    f.handle (.key name) = (.ok ⟨(Command.ofKey? name).elim .ignored .blocked, []⟩, f)
  | .pointer cell =>
    (f.handle (.pointer cell)).2.screen = f.screen ∨
      ∃ p id, f.screen.active = .ok p ∧
        (f.handle (.pointer cell)).2.screen = f.screen.setActive { p with focused := id }
  | .resize width height =>
    ∀ area, (f.handle (.resize width height)).2.screen.resize area = f.screen.resize area

theorem heldBack_key (hcaptured : f.screen.captured = true) {name : String}
    (hescape : name ≠ "escape") (hquit : name ≠ "q") : f.HeldBack (.key name) := by
  show f.key name = _
  unfold key
  cases hkey : Command.ofKey? name with
  | none => rfl
  | some c =>
      cases hallowed : c.allowedWhenCaptured with
      | true =>
          rcases Command.key_of_allowed hkey hallowed with rfl | rfl
          · exact absurd rfl hquit
          · exact absurd rfl hescape
      | false =>
          simp only [hcaptured, hallowed, Bool.not_false, Bool.and_self, if_true]
          rfl

theorem heldBack_resize (f : FrontEnd) (width height : Int) : f.HeldBack (.resize width height) := by
  intro area
  have hscreen : (f.handle (.resize width height)).2.screen = _ :=
    screen_refresh { f with width := width, height := height }
  rw [hscreen]
  split
  · rfl
  · exact Screen.resize_resize _ _ _

theorem heldBack (hf : f.Fitted) (hcaptured : f.screen.captured = true)
    (hescape : e ≠ .key "escape") (hquit : e ≠ .key "q") : f.HeldBack e := by
  cases e with
  | key name =>
      apply heldBack_key hcaptured
      · rintro rfl
        exact hescape rfl
      · rintro rfl
        exact hquit rfl
  | pointer cell =>
      rcases screen_pointer hf cell with h | ⟨p, id, hactive, -, h⟩
      · exact Or.inl h
      · exact Or.inr ⟨p, id, hactive, h⟩
  | resize width height => exact heldBack_resize f width height

theorem HeldBack.samePanes (h : f.HeldBack e) : f.screen.SamePanes (f.handle e).2.screen := by
  cases e with
  | key name =>
      have hkey : f.handle (.key name) = _ := h
      rw [hkey]
      exact .refl _
  | pointer cell =>
      rcases h with h | ⟨p, id, hactive, h⟩
      · rw [h]
        exact .refl _
      · rw [h]
        exact Screen.samePanes_setActive hactive id
  | resize width height => exact Screen.samePanes_of_resize_eq (h f.area)

theorem samePanes_after (hf : f.Fitted) (hcaptured : f.screen.captured = true)
    {events : List Event} (hescape : .key "escape" ∉ events) (hquit : .key "q" ∉ events) :
    f.screen.SamePanes (f.after events).screen := by
  induction events generalizing f with
  | nil => exact .refl _
  | cons e events ih =>
      rw [List.mem_cons, not_or] at hescape hquit
      obtain ⟨he, hescape⟩ := hescape
      obtain ⟨he', hquit⟩ := hquit
      have hstep := (heldBack hf hcaptured (Ne.symm he) (Ne.symm he')).samePanes
      exact hstep.trans (ih (fitted_handle hf e) (hstep.captured.trans hcaptured) hescape hquit)

theorem focusedPane_handle (hf : f.Fitted) (hcaptured : f.screen.captured = true)
    (hescape : e ≠ .key "escape") (hpointer : ∀ cell, e ≠ .pointer cell) :
    f.screen.SamePanes (f.handle e).2.screen ∧
      (f.handle e).2.screen.focusedPane = f.screen.focusedPane := by
  by_cases hquit : e = .key "q"
  · rw [hquit, handle_quit]
    exact ⟨.refl _, rfl⟩
  · have hheld := heldBack hf hcaptured hescape hquit
    refine ⟨hheld.samePanes, ?_⟩
    cases e with
    | key name =>
        have hkey : f.handle (.key name) = _ := hheld
        rw [hkey]
    | pointer cell => exact absurd rfl (hpointer cell)
    | resize width height =>
        rw [← Screen.focusedPane_resize _ f.area, hheld f.area, Screen.focusedPane_resize]

theorem focusedPane_after (hf : f.Fitted) (hcaptured : f.screen.captured = true)
    {events : List Event} (hescape : .key "escape" ∉ events)
    (hpointer : ∀ cell, .pointer cell ∉ events) :
    f.screen.SamePanes (f.after events).screen ∧
      (f.after events).screen.focusedPane = f.screen.focusedPane := by
  induction events generalizing f with
  | nil => exact ⟨.refl _, rfl⟩
  | cons e events ih =>
      rw [List.mem_cons, not_or] at hescape
      obtain ⟨he, hescape⟩ := hescape
      have hcell : ∀ cell, e ≠ .pointer cell := by
        rintro cell rfl
        exact hpointer cell List.mem_cons_self
      obtain ⟨hsame, hpane⟩ := focusedPane_handle hf hcaptured (Ne.symm he) hcell
      obtain ⟨hsame', hpane'⟩ := ih (fitted_handle hf e) (hsame.captured.trans hcaptured) hescape
        fun cell hmem => hpointer cell (List.mem_cons_of_mem e hmem)
      exact ⟨hsame.trans hsame', hpane'.trans hpane⟩

theorem focusedPane_of_enterTerminal (hf : f.Fitted) (hcaptured : f.screen.captured = false)
    {s : Screen} (h : Command.enterTerminal.apply f.screen = (.ok (), s)) :
    (f.handle (.key "t")).2.screen = s ∧ s.captured = true ∧
      ∃ pane, s.focusedPane = .ok pane ∧ pane.view = .kind .terminal := by
  have hkey : Command.ofKey? "t" = some .enterTerminal := rfl
  obtain ⟨p, q, hactive, hgoto, rfl⟩ := Screen.exists_of_enterTerminal h
  obtain ⟨t, ht⟩ := hf.driven.inOrder.exists_holds (Screen.find?_of_active hactive)
  obtain ⟨pane, hpane, hview⟩ := Profile.focusedPane_of_gotoOrFocus ht hgoto
  refine ⟨?_, rfl, pane, ?_, hview⟩
  · rw [handle, key, hkey]
    simp only [hcaptured, Bool.false_and, Bool.false_eq_true, if_false, reduceCtorEq]
    exact screen_run hf h
  · have hset : (f.screen.setActive q).capture.active = .ok q := active_setActive f.screen q
    rw [Screen.focusedPane, hset]
    exact hpane

/-- While the keys go to a pane and are not given back, the modes, the current profile and all panes
stay as they are; every key of a command is blocked and changes nothing, another size changes areas
only, and the pointer at most the focus of the current profile. When the terminal is entered the keys
go to a pane that shows it, and that stays in focus until the pointer moves or the keys are given
back. -/
theorem heldBack_of_captured {f : FrontEnd} (hf : f.Reachable) :
    (f.screen.captured = true →
      ∀ events : List Event, .key "escape" ∉ events → .key "q" ∉ events →
        f.screen.SamePanes (f.after events).screen ∧
        ∀ e, e ≠ .key "escape" → e ≠ .key "q" → (f.after events).HeldBack e) ∧
    ∀ s, f.screen.captured = false → Command.enterTerminal.apply f.screen = (.ok (), s) →
      (f.handle (.key "t")).2.screen = s ∧
      ∃ pane, s.focusedPane = .ok pane ∧ pane.view = .kind .terminal ∧
        ∀ events : List Event, .key "escape" ∉ events → (∀ cell, .pointer cell ∉ events) →
          s.SamePanes ((f.handle (.key "t")).2.after events).screen ∧
          ((f.handle (.key "t")).2.after events).screen.focusedPane = .ok pane := by
  constructor
  · intro hcaptured events hescape hquit
    have hsame := samePanes_after hf.fitted hcaptured hescape hquit
    refine ⟨hsame, fun e he he' => ?_⟩
    exact heldBack (hf.after events).fitted (hsame.captured.trans hcaptured) he he'
  · intro s hfree happly
    obtain ⟨hscreen, hcaptured, pane, hpane, hview⟩ :=
      focusedPane_of_enterTerminal hf.fitted hfree happly
    refine ⟨hscreen, pane, hpane, hview, fun events hescape hpointer => ?_⟩
    have hentered := (hf.handle (.key "t")).fitted
    rw [← hscreen] at hcaptured hpane ⊢
    obtain ⟨hsame, hfocused⟩ := focusedPane_after hentered hcaptured hescape hpointer
    exact ⟨hsame, hfocused.trans hpane⟩

/-- The keys go to the terminal of the large layout, whose focus the pointer then takes away. -/
theorem heldBack_of_captured_large :
    let s := { Screen.initial with current := Screen.largeName }
    let f := (ofScreen s ⟨0, 1⟩ 80 22).mount.2
    let g := (f.handle (.key "t")).2
    let events : List Event := [.key "x", .pointer ⟨70, 3⟩, .resize 3 1, .key "f"]
    f.Reachable ∧ g.screen.captured = true ∧ g.screen.SamePanes (g.after events).screen ∧
      (g.after events).HeldBack (.key "2") ∧
      (∃ pane, (g.after [.key "x", .resize 3 1]).screen.focusedPane = .ok pane ∧
        pane.view = .kind .terminal) ∧
      (g.after events).screen.active.toOption.map Profile.focused = some 2 := by
  intro s f g events
  have hliterals : Screen.ofLiterals [] Screen.largeName = .ok s := rfl
  have hf : f.Reachable := .mount (.start hliterals) rfl ⟨0, 1⟩ 80 22
  have hcaptured : g.screen.captured = true := by decide
  obtain ⟨hfrozen, -⟩ := heldBack_of_captured (hf.handle (.key "t"))
  obtain ⟨hsame, hheld⟩ := hfrozen hcaptured events (by simp [events]) (by simp [events])
  obtain ⟨-, hentered⟩ := heldBack_of_captured hf
  have hanswer : (Command.enterTerminal.apply f.screen).1 = .ok () :=
    eq_ok_of_toOption (by decide)
  obtain ⟨-, pane, -, hview, hpane⟩ := hentered _ (by decide) (Prod.ext hanswer rfl)
  obtain ⟨-, hfocused⟩ := hpane [.key "x", .resize 3 1] (by simp) (by simp)
  refine ⟨hf, hcaptured, hsame, hheld (.key "2") (by simp) (by simp), ⟨pane, hfocused, hview⟩, ?_⟩
  decide

end FrontEnd

end SplitScreen
