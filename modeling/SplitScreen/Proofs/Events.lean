import SplitScreen.Proofs.Faithful

namespace SplitScreen

namespace Screen

/-- The screens that a screen's own actions lead to, however they end, with profiles of well-formed
arenas registered on the way. -/
inductive Driven : Screen → Prop
  | start {literals : Assoc Text (Layout Value)} {name : Text} {s : Screen}
    (h : ofLiterals literals name = .ok s) : Driven s
  | act {s : Screen} (h : Driven s) {a : Action} (ha : a.IsOwn) : Driven (s.act a).2
  | addProfile {s : Screen} (h : Driven s) (name : Text) {p : Profile} (hp : p.arena.WellFormed) :
    Driven (s.addProfile name p)

/-- The names of the profiles differ, each has the area of the screen, and each arena holds a tree. -/
structure InOrder (s : Screen) : Prop where
  nodup : s.profiles.keys.Nodup
  fits : s.Fits
  exists_holds {name : Text} {p : Profile} (h : s.profiles.find? name = some p) :
    ∃ t, p.arena.Holds [] t

variable {s t : Screen} {a : Action} {p : Profile}

theorem InOrder.addProfile (h : s.InOrder) (name : Text) (hp : ∃ t, p.arena.Holds [] t) :
    (s.addProfile name p).InOrder := by
  constructor
  · exact Assoc.nodup_keys_insert _ _ h.nodup
  · exact h.fits.addProfile name p
  · intro other q hq
    rw [Screen.addProfile, Assoc.find?_insert] at hq
    split at hq
    · obtain rfl := Option.some.inj hq
      exact hp
    · exact h.exists_holds hq

theorem InOrder.setActive (h : s.InOrder) (hp : s.active = .ok p) (ha : a.IsOwn) :
    (s.setActive (p.run (a.callsOn s p))).InOrder := by
  constructor
  · exact Assoc.nodup_keys_insert _ _ h.nodup
  · exact h.fits.setActive hp ha
  · intro other q hq
    rw [Screen.setActive, Assoc.find?_insert] at hq
    split at hq
    · obtain rfl := Option.some.inj hq
      obtain ⟨tree, htree⟩ := h.exists_holds (find?_of_active hp)
      exact Profile.exists_holds_run htree _
    · exact h.exists_holds hq

theorem InOrder.resize (h : s.InOrder) (area : Rect) : (s.resize area).InOrder := by
  constructor
  · rw [keys_resize]
    exact h.nodup
  · exact (Step.resizes area).fits trivial h.fits
  · intro name q hq
    rw [Screen.resize, Assoc.find?_mapValues fun p : Profile => p.setViewport area] at hq
    obtain ⟨p, hp, rfl⟩ := Option.map_eq_some_iff.mp hq
    obtain ⟨tree, htree⟩ := h.exists_holds hp
    exact ⟨tree, htree⟩

theorem Step.inOrder (h : s.Step a t) (ha : a.IsOwn) (hs : s.InOrder) : t.InOrder := by
  cases h with
  | stays => exact hs
  | takes | toggles | captures | releases | switches =>
      exact ⟨hs.nodup, hs.fits, hs.exists_holds⟩
  | moves point =>
      rw [movePointer]
      split
      · exact hs
      · exact ⟨hs.nodup, hs.fits, hs.exists_holds⟩
  | calls _ hp => exact hs.setActive hp ha
  | enters hp | points hp =>
      have hset := hs.setActive hp ha
      exact ⟨hset.nodup, hset.fits, hset.exists_holds⟩
  | resizes area => exact hs.resize area
  | registers hp => exact hs.addProfile _ (Profile.exists_holds_ofLiteral hp)
  | names | sets => exact ha.elim

theorem Driven.inOrder (h : s.Driven) : s.InOrder := by
  induction h with
  | start h =>
      have hvalid := valid_ofLiterals h
      exact ⟨hvalid.nodup, (sound_ofLiterals h).fits, fun hp => (hvalid.profile hp).exists_holds⟩
  | act _ ha ih => exact (step_act _ _).inOrder ha ih
  | addProfile _ name hp ih => exact ih.addProfile name (Arena.wellFormed_iff.mp hp)

theorem Driven.of_becomes (hs : s.Driven) (h : s.Becomes t) : t.Driven := by
  obtain ⟨actions, hactions, rfl⟩ := h
  induction actions generalizing s with
  | nil => exact hs
  | cons a actions ih =>
      obtain ⟨ha, hactions⟩ := List.forall_mem_cons.mp hactions
      exact ih (hs.act ha.1) hactions

theorem Evolves.driven (hs : s.Driven) (h : s.Evolves t) : t.Driven := by
  induction h with
  | refl => exact hs
  | act _ ha _ ih => exact ih.act ha
  | addProfile _ name hp ih => exact ih.addProfile name hp.arena

theorem Step.viewport_eq (h : s.Step a t) (ha : ∀ area, a ≠ .resize area) :
    t.viewport = s.viewport := by
  cases h with
  | moves point =>
      rw [movePointer]
      split <;> rfl
  | resizes area => exact absurd rfl (ha area)
  | stays | calls | enters | takes | points | toggles | captures | releases | switches | registers
  | names | sets => rfl

/-- A screen whose profiles all have its area is resized to that area already. -/
theorem resize_viewport (h : s.InOrder) : s.resize s.viewport = s := by
  have hprofiles : (s.profiles.map fun entry => (entry.1, entry.2.setViewport s.viewport)) =
      s.profiles := by
    refine (List.map_congr_left fun entry hentry => ?_).trans (List.map_id s.profiles)
    obtain ⟨name, p⟩ := entry
    have hfit := h.fits name p (Assoc.find?_of_mem h.nodup hentry)
    show (name, p.setViewport s.viewport) = (name, p)
    rw [← hfit]
    rfl
  rw [Screen.resize, hprofiles]

end Screen

theorem Command.viewport_apply (c : Command) (s : Screen) : (c.apply s).2.viewport = s.viewport := by
  rw [c.snd_apply]
  cases c with
  | quit => rfl
  | _ => exact (Screen.step_act s _).viewport_eq nofun

namespace FrontEnd

/-- The front ends that events lead to from the start over a screen on which no movement of the
pointer waits, whether the events are handled or end in a fault. -/
inductive Reachable : FrontEnd → Prop
  | mount {s : Screen} (hs : s.Driven) (hpending : s.pending = none) (origin : Point)
    (width height : Int) : Reachable (ofScreen s origin width height).mount.2
  | handle {f : FrontEnd} (h : Reachable f) (e : Event) : Reachable (f.handle e).2

/-- What is left when all events are handled, one after the other. -/
def after (f : FrontEnd) (events : List Event) : FrontEnd :=
  events.foldl (fun g e => (g.handle e).2) f

/-- No movement of the pointer waits, and the screen has the area of the panes if that has cells. -/
structure Fitted (f : FrontEnd) : Prop where
  driven : f.screen.Driven
  pending : f.screen.pending = none
  viewport (h : f.area.area ≠ 0) : f.screen.viewport = f.area

variable {f : FrontEnd} {s : Screen}

theorem Reachable.after (hf : f.Reachable) (events : List Event) : (f.after events).Reachable := by
  induction events generalizing f with
  | nil => exact hf
  | cons e events ih => exact ih (hf.handle e)

theorem area_refresh (f : FrontEnd) : f.refresh.2.area = f.area := by
  unfold refresh
  simp only
  generalize (if f.area.area = 0 then f.screen else f.screen.resize f.area) = s
  split
  · rfl
  · split
    · rfl
    · split <;> rfl

theorem fitted_refresh (hs : f.screen.Driven) (hpending : f.screen.pending = none) :
    f.refresh.2.Fitted := by
  constructor
  · exact hs.of_becomes (becomes_refresh f)
  · rw [screen_refresh]
    split
    · exact hpending
    · exact hpending
  · intro harea
    rw [area_refresh] at harea ⊢
    rw [screen_refresh, if_neg harea]
    rfl

/-- What the screen already has the area for is drawn without a change of the screen. -/
theorem screen_refresh_of_fitted (hf : f.Fitted) : f.refresh.2.screen = f.screen := by
  rw [screen_refresh]
  split
  · rfl
  · next harea =>
      rw [← hf.viewport harea]
      exact Screen.resize_viewport hf.driven.inOrder

theorem fitted_apply (hf : f.Fitted) (c : Command) :
    ({ f with screen := (c.apply f.screen).2 } : FrontEnd).Fitted where
  driven := hf.driven.of_becomes (c.becomes_apply f.screen)
  pending := pending_apply c hf.pending
  viewport harea := (c.viewport_apply f.screen).trans (hf.viewport harea)

theorem fitted_run (hf : f.Fitted) (c : Command) : (f.run c).2.Fitted := by
  have happly := fitted_apply hf c
  unfold run
  split
  · next s hon =>
      rw [hon] at happly
      exact fitted_refresh happly.driven happly.pending
  · next hon =>
      rw [hon] at happly
      exact ⟨happly.driven, happly.pending, happly.viewport⟩
  · next hon =>
      rw [hon] at happly
      exact happly

theorem screen_run (hf : f.Fitted) {c : Command} (h : c.apply f.screen = (.ok (), s)) :
    (f.run c).2.screen = s := by
  have happly := fitted_apply hf c
  rw [h] at happly
  rw [run, h]
  exact screen_refresh_of_fitted happly

theorem fitted_key (hf : f.Fitted) (name : String) : (f.key name).2.Fitted := by
  rcases f.key_cases name with ⟨reaction, h⟩ | ⟨c, h⟩
  · rw [h]
    exact hf
  · rw [h]
    exact fitted_run hf c

theorem fitted_setActive (hf : f.Fitted) {p : Profile} (hactive : f.screen.active = .ok p)
    {cell : Point} {id : PaneId} (hhit : f.hit? p cell = some id) :
    ({ f with screen := f.screen.setActive { p with focused := id } } : FrontEnd).Fitted := by
  have hmoved := f.screen.becomes_pointed ⟨cell.x - f.origin.x, cell.y - f.origin.y⟩
  unfold hit? at hhit
  split at hhit
  · cases hhit
  · next hfull =>
      rw [on_dispatchPointer hf.pending, if_neg hfull, Screen.on_onActive hactive,
        Profile.on_focusAt, hhit] at hmoved
      exact ⟨hf.driven.of_becomes hmoved, hf.pending, hf.viewport⟩

theorem pointer_of_error {r : Refusal} (hactive : f.screen.active = .error r) (cell : Point) :
    f.pointer cell = (.error (.refused r), f) := by
  unfold pointer
  simp only [hactive, Except.map]

theorem fitted_pointer (hf : f.Fitted) (cell : Point) : (f.pointer cell).2.Fitted := by
  cases hactive : f.screen.active with
  | error r =>
      rw [pointer_of_error hactive]
      exact hf
  | ok p =>
      rw [pointer_eq hf.pending hactive]
      split
      · exact hf
      · next id hhit =>
          split
          · exact hf
          · have hmoved := fitted_setActive hf hactive hhit
            exact fitted_refresh hmoved.driven hmoved.pending

theorem fitted_handle (hf : f.Fitted) (e : Event) : (f.handle e).2.Fitted := by
  cases e with
  | key name => exact fitted_key hf name
  | pointer cell => exact fitted_pointer hf cell
  | resize width height =>
      exact fitted_refresh (f := { f with width := width, height := height }) hf.driven hf.pending

theorem fitted_mount (hs : s.Driven) (hpending : s.pending = none) (origin : Point)
    (width height : Int) : (ofScreen s origin width height).mount.2.Fitted :=
  fitted_refresh hs hpending

theorem Reachable.fitted (hf : f.Reachable) : f.Fitted := by
  induction hf with
  | mount hs hpending origin width height => exact fitted_mount hs hpending origin width height
  | handle _ e ih => exact fitted_handle ih e

theorem screen_pointer (hf : f.Fitted) (cell : Point) :
    (f.pointer cell).2.screen = f.screen ∨
      ∃ p id, f.screen.active = .ok p ∧ f.hit? p cell = some id ∧
        (f.pointer cell).2.screen = f.screen.setActive { p with focused := id } := by
  cases hactive : f.screen.active with
  | error r =>
      rw [pointer_of_error hactive]
      exact Or.inl rfl
  | ok p =>
      rw [pointer_eq hf.pending hactive]
      split
      · exact Or.inl rfl
      · next id hhit =>
          split
          · exact Or.inl rfl
          · exact Or.inr ⟨p, id, rfl, hhit, screen_refresh_of_fitted (fitted_setActive hf hactive hhit)⟩

end FrontEnd

end SplitScreen
