import SplitScreen.Proofs.Arena.Rooted
import SplitScreen.Proofs.Screen.Step
import SplitScreen.Proofs.Screen.Valid

namespace SplitScreen

namespace Profile

structure WellFormed (p : Profile) : Prop where
  arena : p.arena.WellFormed
  focused_mem : p.focused ∈ p.paneIds

variable {p q : Profile}

theorem wellFormed_iff_valid : p.WellFormed ↔ p.Valid := by
  constructor
  · intro h
    exact ⟨Arena.wellFormed_iff.mp h.arena, h.focused_mem⟩
  · intro h
    exact ⟨Arena.wellFormed_iff.mpr h.exists_holds, h.focused_mem⟩

theorem Step.viewport {c : Call} {outcome : Except Fault Answer} (h : p.Step c outcome q)
    (hc : ∀ area, c ≠ .setViewport area) : q.viewport = p.viewport := by
  cases h with
  | views area => exact absurd rfl (hc area)
  | fails | stays | focuses | shows | splits | merges | absorbs | closes | loses => rfl

theorem viewport_run {calls : List Call} (h : ∀ c ∈ calls, ∀ area, c ≠ .setViewport area) :
    (p.run calls).viewport = p.viewport := by
  induction calls generalizing p with
  | nil => rfl
  | cons c calls ih =>
      obtain ⟨hc, hcalls⟩ := List.forall_mem_cons.mp h
      rw [run, List.foldl_cons, ← run, ih hcalls]
      exact (step_call c).viewport hc

end Profile

namespace Screen

/-- The action is one of the screen's own, which neither reach into a profile nor set a field past
the checks. -/
def Action.IsOwn : Action → Prop
  | .onActive _ | .setCurrent _ | .setPending _ => False
  | _ => True

/-- The screens that a screen's own actions lead to, answered or refused, with well-formed profiles
registered on the way. -/
inductive Evolves (s : Screen) : Screen → Prop
  | refl : Evolves s s
  | act {t : Screen} (h : Evolves s t) {a : Action} (ha : a.IsOwn)
    (hoverflow : (t.act a).1 ≠ .error .overflow) : Evolves s (t.act a).2
  | addProfile {t : Screen} (h : Evolves s t) (name : Text) {p : Profile} (hp : p.WellFormed) :
    Evolves s (t.addProfile name p)

/-- Every profile has the area of the screen. -/
def Fits (s : Screen) : Prop :=
  ∀ (name : Text) (p : Profile), s.profiles.find? name = some p → p.viewport = s.viewport

/-- In full screen no movement of the pointer waits. -/
def Settled (s : Screen) : Prop := s.fullScreen = true → s.pending = none

/-- What a screen keeps to, whatever is done with it. -/
structure Sound (s : Screen) : Prop where
  registered : s.Registered
  builtin (name : Text) (h : name ∈ builtin) : s.profiles.contains name = true
  fits : s.Fits
  settled : s.Settled
  wellFormed (name : Text) (p : Profile) (h : s.profiles.find? name = some p) : p.WellFormed

variable {s t : Screen} {a : Action} {p : Profile}

theorem Action.IsOwn.calls (ha : a.IsOwn) {c : Profile.Call} (hc : c ∈ a.callsOn s p) :
    (∀ area, c ≠ .setViewport area) ∧ ∀ view, c.Writes view → view = .kind .terminal := by
  cases a with
  | dispatchPointer =>
      simp only [callsOn] at hc
      split at hc
      · cases hc
      · split at hc
        · cases hc
        · exact List.mem_singleton.mp hc ▸ (by simp [Profile.Call.Writes])
  | flatten area =>
      simp only [callsOn] at hc
      split at hc <;> exact List.mem_singleton.mp hc ▸ (by simp [Profile.Call.Writes])
  | mergeFocused =>
      simp only [callsOn] at hc
      split at hc
      · rcases List.mem_cons.mp hc with rfl | hc
        · simp [Profile.Call.Writes]
        · exact List.mem_singleton.mp hc ▸ (by simp [Profile.Call.Writes])
      · exact List.mem_singleton.mp hc ▸ (by simp [Profile.Call.Writes])
  | enterTerminal =>
      simp only [callsOn] at hc
      split at hc
      · cases hc
      · exact List.mem_singleton.mp hc ▸ ⟨by simp, fun _ hwrites => hwrites.symm⟩
  | closeFocused | splitFocused | focusTowards | focusedPane =>
      exact List.mem_singleton.mp hc ▸ (by simp [Profile.Call.Writes])
  | onActive | setCurrent | setPending => exact ha.elim
  | toggleFullScreen | capture | release | movePointer | switchTo | resize | addProfile
  | profileNames => cases hc

theorem Fits.addProfile (h : s.Fits) (name : Text) (p : Profile) : (s.addProfile name p).Fits := by
  intro other q hq
  rw [Screen.addProfile, Assoc.find?_insert] at hq
  split at hq
  · rw [← Option.some.inj hq]
    rfl
  · exact h _ _ hq

theorem Fits.setActive (h : s.Fits) (hp : s.active = .ok p) (ha : a.IsOwn) :
    (s.setActive (p.run (a.callsOn s p))).Fits := by
  intro other q hq
  rw [Screen.setActive, Assoc.find?_insert] at hq
  split at hq
  · rw [← Option.some.inj hq, Profile.viewport_run fun c hc => (ha.calls hc).1]
    exact h _ _ (find?_of_active hp)
  · exact h _ _ hq

theorem Step.fits (h : s.Step a t) (ha : a.IsOwn) (hs : s.Fits) : t.Fits := by
  cases h with
  | stays | takes | toggles | captures | releases | switches => exact hs
  | moves point =>
      rw [movePointer]
      split <;> exact hs
  | calls _ hp => exact hs.setActive hp ha
  | enters hp => exact hs.setActive hp ha
  | points hp => exact hs.setActive hp ha
  | resizes area =>
      intro name q hq
      rw [resize, Assoc.find?_mapValues fun p : Profile => p.setViewport area] at hq
      obtain ⟨p, -, rfl⟩ := Option.map_eq_some_iff.mp hq
      rfl
  | registers => exact hs.addProfile _ _
  | names | sets => exact ha.elim

theorem Action.IsOwn.ne_setPending (ha : a.IsOwn) (point : Option Point) :
    a ≠ .setPending point := by
  rintro rfl
  exact ha

theorem Step.settled (h : s.Step a t) (ha : ∀ point, a ≠ .setPending point) (hs : s.Settled) :
    t.Settled := by
  cases h with
  | stays | calls | enters | captures | releases | switches | resizes | registers | names =>
      exact hs
  | takes | points => exact fun _ => rfl
  | toggles =>
      intro hfull
      rw [toggleFullScreen] at hfull ⊢
      simp only [Bool.not_eq_true'] at hfull
      simp only [hfull, Bool.false_eq_true, if_false]
  | moves point =>
      rw [movePointer]
      split
      · exact hs
      · next hfull => exact fun h => absurd h hfull
  | sets point => exact absurd rfl (ha point)

theorem contains_insert_of_contains {profiles : Assoc Text Profile} {name other : Text}
    (h : profiles.contains name = true) : (profiles.insert other p).contains name = true := by
  rw [Assoc.contains, Assoc.find?_insert]
  split
  · rfl
  · exact h

theorem Step.contains (h : s.Step a t) {name : Text} (hname : s.profiles.contains name = true) :
    t.profiles.contains name = true := by
  cases h with
  | stays | takes | toggles | captures | releases | switches | names | sets => exact hname
  | moves point =>
      rw [movePointer]
      split <;> exact hname
  | calls | enters | points | registers => exact contains_insert_of_contains hname
  | resizes area =>
      rw [resize, Assoc.contains, Assoc.find?_mapValues fun p : Profile => p.setViewport area,
        Option.isSome_map]
      exact hname

theorem fits_ofProfiles {profiles : Assoc Text (Layout Ratio)} {name : Text}
    (h : ofProfiles profiles name = .ok s) : s.Fits := by
  apply ofProfiles_induction h (P := Fits)
  · have hbare : (⟨[], smallName, false, false, none, Profile.defaultViewport⟩ : Screen).Fits :=
      nofun
    exact (hbare.addProfile _ _).addProfile _ _
  · intro u entry _ hu
    exact hu.addProfile _ _
  · intro u hu hshowing
    rw [(eq_of_showing hshowing).2]
    exact hu

theorem builtin_ofProfiles {profiles : Assoc Text (Layout Ratio)} {name : Text}
    (h : ofProfiles profiles name = .ok s) {other : Text} (hother : other ∈ builtin) :
    s.profiles.contains other = true := by
  apply ofProfiles_induction h (P := fun u => u.profiles.contains other = true)
  · revert other
    decide
  · intro u entry _ hu
    exact contains_insert_of_contains hu
  · intro u hu hshowing
    rw [(eq_of_showing hshowing).2]
    exact hu

theorem sound_ofLiterals {literals : Assoc Text (Layout Value)} {name : Text}
    (h : ofLiterals literals name = .ok s) : s.Sound := by
  have hvalid := valid_ofLiterals h
  have hpending := pending_ofLiterals h
  obtain ⟨profiles, -, h⟩ := exists_checked h
  refine ⟨hvalid.registered, fun _ => builtin_ofProfiles h, fits_ofProfiles h, fun _ => hpending, ?_⟩
  intro other p hp
  exact Profile.wellFormed_iff_valid.mpr (hvalid.profile hp)

theorem Evolves.leads (h : s.Evolves t) : s.Leads t := by
  induction h with
  | refl => exact .refl
  | act _ ha hoverflow ih =>
      apply ih.act _ hoverflow
      rintro name rfl
      exact ha
  | addProfile _ name hp ih => exact ih.addProfile name (Profile.wellFormed_iff_valid.mp hp)

theorem Evolves.keeps {P : Screen → Prop}
    (hstep : ∀ {u v : Screen} {a : Action}, u.Step a v → a.IsOwn → P u → P v)
    (hadd : ∀ {u : Screen} (name : Text) (p : Profile), P u → P (u.addProfile name p))
    (h : s.Evolves t) (hs : P s) : P t := by
  induction h with
  | refl => exact hs
  | act _ ha _ ih => exact hstep (step_act _ _) ha ih
  | addProfile _ name _ ih => exact hadd name _ ih

theorem Evolves.contains (h : s.Evolves t) {name : Text}
    (hname : s.profiles.contains name = true) : t.profiles.contains name = true :=
  h.keeps (P := fun u => u.profiles.contains name = true) (fun hstep _ => hstep.contains)
    (fun _ _ => contains_insert_of_contains) hname

/-- The profiles stay well-formed because the screen stays in good order, which a run without an
overflow keeps; the other clauses are kept step by step. -/
theorem Evolves.sound (h : s.Evolves t) (hvalid : s.Valid) (hs : s.Sound) : t.Sound := by
  have ht : t.Valid := h.leads.valid hvalid
  constructor
  · exact ht.registered
  · intro name hname
    exact h.contains (hs.builtin name hname)
  · exact h.keeps (fun hstep ha => hstep.fits ha) (fun name p hu => hu.addProfile name p) hs.fits
  · exact h.keeps (fun hstep ha => hstep.settled ha.ne_setPending) (fun _ _ hu => hu) hs.settled
  · intro name p hp
    exact Profile.wellFormed_iff_valid.mpr (ht.profile hp)

/-- Whatever a screen's own actions are and however they end, its current profile is registered, the
built-in profiles are there, every profile has the area of the screen and is well-formed with the
focus on a pane, and in full screen no movement of the pointer waits. No name is ever taken away. -/
theorem sound_of_evolves {literals : Assoc Text (Layout Value)} {name : Text}
    (h : ofLiterals literals name = .ok s) (ht : s.Evolves t) :
    t.Sound ∧ ∀ u, t.Evolves u → ∀ other, t.profiles.contains other = true →
      u.profiles.contains other = true := by
  constructor
  · exact ht.sound (valid_ofLiterals h) (sound_ofLiterals h)
  · intro u hu other hother
    exact hu.contains hother

theorem sound_of_evolves_large :
    let split := (initial.act (.splitFocused .vertical Ratio.even.toValue)).2
    let full := ((split.addProfile largeName (Profile.ofLayout Layout.large)).act
      .toggleFullScreen).2
    ofLiterals [] smallName = .ok initial ∧ initial.Evolves full ∧ full.Sound := by
  intro split full
  have h : ofLiterals [] smallName = .ok initial := rfl
  have hsplit : initial.Evolves split := Evolves.refl.act trivial (by rintro ⟨⟩)
  have hadded := hsplit.addProfile largeName
    (Profile.wellFormed_iff_valid.mpr (Profile.valid_ofLayout Layout.large Profile.defaultViewport))
  have hfull : initial.Evolves full := hadded.act trivial (by rintro ⟨⟩)
  exact ⟨h, hfull, (sound_of_evolves h hfull).1⟩

end Screen

end SplitScreen
