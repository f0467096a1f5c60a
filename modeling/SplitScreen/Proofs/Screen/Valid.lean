import SplitScreen.Proofs.Profile.Valid
import SplitScreen.Proofs.Refusal
import SplitScreen.Proofs.Screen.Reachable

namespace SplitScreen

namespace Screen

/-- The current profile is registered, and every profile is in good order. -/
structure Valid (s : Screen) : Prop where
  registered : s.Registered
  nodup : s.profiles.keys.Nodup
  profile {name : Text} {p : Profile} (h : s.profiles.find? name = some p) : p.Valid

/-- The screens that actions lead to when none of them overflows, with profiles in good order
registered on the way. -/
inductive Leads (s : Screen) : Screen → Prop
  | refl : Leads s s
  | act {t : Screen} (h : Leads s t) {a : Action} (ha : ∀ name, a ≠ .setCurrent name)
    (hoverflow : (t.act a).1 ≠ .error .overflow) : Leads s (t.act a).2
  | addProfile {t : Screen} (h : Leads s t) (name : Text) {p : Profile} (hp : p.Valid) :
    Leads s (t.addProfile name p)

variable {s t : Screen} {p : Profile}

theorem Valid.exists_active (h : s.Valid) : ∃ p, s.active = .ok p ∧ p.Valid := by
  obtain ⟨p, hp⟩ := Option.isSome_iff_exists.mp h.registered
  exact ⟨p, by rw [active, hp], h.profile hp⟩

theorem Valid.addProfile (h : s.Valid) (name : Text) (hp : p.Valid) :
    (s.addProfile name p).Valid where
  registered := registered_addProfile h.registered name p
  nodup := Assoc.nodup_keys_insert _ _ h.nodup
  profile {other q} hq := by
    rw [Screen.addProfile, Assoc.find?_insert] at hq
    split at hq
    · obtain rfl := Option.some.inj hq
      exact hp.setViewport s.viewport
    · exact h.profile hq

theorem Valid.setActive (h : s.Valid) (hp : p.Valid) : (s.setActive p).Valid where
  registered := registered_setActive s p
  nodup := Assoc.nodup_keys_insert _ _ h.nodup
  profile {other q} hq := by
    rw [Screen.setActive, Assoc.find?_insert] at hq
    split at hq
    · obtain rfl := Option.some.inj hq
      exact hp
    · exact h.profile hq

theorem keys_resize (s : Screen) (area : Rect) :
    (s.resize area).profiles.keys = s.profiles.keys := by
  simp [resize, Assoc.keys]

theorem Valid.resize (h : s.Valid) (area : Rect) : (s.resize area).Valid where
  registered := registered_resize h.registered area
  nodup := by
    rw [keys_resize]
    exact h.nodup
  profile {other q} hq := by
    rw [Screen.resize, Assoc.find?_mapValues fun p : Profile => p.setViewport area] at hq
    obtain ⟨p, hp, rfl⟩ := Option.map_eq_some_iff.mp hq
    exact (h.profile hp).setViewport area

theorem Valid.showing (h : s.Valid) {name : Text} (hshowing : s.showing name = .ok t) :
    t.Valid := by
  have hregistered := registered_of_showing hshowing
  unfold Screen.showing at hshowing
  split at hshowing
  · obtain rfl := Except.ok.inj hshowing
    exact ⟨hregistered, h.nodup, h.profile⟩
  · cases hshowing

theorem valid_initial : initial.Valid := by
  refine ⟨registered_initial, by decide, fun {name p} hp => ?_⟩
  simp only [initial, addProfile, Assoc.find?_insert, Assoc.find?_nil] at hp
  split at hp
  · obtain rfl := Option.some.inj hp
    exact (Profile.valid_ofLayout _ _).setViewport _
  · split at hp
    · obtain rfl := Option.some.inj hp
      exact (Profile.valid_ofLayout _ _).setViewport _
    · cases hp

theorem valid_ofProfiles {profiles : Assoc Text (Layout Ratio)} {name : Text}
    (h : ofProfiles profiles name = .ok s) : s.Valid := by
  apply ofProfiles_induction h valid_initial
  · intro u entry _ hu
    exact hu.addProfile _ (Profile.valid_ofLayout _ _)
  · exact fun hu hshowing => hu.showing hshowing

theorem valid_ofLiterals {literals : Assoc Text (Layout Value)} {name : Text}
    (h : ofLiterals literals name = .ok s) : s.Valid := by
  obtain ⟨profiles, -, h⟩ := exists_checked h
  exact valid_ofProfiles h

theorem eq_of_showing {name : Text} (h : s.showing name = .ok t) :
    s.profiles.contains name = true ∧ t = { s with current := name } := by
  unfold showing at h
  split at h
  · next hname => exact ⟨hname, (Except.ok.inj h).symm⟩
  · cases h

theorem pending_ofLiterals {literals : Assoc Text (Layout Value)} {name : Text}
    (h : ofLiterals literals name = .ok s) : s.pending = none := by
  obtain ⟨profiles, -, h⟩ := exists_checked h
  apply ofProfiles_induction h (P := fun u => u.pending = none) rfl
  · exact fun _ hu => hu
  · intro u hu hshowing
    rw [(eq_of_showing hshowing).2]
    exact hu

theorem safe_silent {x : Edit Screen Unit} (h : x.Safe Valid) : (silent x).Safe Valid :=
  h.bind fun _ => Edit.safe_pure done

theorem safe_onActive {α : Type} {x : Edit Profile α} (hx : x.Safe Profile.Valid) :
    (onActive x).Safe Valid := by
  intro s hs
  obtain ⟨p, hactive, hp⟩ := hs.exists_active
  have hend := hx p hp
  rw [on_onActive hactive]
  rcases hon : x.on p with ⟨fault | a, q⟩
  · rw [hon] at hend
    cases fault with
    | refused | longInteger => exact hs.setActive hend
    | overflow => trivial
    | focusLost | badMarkup => exact hend.elim
  · rw [hon] at hend
    exact hs.setActive hend

theorem safe_switchTo (name : Text) : (switchTo name).Safe Valid := by
  intro s hs
  rw [switchTo, Edit.on_bind, Edit.on_read]
  cases hshowing : s.showing name with
  | error r => exact hs
  | ok t => exact hs.showing hshowing

theorem safe_dispatchPointer : dispatchPointer.Safe Valid := by
  intro s hs
  have htaken : ({ s with pending := none } : Screen).Valid :=
    ⟨hs.registered, hs.nodup, hs.profile⟩
  rw [dispatchPointer]
  simp only [Edit.on_bind, Edit.on_get, Edit.on_set]
  split
  · exact htaken
  · split
    · exact htaken
    · next point _ _ =>
        exact safe_onActive (Edit.Safe.of_map (Profile.safe_call (.focusAt point))) _ htaken

theorem safe_enterTerminal : enterTerminal.Safe Valid := by
  refine Edit.safe_get.bind fun s => ?_
  split
  · exact Edit.safe_refuse _
  · refine (safe_onActive (Profile.safe_of_done (Profile.safe_call (.gotoOrFocus _)))).bind ?_
    exact fun _ => Edit.safe_modify fun s hs => ⟨hs.registered, hs.nodup, hs.profile⟩

theorem safe_splitFocused (direction : Direction) (ratio : Value) :
    (splitFocused direction ratio).Safe Valid :=
  safe_onActive (Edit.safe_get.bind fun p =>
    Edit.Safe.of_map (Profile.safe_call (.split p.focused direction ratio)))

theorem safe_mergeFocused : mergeFocused.Safe Valid := by
  refine safe_onActive (Edit.safe_get.bind fun p => ?_)
  refine (Edit.safe_read _).bind fun sibling => ?_
  cases sibling with
  | none => exact Edit.safe_refuse _
  | some sibling => exact Profile.safe_of_done (Profile.safe_call (.merge p.focused sibling))

theorem safe_closeFocused : closeFocused.Safe Valid :=
  safe_onActive (Edit.safe_get.bind fun p =>
    Edit.Safe.of_map (Profile.safe_call (.remove p.focused)))

theorem safe_focusTowards (side : Side) : (Screen.focusTowards side).Safe Valid :=
  safe_onActive (Profile.safe_of_done (Profile.safe_call (.focusTowards side)))

theorem safe_edit {a : Action} (ha : ∀ name, a ≠ .setCurrent name) : a.edit.Safe Valid := by
  cases a with
  | toggleFullScreen | capture | release | setPending =>
      exact safe_silent (Edit.safe_modify fun s hs => ⟨hs.registered, hs.nodup, hs.profile⟩)
  | movePointer point =>
      refine safe_silent (Edit.safe_modify fun s hs => ?_)
      unfold movePointer
      split
      · exact hs
      · exact ⟨hs.registered, hs.nodup, hs.profile⟩
  | dispatchPointer => exact safe_dispatchPointer.map _
  | enterTerminal => exact safe_silent safe_enterTerminal
  | mergeFocused => exact safe_silent safe_mergeFocused
  | closeFocused => exact safe_closeFocused.map _
  | splitFocused direction ratio => exact (safe_splitFocused direction ratio).map _
  | focusTowards side => exact safe_silent (safe_focusTowards side)
  | switchTo name => exact safe_silent (safe_switchTo name)
  | resize area => exact safe_silent (Edit.safe_modify fun s hs => hs.resize area)
  | addProfile name literal viewport =>
      intro s hs
      rw [Action.edit, Edit.on_bind, Edit.on_ofOutcome, Profile.ofLiteral]
      cases literal.check with
      | error ratio => exact Edit.ends_invalidRatio ratio hs
      | ok l => exact hs.addProfile name (Profile.valid_ofLayout l viewport)
  | profileNames => exact Edit.safe_read fun s : Screen => .ok (Answer.names s.profileNames)
  | focusedPane | flatten area => exact Edit.safe_read _
  | onActive call => exact (safe_onActive (Profile.safe_call call)).map _
  | setCurrent name => exact absurd rfl (ha name)

theorem Leads.answered (h : s.Leads t) {a : Action} (ha : ∀ name, a ≠ .setCurrent name)
    (hanswer : (t.act a).1.toOption.isSome = true) : s.Leads (t.act a).2 := by
  refine h.act ha fun hoverflow => ?_
  rw [hoverflow] at hanswer
  cases hanswer

/-- A run of actions without an overflow keeps the screen in good order. -/
theorem Leads.valid (h : s.Leads t) (hs : s.Valid) : t.Valid := by
  induction h with
  | refl => exact hs
  | @act t _ a ha hoverflow ih =>
      have hend := safe_edit ha t ih
      rw [Screen.act] at hoverflow ⊢
      rcases hon : a.edit.on t with ⟨fault | answer, u⟩
      · rw [hon] at hend hoverflow
        cases fault with
        | refused | longInteger => exact hend
        | overflow => exact absurd rfl hoverflow
        | focusLost | badMarkup => exact hend.elim
      · rw [hon] at hend
        exact hend
  | addProfile _ name hp ih => exact ih.addProfile name hp

end Screen

theorem Command.safe_edit (c : Command) : c.edit.Safe Screen.Valid := by
  cases c with
  | quit => exact Edit.safe_pure ()
  | focus side => exact Screen.safe_focusTowards side
  | split direction => exact (Screen.safe_splitFocused direction _).bind fun _ => Edit.safe_pure ()
  | close => exact Screen.safe_closeFocused.bind fun _ => Edit.safe_pure ()
  | merge => exact Screen.safe_mergeFocused
  | fullScreen | release =>
      exact Edit.safe_modify fun s hs => ⟨hs.registered, hs.nodup, hs.profile⟩
  | enterTerminal => exact Screen.safe_enterTerminal
  | small | large => exact Screen.safe_switchTo _

end SplitScreen
