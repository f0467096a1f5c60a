import SplitScreen.Proofs.Screen.Step

namespace SplitScreen

namespace Screen

def Registered (s : Screen) : Prop := (s.profiles.find? s.current).isSome

/-- The screens that actions lead to from a screen of literals, with profiles of any kind registered
on the way. Naming a current profile without a check is no part of it. -/
inductive Reachable : Screen → Prop
  | start {literals : Assoc Text (Layout Value)} {name : Text} {s : Screen}
    (h : ofLiterals literals name = .ok s) : Reachable s
  | act {s : Screen} (h : Reachable s) {a : Action} (ha : ∀ name, a ≠ .setCurrent name) :
    Reachable (s.act a).2
  | addProfile {s : Screen} (h : Reachable s) (name : Text) (p : Profile) :
    Reachable (s.addProfile name p)

variable {s t : Screen}

theorem Registered.exists_active (h : s.Registered) : ∃ p, s.active = .ok p := by
  obtain ⟨p, hp⟩ := Option.isSome_iff_exists.mp h
  exact ⟨p, by rw [active, hp]⟩

theorem registered_addProfile (h : s.Registered) (name : Text) (p : Profile) :
    (s.addProfile name p).Registered := by
  rw [Registered, addProfile, Assoc.find?_insert]
  split
  · rfl
  · exact h

theorem registered_setActive (s : Screen) (p : Profile) : (s.setActive p).Registered := by
  rw [Registered, setActive, Assoc.find?_insert_self]
  rfl

theorem registered_resize (h : s.Registered) (area : Rect) : (s.resize area).Registered := by
  rw [Registered, resize, Assoc.find?_mapValues (fun p : Profile => p.setViewport area),
    Option.isSome_map]
  exact h

theorem registered_of_showing {name : Text} (h : s.showing name = .ok t) : t.Registered := by
  unfold showing at h
  split at h
  · next hname =>
      obtain rfl := Except.ok.inj h
      exact hname
  · cases h

theorem registered_initial : initial.Registered := rfl

/-- What holds of the built-in profiles, and is kept when the given ones are registered and the
first one is chosen, holds of a new screen. -/
theorem ofProfiles_induction {profiles : Assoc Text (Layout Ratio)} {name : Text}
    (h : ofProfiles profiles name = .ok t) {P : Screen → Prop} (hinitial : P initial)
    (hadd : ∀ {u : Screen} {entry : Text × Layout Ratio}, entry ∈ profiles → P u →
      P (u.addProfile entry.1 (Profile.ofLayout entry.2)))
    (hshow : ∀ {u : Screen}, P u → u.showing name = .ok t → P t) : P t := by
  have hfold : ∀ rest ⊆ profiles, ∀ start : Screen, P start →
      P (rest.foldl (fun u entry => u.addProfile entry.1 (Profile.ofLayout entry.2)) start) := by
    intro rest hrest
    induction rest with
    | nil => exact fun _ hstart => hstart
    | cons entry rest ih =>
        obtain ⟨hentry, hrest⟩ := List.cons_subset.mp hrest
        exact fun _ hstart => ih hrest _ (hadd hentry hstart)
  unfold ofProfiles at h
  split at h
  · obtain rfl := Except.ok.inj h
    exact hfold profiles (List.Subset.refl _) initial hinitial
  · exact hshow (hfold profiles (List.Subset.refl _) initial hinitial) h

theorem exists_checked {literals : Assoc Text (Layout Value)} {name : Text}
    (h : ofLiterals literals name = .ok s) :
    ∃ profiles, checkLiterals literals = .ok profiles ∧ ofProfiles profiles name = .ok s := by
  unfold ofLiterals at h
  cases hliterals : checkLiterals literals with
  | error r => simp [hliterals, bind, Except.bind] at h
  | ok profiles =>
      simp only [hliterals, bind, Except.bind] at h
      exact ⟨profiles, rfl, mapError_eq_ok_iff.mp h⟩

theorem registered_ofLiterals {literals : Assoc Text (Layout Value)} {name : Text}
    (h : ofLiterals literals name = .ok s) : s.Registered := by
  obtain ⟨profiles, -, h⟩ := exists_checked h
  apply ofProfiles_induction h registered_initial
  · intro u entry _ hu
    exact registered_addProfile hu _ _
  · exact fun _ => registered_of_showing

theorem Step.registered {a : Action} (h : s.Step a t) (ha : ∀ name, a ≠ .setCurrent name)
    (hs : s.Registered) : t.Registered := by
  cases h with
  | stays | takes | toggles | captures | releases | sets => exact hs
  | moves point =>
      rw [movePointer]
      split <;> exact hs
  | calls | enters | points => exact registered_setActive s _
  | switches hname => exact hname
  | resizes area => exact registered_resize hs area
  | registers => exact registered_addProfile hs _ _
  | names name => exact absurd rfl (ha name)

theorem Reachable.registered (h : s.Reachable) : s.Registered := by
  induction h with
  | start h => exact registered_ofLiterals h
  | act _ ha ih => exact (step_act _ _).registered ha ih
  | addProfile _ name p ih => exact registered_addProfile ih name p

end Screen

end SplitScreen
