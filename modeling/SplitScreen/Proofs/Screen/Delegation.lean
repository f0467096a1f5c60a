import SplitScreen.Proofs.Screen.Step

namespace SplitScreen

namespace Screen

/-- The calls that an action makes on the profile of a name: those on the current profile, when it
has that name, and the area of the screen, which goes to every profile. -/
def Action.callsFor (name : Text) (s : Screen) : Action → List Profile.Call
  | .resize area => [.setViewport area]
  | a =>
    match s.active with
    | .ok p => if s.current = name then a.callsOn s p else []
    | .error _ => []

/-- The calls that a run makes on the profile of a name, in their order. -/
def log (name : Text) : Screen → List Action → List Profile.Call
  | _, [] => []
  | s, a :: actions => a.callsFor name s ++ log name (s.act a).2 actions

/-- The action puts a profile under a name. -/
def Action.Registers : Action → Prop
  | .addProfile .. => True
  | _ => False

/-- The action neither makes the profile of a name the current one nor touches it from elsewhere. -/
def Action.Avoids (name : Text) : Action → Prop
  | .switchTo other | .setCurrent other => other ≠ name
  | .resize _ | .addProfile .. => False
  | _ => True

variable {s t : Screen} {name : Text} {p : Profile} {a : Action}

theorem callsFor_of_active (ha : ∀ area, a ≠ .resize area) (hp : s.active = .ok p) :
    a.callsFor name s = if s.current = name then a.callsOn s p else [] := by
  unfold Action.callsFor
  split
  · next area => exact absurd rfl (ha area)
  · rw [hp]

/-- No profile sees an action that writes none and whose calls write nothing. -/
theorem find?_of_silent (hprofiles : t.profiles = s.profiles) (ha : ∀ area, a ≠ .resize area)
    (hcalls : ∀ p q : Profile, s.active = .ok p → q.run (a.callsOn s p) = q) (name : Text) :
    t.profiles.find? name =
      (s.profiles.find? name).map fun p => p.run (a.callsFor name s) := by
  have hrun (q : Profile) : q.run (a.callsFor name s) = q := by
    unfold Action.callsFor
    split
    · next area => exact absurd rfl (ha area)
    · split
      · next p hp =>
          split
          · exact hcalls p q hp
          · rfl
      · rfl
  simp only [hprofiles, hrun, Option.map_id']

theorem find?_setActive (ha : ∀ area, a ≠ .resize area) (hp : s.active = .ok p) (name : Text) :
    (s.setActive (p.run (a.callsOn s p))).profiles.find? name =
      (s.profiles.find? name).map fun q => q.run (a.callsFor name s) := by
  rw [setActive, Assoc.find?_insert, callsFor_of_active ha hp]
  by_cases hname : s.current = name
  · rw [if_pos hname, if_pos hname, ← hname, find?_of_active hp]
    rfl
  · rw [if_neg hname, if_neg hname]
    exact (Option.map_id' ..).symm

theorem Step.find? (h : s.Step a t) (ha : ¬ a.Registers) (name : Text) :
    t.profiles.find? name =
      (s.profiles.find? name).map fun p => p.run (a.callsFor name s) := by
  cases h with
  | stays hresize hcalls => exact find?_of_silent rfl hresize hcalls name
  | takes hcalls => exact find?_of_silent rfl (by nofun) hcalls name
  | calls hresize hp => exact find?_setActive hresize hp name
  | enters hp | points hp => exact find?_setActive (by nofun) hp name
  | toggles | captures | releases | switches | names | sets =>
      refine find?_of_silent ?_ (by nofun) ?_ name
      · rfl
      · exact fun _ _ _ => rfl
  | moves point =>
      refine find?_of_silent ?_ (by nofun) ?_ name
      · rw [movePointer]
        split <;> rfl
      · exact fun _ _ _ => rfl
  | resizes area =>
      exact Assoc.find?_mapValues (fun p : Profile => p.setViewport area) name s.profiles
  | registers => exact absurd trivial ha

theorem Step.current_ne (h : s.Step a t) (ha : a.Avoids name) (hs : s.current ≠ name) :
    t.current ≠ name := by
  cases h with
  | stays | calls | enters | takes | points | toggles | captures | releases | sets => exact hs
  | moves point =>
      rw [movePointer]
      split <;> exact hs
  | switches | names => exact ha
  | resizes | registers => exact ha.elim

theorem callsFor_of_avoids (ha : a.Avoids name) (hs : s.current ≠ name) :
    a.callsFor name s = [] := by
  unfold Action.callsFor
  split
  · exact ha.elim
  · split
    · rw [if_neg hs]
    · rfl

theorem find?_run (s : Screen) (name : Text) {actions : List Action}
    (h : ∀ a ∈ actions, ¬ a.Registers) :
    (s.run actions).profiles.find? name =
      (s.profiles.find? name).map fun p => p.run (s.log name actions) := by
  induction actions generalizing s with
  | nil => exact (Option.map_id' ..).symm
  | cons a actions ih =>
      obtain ⟨ha, hactions⟩ := List.forall_mem_cons.mp h
      have hstep := (step_act s a).find? ha name
      rw [run, List.foldl_cons, ← run, ih _ hactions, hstep, Option.map_map]
      congr 1
      funext p
      simp only [Function.comp_apply, log, Profile.run, List.foldl_append]

theorem log_append (s : Screen) (name : Text) (actions more : List Action) :
    s.log name (actions ++ more) = s.log name actions ++ (s.run actions).log name more := by
  induction actions generalizing s with
  | nil => rfl
  | cons a actions ih => rw [List.cons_append, log, ih, log, List.append_assoc]; rfl

theorem log_of_avoids {actions : List Action} (h : ∀ a ∈ actions, a.Avoids name)
    (hs : s.current ≠ name) : s.log name actions = [] := by
  induction actions generalizing s with
  | nil => rfl
  | cons a actions ih =>
      obtain ⟨ha, hactions⟩ := List.forall_mem_cons.mp h
      rw [log, callsFor_of_avoids ha hs, ih hactions ((step_act s a).current_ne ha hs)]
      rfl

theorem Action.Avoids.not_registers (h : a.Avoids name) : ¬ a.Registers := by
  cases a with
  | addProfile => exact h.elim
  | _ => exact id

theorem act_switchTo (hname : s.profiles.contains name = true) :
    (s.act (.switchTo name)).2 = { s with current := name } := by
  rw [act, Action.edit, on_silent, on_switchTo, if_pos hname]

/-- An excursion to other profiles makes no call on the one that it starts from. -/
theorem log_excursion {other : Text} (hother : other ≠ name)
    (hcontains : s.profiles.contains other = true) {edits : List Action}
    (h : ∀ a ∈ edits, a.Avoids name) :
    s.log name (.switchTo other :: (edits ++ [.switchTo name])) = [] := by
  have hsilent (t : Screen) (target : Text) : (Action.switchTo target).callsFor name t = [] := by
    show (match t.active with
      | .ok _ => if t.current = name then [] else []
      | .error _ => []) = []
    split
    · exact ite_self []
    · rfl
  rw [log, hsilent, log_append, act_switchTo hcontains, log_of_avoids h hother, log, hsilent]
  rfl

/-- What a run leaves of a profile is what the calls made on it while it was current, and the areas
given to the screen, make of it alone. So two runs with the same such calls on a profile leave the
same of it, and an excursion to other profiles leaves it as it was. -/
theorem run_apart (s : Screen) (name : Text) :
    (∀ actions : List Action, (∀ a ∈ actions, ¬ a.Registers) →
      (s.run actions).profiles.find? name =
        (s.profiles.find? name).map fun p => p.run (s.log name actions)) ∧
    (∀ (t : Screen) (actions others : List Action),
      (∀ a ∈ actions, ¬ a.Registers) → (∀ a ∈ others, ¬ a.Registers) →
      t.profiles.find? name = s.profiles.find? name →
      t.log name others = s.log name actions →
      (t.run others).profiles.find? name = (s.run actions).profiles.find? name) ∧
    ∀ (other : Text) (edits : List Action), other ≠ name →
      s.profiles.contains other = true → (∀ a ∈ edits, a.Avoids name) →
      (s.run (.switchTo other :: (edits ++ [.switchTo name]))).profiles.find? name =
        s.profiles.find? name := by
  refine ⟨fun actions h => find?_run s name h, ?_, ?_⟩
  · intro t actions others hactions hothers hfind hlog
    rw [find?_run t name hothers, find?_run s name hactions, hfind, hlog]
  · intro other edits hother hcontains hedits
    rw [find?_run s name, log_excursion hother hcontains hedits]
    · exact Option.map_id' ..
    · intro a ha
      rcases List.mem_cons.mp ha with rfl | ha
      · exact id
      · rcases List.mem_append.mp ha with ha | ha
        · exact (hedits a ha).not_registers
        · obtain rfl := List.mem_singleton.mp ha
          exact id

theorem run_apart_large :
    let s := { Screen.initial with current := largeName }
    let split : Action := .splitFocused .horizontal Ratio.even.toValue
    let edits : List Action := [.splitFocused .vertical Ratio.even.toValue, .closeFocused, .capture]
    let excursion : List Action := .switchTo smallName :: (edits ++ [.switchTo largeName])
    (s.run [split, .resize ⟨0, 0, 3, 1⟩]).profiles.find? largeName =
        (s.profiles.find? largeName).map (fun p => p.run
          (s.log largeName [split, .resize ⟨0, 0, 3, 1⟩])) ∧
      (s.run (split :: excursion)).profiles.find? largeName =
        (s.run [split]).profiles.find? largeName ∧
      (s.run excursion).profiles.find? largeName = s.profiles.find? largeName := by
  intro s split edits excursion
  obtain ⟨hrun, htwin, hexcursion⟩ := run_apart s largeName
  have hedits : ∀ a ∈ edits, a.Avoids largeName := by simp [edits, Action.Avoids]
  have hlog : s.log largeName (split :: excursion) = s.log largeName [split] := by
    rw [log, log_excursion (by decide) rfl hedits]
    rfl
  refine ⟨hrun _ ?_, htwin s [split] (split :: excursion) ?_ ?_ rfl hlog,
    hexcursion smallName edits (by decide) rfl hedits⟩
  · simp [split, Action.Registers]
  · simp [split, Action.Registers]
  · simp [split, edits, excursion, Action.Registers]

end Screen

end SplitScreen
