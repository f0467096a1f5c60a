import SplitScreen.Proofs.Profile.Layout
import SplitScreen.Proofs.Store
import SplitScreen.Store

namespace SplitScreen

namespace Screen

variable {profiles : Assoc Text (Layout Ratio)} {name : Text} {s t : Screen}

theorem find?_foldl_addProfile (h : profiles.keys.Nodup) (start : Screen) (name : Text) :
    (profiles.foldl (fun u entry => u.addProfile entry.1 (Profile.ofLayout entry.2))
        start).profiles.find? name =
      match profiles.find? name with
      | some l => some ((Profile.ofLayout l).setViewport start.viewport)
      | none => start.profiles.find? name := by
  induction profiles generalizing start with
  | nil => rfl
  | cons entry rest ih =>
      obtain ⟨k, l⟩ := entry
      obtain ⟨hk, hrest⟩ := List.nodup_cons.mp h
      rw [List.foldl_cons, ih hrest, Assoc.find?]
      by_cases hkey : k = name
      · subst hkey
        have hmiss : Assoc.find? k rest = none := by
          rw [← Option.not_isSome_iff_eq_none, ← Assoc.mem_keys_iff_find?]
          exact hk
        rw [if_pos rfl, hmiss]
        exact Assoc.find?_insert_self ..
      · rw [if_neg hkey]
        cases Assoc.find? name rest with
        | some l' => rfl
        | none => exact (Assoc.find?_insert ..).trans (if_neg hkey)

theorem current_foldl_addProfile (profiles : Assoc Text (Layout Ratio)) (start : Screen) :
    (profiles.foldl (fun u entry => u.addProfile entry.1 (Profile.ofLayout entry.2))
      start).current = start.current := by
  induction profiles generalizing start with
  | nil => rfl
  | cons entry rest ih => exact ih (start.addProfile entry.1 (Profile.ofLayout entry.2))

theorem find?_ofProfiles (h : profiles.keys.Nodup) (hs : ofProfiles profiles name = .ok s)
    (other : Text) :
    s.profiles.find? other =
      match profiles.find? other with
      | some l => some ((Profile.ofLayout l).setViewport initial.viewport)
      | none => initial.profiles.find? other := by
  have hfind := find?_foldl_addProfile h initial other
  unfold ofProfiles at hs
  split at hs
  · rw [← Except.ok.inj hs]
    exact hfind
  · rw [(eq_of_showing hs).2]
    exact hfind

theorem current_ofProfiles (hs : ofProfiles profiles name = .ok s) : s.current = name := by
  unfold ofProfiles at hs
  split at hs
  · next hsmall =>
      rw [← Except.ok.inj hs, current_foldl_addProfile, hsmall]
      rfl
  · rw [(eq_of_showing hs).2]

/-- A new screen is refused exactly when there is no profile to start with. -/
theorem ofProfiles_eq_error_iff (h : profiles.keys.Nodup) {r : Refusal} :
    ofProfiles profiles name = .error r ↔
      r = .noProfile name ∧ name ∉ builtin ∧ name ∉ profiles.keys := by
  have hfind := find?_foldl_addProfile h initial name
  have hinitial : (initial.profiles.find? name).isSome ↔ name ∈ builtin :=
    (Assoc.mem_keys_iff_find? _ _).symm
  unfold ofProfiles
  generalize profiles.foldl (fun u entry => u.addProfile entry.1 (Profile.ofLayout entry.2))
    initial = u at hfind ⊢
  have hthere : u.profiles.contains name = true ↔ name ∈ builtin ∨ name ∈ profiles.keys := by
    rw [Assoc.contains, hfind, Assoc.mem_keys_iff_find?]
    cases profiles.find? name with
    | some l => simp
    | none => simpa using hinitial
  by_cases hsmall : name = smallName
  · have hbuiltin : name ∈ builtin := hsmall ▸ List.mem_cons_self
    rw [if_pos hsmall]
    exact iff_of_false (by simp) fun h => h.2.1 hbuiltin
  · rw [if_neg hsmall, showing]
    split
    · next hregistered =>
        exact iff_of_false (by simp) fun h => not_or.mpr h.2 (hthere.mp hregistered)
    · next hregistered =>
        rw [Except.error.injEq, eq_comm, and_iff_left]
        exact not_or.mp fun h => hregistered (hthere.mpr h)

theorem ofProfiles_of_not_mem (h : profiles.keys.Nodup) (hname : name ∉ profiles.keys)
    (hbuiltin : name ∉ builtin) : ofProfiles profiles name = .error (.noProfile name) :=
  (ofProfiles_eq_error_iff h).mpr ⟨rfl, hbuiltin, hname⟩

theorem exists_ofProfiles (h : profiles.keys.Nodup)
    (hname : name ∈ profiles.keys ∨ name ∈ builtin) :
    ∃ t, ofProfiles profiles name = .ok t ∧ ∀ other l, profiles.find? other = some l →
      t.profiles.find? other = some ((Profile.ofLayout l).setViewport initial.viewport) := by
  cases ht : ofProfiles profiles name with
  | error r =>
      obtain ⟨-, hbuiltin, hprofiles⟩ := (ofProfiles_eq_error_iff h).mp ht
      exact absurd hname (not_or.mpr ⟨hprofiles, hbuiltin⟩)
  | ok t =>
      refine ⟨t, rfl, fun other l hl => ?_⟩
      rw [find?_ofProfiles h ht, hl]

theorem checkLiterals_literal (profiles : Assoc Text (Layout Ratio)) :
    checkLiterals (profiles.map fun entry => (entry.1, entry.2.literal)) = .ok profiles := by
  induction profiles with
  | nil => rfl
  | cons entry rest ih =>
      rw [List.map_cons, checkLiterals, Layout.check_literal, ih]
      rfl

theorem ofLiterals_literal (profiles : Assoc Text (Layout Ratio)) (name : Text) :
    ofLiterals (profiles.map fun entry => (entry.1, entry.2.literal)) name =
      (ofProfiles profiles name).mapError .refused := by
  rw [ofLiterals, checkLiterals_literal]
  rfl

end Screen

/-- A profile that is made anew from the layout of another is the same but for its ids. -/
theorem Profile.Valid.toLayout_ofLayout {p : Profile} (hp : p.Valid) (viewport : Rect) :
    ((ofLayout p.toLayout).setViewport viewport).toLayout = p.toLayout ∧
      ∀ area, (((ofLayout p.toLayout).setViewport viewport).flatten area).map Tile.face =
        (p.flatten area).map Tile.face := by
  obtain ⟨t, ht⟩ := hp.exists_holds
  have hlayout : ((ofLayout p.toLayout).setViewport viewport).toLayout = p.toLayout :=
    toLayout_ofLayout_toLayout ht hp.focused_mem defaultViewport
  refine ⟨hlayout, fun area => ?_⟩
  calc (((ofLayout p.toLayout).setViewport viewport).flatten area).map Tile.face
      = ((ofLayout p.toLayout).setViewport viewport).toLayout.faces area :=
        map_face_flatten (Arena.holds_ofLayout p.toLayout) area
    _ = p.toLayout.faces area := by rw [hlayout]
    _ = (p.flatten area).map Tile.face := (map_face_flatten ht area).symm

namespace Startup

variable {c : Config Ratio} {doc : Document} {previous : Assoc Text (Layout Ratio)}
  {found : Assoc Text Value} {profile asked : Option Text} {start s : Screen}

theorem saved_restoring (c : Config Ratio) (doc : Document) :
    saved { c with restoreLayouts := true } (some doc) = Store.load doc := rfl

/-- A screen that was started and used and then saved comes back after a restart: with the same
settings and the store, the start succeeds for every profile to start with that is there, and every
profile has the layout in which it was left. -/
theorem restart_restores (hprofiles : c.profiles.keys.Nodup)
    (hstart : screen c previous profile = .ok start) (hrun : start.Leads s)
    (hviews : Store.Storable s) (hfound : (Store.entries doc).outcome = .ok found)
    (hdoc : doc ≠ .directory) (hjson : Json.ReadsBack (.table (Store.withScreen found s)))
    (hasked : chosen c asked ∈ s.profiles.keys) :
    (Store.saveScreen doc s).1.outcome = .ok () ∧
      ∃ restored t,
        (saved { c with restoreLayouts := true } (some (Store.saveScreen doc s).2)).outcome =
          .ok restored ∧
        screen { c with restoreLayouts := true } restored asked = .ok t ∧
        ∀ name p, s.profiles.find? name = some p → ∃ q, t.profiles.find? name = some q ∧
          q.toLayout = p.toLayout ∧
          ∀ area, (q.flatten area).map Tile.face = (p.flatten area).map Tile.face := by
  have hs : s.Valid := hrun.valid (Screen.valid_ofProfiles hstart)
  obtain ⟨hsaved, -, -, restored, hload, hnodup, hrestored⟩ :=
    Store.saveScreen_load hs hviews hfound hdoc hjson
  -- What is restored takes the place of what the settings have under the same name.
  have hsettings := Assoc.nodup_keys_insertAll hprofiles restored
  have hlayout : ∀ name p, s.profiles.find? name = some p →
      (c.profiles.insertAll restored).find? name = some p.toLayout := by
    intro name p hp
    rw [Assoc.find?_insertAll hnodup, hrestored, hp]
    rfl
  have hchosen : chosen c asked ∈ (c.profiles.insertAll restored).keys := by
    obtain ⟨p, hp⟩ := Option.isSome_iff_exists.mp ((Assoc.mem_keys_iff_find? _ _).mp hasked)
    rw [Assoc.mem_keys_iff_find?, hlayout _ p hp]
    rfl
  obtain ⟨t, ht, hfind⟩ := Screen.exists_ofProfiles hsettings (Or.inl hchosen)
  refine ⟨hsaved, restored, t, (saved_restoring c _) ▸ hload, ht, fun name p hp => ?_⟩
  exact ⟨_, hfind name _ (hlayout name p hp), (hs.profile hp).toLayout_ofLayout _⟩

theorem restart_restores_large :
    let start : Screen := { Screen.initial with current := Screen.largeName }
    let s := (start.act (.splitFocused .vertical Ratio.even.toValue)).2
    screen .default [] (some Screen.largeName) = .ok start ∧
      (Store.saveScreen .missing s).1.outcome = .ok () ∧
      ∃ restored t q,
        (saved .default (some (Store.saveScreen .missing s).2)).outcome = .ok restored ∧
        screen .default restored none = .ok t ∧
        t.profiles.find? Screen.largeName = some q ∧
        q.toLayout.views = [.kind .source, .kind .terminal, .kind .terminal, .kind .trace,
          .kind .vars] := by
  intro start s
  have hstart : screen .default [] (some Screen.largeName) = .ok start := rfl
  have hrun : start.Leads s := Screen.Leads.refl.answered nofun (by decide)
  have hfound : (Store.entries .missing).outcome = .ok [] := rfl
  have hplain : (Value.table (Store.withScreen [] s)).Plain :=
    Value.plain_of_isPlain (by decide +kernel)
  have hasked : chosen (.default : Config Ratio) none ∈ s.profiles.keys := by decide
  obtain ⟨hsaved, restored, t, hload, ht, hprofiles⟩ := restart_restores (by decide) hstart hrun
    (by decide) hfound nofun hplain.readsBack hasked
  obtain ⟨p, hp⟩ : ∃ p, s.profiles.find? Screen.largeName = some p :=
    Option.isSome_iff_exists.mp (by decide)
  obtain ⟨q, hq, hlayout, -⟩ := hprofiles Screen.largeName p hp
  have hviews : (s.profiles.find? Screen.largeName).map (fun p => p.toLayout.views) =
      some [.kind .source, .kind .terminal, .kind .terminal, .kind .trace, .kind .vars] := by
    decide
  rw [hp] at hviews
  exact ⟨hstart, hsaved, restored, t, q, hload, ht, hq, hlayout ▸ Option.some.inj hviews⟩

/-- A name that is asked for may be empty: the profile of that name was saved, but the default one
is meant, which is not there. -/
theorem restart_unnamed :
    let c : Config Ratio := ⟨"nope", false, true, [("", Layout.small)]⟩
    let s := Screen.initial.addProfile "" (Profile.ofLayout Layout.small)
    screen c [] (some Screen.smallName) = .ok s ∧ Store.Storable s ∧ ("" : Text) ∈ s.profiles.keys ∧
      (Store.saveScreen .missing s).1.outcome = .ok () ∧
      ∃ restored, (saved c (some (Store.saveScreen .missing s).2)).outcome = .ok restored ∧
        ("" : Text) ∈ restored.keys ∧ screen c restored (some "") = .error (.noProfile "nope") := by
  intro c s
  have hstart : screen c [] (some Screen.smallName) = .ok s := rfl
  have hviews : Store.Storable s := by decide
  have hnamed : ("" : Text) ∈ s.profiles.keys := by decide
  have hfound : (Store.entries .missing).outcome = .ok [] := rfl
  have hplain : (Value.table (Store.withScreen [] s)).Plain :=
    Value.plain_of_isPlain (by decide +kernel)
  obtain ⟨hsaved, -, -, restored, hload, hnodup, hrestored⟩ :=
    Store.saveScreen_load (Screen.valid_ofProfiles hstart) hviews hfound nofun hplain.readsBack
  have hmiss : s.profiles.find? ("nope" : Text) = none :=
    Option.isNone_iff_eq_none.mp (by decide)
  refine ⟨hstart, hviews, hnamed, hsaved, restored,
    (congrArg Access.outcome (saved_restoring c _)).trans hload, ?_, ?_⟩
  · obtain ⟨p, hp⟩ := Option.isSome_iff_exists.mp ((Assoc.mem_keys_iff_find? _ _).mp hnamed)
    rw [Assoc.mem_keys_iff_find?, hrestored, hp]
    rfl
  · have hnope : ("nope" : Text) ∉ (c.profiles.insertAll restored).keys := by
      rw [Assoc.mem_keys_iff_find?, Assoc.find?_insertAll hnodup, hrestored, hmiss]
      decide
    exact Screen.ofProfiles_of_not_mem (Assoc.nodup_keys_insertAll (by decide) restored) hnope
      (by decide)

end Startup

end SplitScreen
