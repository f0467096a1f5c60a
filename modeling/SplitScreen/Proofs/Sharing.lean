import SplitScreen.Proofs.Store
import SplitScreen.Session
import SplitScreen.Store

namespace SplitScreen

namespace Store

variable {c : Config Ratio} {previous : Assoc Text (Layout Ratio)} {profile profile' : Option Text}
  {start start' s t : Screen} {doc : Document} {found : Assoc Text Value}

/-- After two screens are saved, the store loads the layouts of the later one, then those of the
earlier one, then what it held before. -/
theorem saveScreen_saveScreen_load (hs : s.Valid) (ht : t.Valid) (hviews : Storable s)
    (hviews' : Storable t) (hfound : (entries doc).outcome = .ok found) (hdoc : doc ≠ .directory)
    (hjson : Json.ReadsBack (.table (withScreen found s)))
    (hjson' : Json.ReadsBack (.table (withScreen (withScreen found s) t))) :
    ∃ saved, (load (saveScreen (saveScreen doc s).2 t).2).outcome = .ok saved ∧
      ∀ name, saved.find? name =
        (((t.profiles.find? name).or (s.profiles.find? name)).map Profile.toLayout).or
          ((found.find? name).bind fun v => (Layout.ofValue v).toOption) := by
  obtain ⟨-, hdoc', hentries, -⟩ := saveScreen_load hs hviews hfound hdoc hjson
  obtain ⟨-, -, -, saved, hload, -, hsaved⟩ := saveScreen_load ht hviews' hentries hdoc' hjson'
  refine ⟨saved, hload, fun name => ?_⟩
  rw [hsaved, find?_withScreen hs.nodup]
  cases t.profiles.find? name with
  | some q => rfl
  | none =>
      cases hp : s.profiles.find? name with
      | some p =>
          have hstored := Layout.ofValue_toValue_of_storable (hviews _ (Assoc.mem_of_find? hp))
          exact congrArg Except.toOption hstored
      | none => rfl

/-- Two runs are started with the same settings and one after the other saved. Then the store loads
every profile of the later one as that one left it, and every other profile of the earlier one as
the earlier one left it. -/
theorem later_save_wins (hstart : Startup.screen c previous profile = .ok start)
    (hrun : start.Leads s) (hstart' : Startup.screen c previous profile' = .ok start')
    (hrun' : start'.Leads t) (hviews : Storable s) (hviews' : Storable t)
    (hfound : (entries doc).outcome = .ok found) (hdoc : doc ≠ .directory)
    (hjson : Json.ReadsBack (.table (withScreen found s)))
    (hjson' : Json.ReadsBack (.table (withScreen (withScreen found s) t))) :
    ∃ saved, (load (saveScreen (saveScreen doc s).2 t).2).outcome = .ok saved ∧
      (∀ name q, t.profiles.find? name = some q → saved.find? name = some q.toLayout) ∧
      ∀ name p, t.profiles.find? name = none → s.profiles.find? name = some p →
        saved.find? name = some p.toLayout := by
  have hs : s.Valid := hrun.valid (Screen.valid_ofProfiles hstart)
  have ht : t.Valid := hrun'.valid (Screen.valid_ofProfiles hstart')
  obtain ⟨saved, hload, hsaved⟩ :=
    saveScreen_saveScreen_load hs ht hviews hviews' hfound hdoc hjson hjson'
  refine ⟨saved, hload, fun name q hq => ?_, fun name p hq hp => ?_⟩
  · rw [hsaved, hq]
    rfl
  · rw [hsaved, hq, hp]
    rfl

/-- The earlier run registers a profile of its own, which stays, and splits it. The later one leaves
the small profile as it was. -/
theorem later_save_wins_notes :
    let s := (((Screen.initial.act (.addProfile "notes" Layout.small.literal
      Profile.defaultViewport)).2.act (.switchTo "notes")).2.act
        (.splitFocused .horizontal Ratio.even.toValue)).2
    let t := (Screen.initial.act (.switchTo Screen.largeName)).2
    Startup.screen .default [] none = .ok Screen.initial ∧ Screen.initial.Leads s ∧
      Screen.initial.Leads t ∧
      ∃ saved, (load (saveScreen (saveScreen .missing s).2 t).2).outcome = .ok saved ∧
        saved.find? Screen.smallName = some Layout.small ∧
        (saved.find? ("notes" : Text)).map Layout.paneCount = some 2 := by
  intro s t
  have hstart : Startup.screen .default [] none = .ok Screen.initial := rfl
  have hrun : Screen.initial.Leads s := by
    have hnotes := Screen.Leads.refl.answered (a := .addProfile "notes" Layout.small.literal
      Profile.defaultViewport) (s := Screen.initial) (by rintro _ ⟨⟩) (by decide)
    have hshown := hnotes.answered (a := .switchTo "notes") (by rintro _ ⟨⟩) (by decide)
    exact hshown.answered nofun (by decide)
  have hrun' : Screen.initial.Leads t :=
    Screen.Leads.refl.answered (by rintro _ ⟨⟩) (by decide)
  have hfound : (entries .missing).outcome = .ok [] := rfl
  obtain ⟨hplain, hplain', hviews, hviews', hsmall, hnotes, hunset⟩ :
      (Value.table (withScreen [] s)).isPlain = true ∧
      (Value.table (withScreen (withScreen [] s) t)).isPlain = true ∧ Storable s ∧ Storable t ∧
      (t.profiles.find? Screen.smallName).map Profile.toLayout = some Layout.small ∧
      (s.profiles.find? ("notes" : Text)).map (fun p => p.toLayout.paneCount) = some 2 ∧
      (t.profiles.find? ("notes" : Text)).isNone = true := by
    decide +kernel
  obtain ⟨saved, hload, hlater, hearlier⟩ := later_save_wins hstart hrun hstart hrun' hviews hviews'
    hfound nofun (Value.plain_of_isPlain hplain).readsBack (Value.plain_of_isPlain hplain').readsBack
  refine ⟨hstart, hrun, hrun', saved, hload, ?_, ?_⟩
  · obtain ⟨q, hq, hlayout⟩ := Option.map_eq_some_iff.mp hsmall
    rw [hlater _ q hq, hlayout]
  · obtain ⟨p, hp, hcount⟩ := Option.map_eq_some_iff.mp hnotes
    rw [hearlier _ p (Option.isNone_iff_eq_none.mp hunset) hp, Option.map_some, hcount]

/-- From a missing store, one run splits the small profile, another one the large profile. When the
other one saves last, the small profile is loaded as it was before. -/
theorem late_save_loses :
    let s := (Session.start Screen.initial ⟨0, 1⟩ 80 22 [.event (.key "|"), .event (.key "q")]).last
    let t := (Session.start Screen.initial ⟨0, 1⟩ 80 22
      [.event (.key "2"), .event (.key "|"), .event (.key "q")]).last
    Startup.saved .default (some .missing) = pure [] ∧
      Startup.screen .default [] none = .ok Screen.initial ∧
      s.screen.layouts.find? Screen.largeName = some Layout.large ∧
      t.screen.layouts.find? Screen.smallName = some Layout.small ∧
      s.screen.layouts.find? Screen.smallName ≠ some Layout.small ∧
      ∃ saved, (load (saveScreen (saveScreen .missing s.screen).2 t.screen).2).outcome =
          .ok saved ∧
        saved.find? Screen.smallName = some Layout.small := by
  intro s t
  have hstart : Startup.screen .default [] none = .ok Screen.initial := rfl
  obtain ⟨hs, ht, hplain, hplain', hviews, hviews', hlarge, hsmall, hsplit⟩ :
      s.screen = ((Screen.initial.act (.resize ⟨0, 0, 80, 22⟩)).2.act
        (.splitFocused .horizontal Ratio.even.toValue)).2 ∧
      t.screen = (((Screen.initial.act (.resize ⟨0, 0, 80, 22⟩)).2.act
        (.switchTo Screen.largeName)).2.act (.splitFocused .horizontal Ratio.even.toValue)).2 ∧
      (Value.table (withScreen [] s.screen)).isPlain = true ∧
      (Value.table (withScreen (withScreen [] s.screen) t.screen)).isPlain = true ∧
      Storable s.screen ∧ Storable t.screen ∧
      s.screen.layouts.find? Screen.largeName = some Layout.large ∧
      t.screen.layouts.find? Screen.smallName = some Layout.small ∧
      s.screen.layouts.find? Screen.smallName ≠ some Layout.small := by
    decide +kernel
  have hresized := Screen.Leads.refl.answered (a := .resize ⟨0, 0, 80, 22⟩) (s := Screen.initial)
    nofun (by decide)
  have hvalid : s.screen.Valid := by
    have hrun := hresized.answered (a := .splitFocused .horizontal Ratio.even.toValue) nofun
      (by decide)
    rw [hs]
    exact hrun.valid Screen.valid_initial
  have hvalid' : t.screen.Valid := by
    have hshown := hresized.answered (a := .switchTo Screen.largeName) (by rintro _ ⟨⟩)
      (by decide)
    have hrun := hshown.answered (a := .splitFocused .horizontal Ratio.even.toValue) nofun
      (by decide)
    rw [ht]
    exact hrun.valid Screen.valid_initial
  have hfound : (entries .missing).outcome = .ok [] := rfl
  obtain ⟨saved, hload, hsaved⟩ := saveScreen_saveScreen_load hvalid hvalid' hviews hviews' hfound
    nofun (Value.plain_of_isPlain hplain).readsBack (Value.plain_of_isPlain hplain').readsBack
  refine ⟨rfl, hstart, hlarge, hsmall, hsplit, saved, hload, ?_⟩
  rw [find?_layouts] at hsmall
  obtain ⟨q, hq, hlayout⟩ := Option.map_eq_some_iff.mp hsmall
  rw [hsaved, hq]
  exact congrArg some hlayout

end Store

end SplitScreen
