import SplitScreen.Proofs.Config
import SplitScreen.Proofs.Faithful
import SplitScreen.Proofs.Program
import SplitScreen.Proofs.Restart
import SplitScreen.Proofs.Screen.Views

/-!
What is left in the store by a session in which nothing is done. Such a session saves the layouts
that it starts with. They are the saved ones, or those that the settings and the program had
already given to the session before, so the store stays as it is, down to the order of its entries
and to the entries that are no layouts. Main statement: `idle_keeps_store`, for any number of such
sessions.
-/

namespace SplitScreen

namespace Screen

theorem layouts_resize (s : Screen) (area : Rect) : (s.resize area).layouts = s.layouts := by
  rw [resize, layouts, layouts, List.map_map]
  rfl

end Screen

theorem FrontEnd.layouts_refresh (f : FrontEnd) :
    f.refresh.2.screen.layouts = f.screen.layouts := by
  rw [screen_refresh]
  split
  · rfl
  · exact Screen.layouts_resize _ _

theorem Session.layouts_start_quit (s : Screen) (origin : Point) (width height : Int)
    (rest : List Input) :
    (start s origin width height (.event (.key "q") :: rest)).last.screen.layouts = s.layouts := by
  have hmount : (FrontEnd.ofScreen s origin width height).mount.2.screen.layouts = s.layouts :=
    (FrontEnd.ofScreen s origin width height).layouts_refresh
  unfold start
  split
  · next hon =>
      rw [hon] at hmount
      exact hmount
  · next hon =>
      rw [hon] at hmount
      unfold proceed
      rw [FrontEnd.handle_quit]
      exact hmount

namespace Store

variable {doc : Document} {found : Assoc Text Value} {s t : Screen}

theorem saveScreen_congr (h : s.layouts = t.layouts) (doc : Document) :
    saveScreen doc s = saveScreen doc t := by
  rw [saveScreen, saveScreen, h]

theorem storable_of_load {layouts : Assoc Text (Layout Ratio)}
    (h : (load doc).outcome = .ok layouts) {entry : Text × Layout Ratio}
    (hentry : entry ∈ layouts) :
    ∀ view ∈ entry.2.views, view.Storable := by
  rw [load, Access.outcome_bind] at h
  obtain ⟨found, -, h⟩ := exists_of_bind h
  obtain ⟨-, rfl⟩ := Access.outcome_warned_eq_ok_iff.mp h
  obtain ⟨v, -, hread⟩ := Warning.exists_of_mem_readEach hentry
  exact Layout.storable_of_ofValue (mapError_eq_ok_iff.mp hread)

theorem storable_of_allViews (hs : s.Valid) (hviews : s.AllViews View.Storable) : Storable s := by
  intro entry hentry
  have hp : s.profiles.find? entry.1 = some entry.2 := Assoc.find?_of_mem hs.nodup hentry
  obtain ⟨tree, htree⟩ := (hs.profile hp).exists_holds
  intro v hv
  rw [Profile.views_toLayout htree] at hv
  obtain ⟨pane, hpane, rfl⟩ := List.mem_map.mp hv
  exact hviews _ _ hp pane hpane

end Store

namespace Startup

variable {c : Config Ratio} {doc : Document} {profile asked : Option Text}
  {found : Assoc Text Value} {start s t : Screen}

theorem Opens.exists_load (h : Opens c doc profile s) (hrestore : c.restoreLayouts = true) :
    ∃ layouts, (Store.load doc).outcome = .ok layouts ∧ screen c layouts profile = .ok s := by
  obtain ⟨layouts, hsaved, hscreen⟩ := h
  rw [saved, if_pos hrestore] at hsaved
  exact ⟨layouts, hsaved, hscreen⟩

theorem Opens.valid (h : Opens c doc profile s) : s.Valid := by
  obtain ⟨layouts, -, hscreen⟩ := h
  exact Screen.valid_ofProfiles hscreen

theorem Opens.allViews (h : Opens c doc profile s) (hc : c.Sound)
    (hrestore : c.restoreLayouts = true) :
    s.AllViews View.Storable := by
  obtain ⟨layouts, hload, hscreen⟩ := h.exists_load hrestore
  apply Screen.allViews_ofProfiles (P := View.Storable) hscreen
  · exact fun _ => trivial
  · intro entry hentry
    rcases Assoc.mem_of_mem_insertAll hentry with hentry | hentry
    · exact Store.storable_of_load hload hentry
    · exact hc.storable hentry

/-- A screen that is opened has the profiles that are saved, over them those of the settings, and
the built-in ones. -/
theorem Opens.find?_profiles (h : Opens c doc profile s) (hc : c.profiles.keys.Nodup)
    (hrestore : c.restoreLayouts = true) (hfound : (Store.entries doc).outcome = .ok found)
    (name : Text) :
    s.profiles.find? name =
      match ((found.find? name).bind fun v => (Layout.ofValue v).toOption).or
          (c.profiles.find? name) with
      | some l => some ((Profile.ofLayout l).setViewport Screen.initial.viewport)
      | none => Screen.initial.profiles.find? name := by
  obtain ⟨layouts, hload, hscreen⟩ := h.exists_load hrestore
  obtain ⟨layouts', hload', hnodup, hfind⟩ :=
    Store.find?_load hfound (Store.nodup_keys_of_entries hfound)
  obtain rfl : layouts = layouts' := Except.ok.inj (hload.symm.trans hload')
  rw [← hfind, ← Assoc.find?_insertAll hnodup]
  exact Screen.find?_ofProfiles (Assoc.nodup_keys_insertAll hc layouts) hscreen name

/-- Layouts that were saved, and are started with again, are in the store as they are. -/
theorem withScreen_reopened (hc : c.profiles.keys.Nodup) (hrestore : c.restoreLayouts = true)
    (hstart : Opens c doc profile start) (hfound : (Store.entries doc).outcome = .ok found)
    (hrun : start.Becomes s) (hs : s.Valid) (hviews : Store.Storable s) {doc' : Document}
    (hsaved : (Store.entries doc').outcome = .ok (Store.withScreen found s))
    (ht : Opens c doc' asked t) :
    Store.withScreen (Store.withScreen found s) t = Store.withScreen found s := by
  apply Assoc.insertAll_eq_self
  intro entry hentry
  have hnodup : (Store.entriesOf t).keys.Nodup := Store.keys_entriesOf t ▸ ht.valid.nodup
  have hfind := Assoc.find?_of_mem hnodup hentry
  rw [Store.find?_entriesOf] at hfind
  obtain ⟨q, hq, hentry⟩ := Option.map_eq_some_iff.mp hfind
  have hreopened := ht.find?_profiles hc hrestore hsaved entry.1
  rw [hq, Store.find?_withScreen hs.nodup] at hreopened
  rw [Store.find?_withScreen hs.nodup, ← hentry]
  cases hp : s.profiles.find? entry.1 with
  | some p =>
      -- The profile is made anew from what the session before left of it.
      have hread := Layout.ofValue_toValue_of_storable (hviews _ (Assoc.mem_of_find? hp))
      simp only [hp, Option.bind_some, hread, Except.toOption, Option.some_or] at hreopened
      rw [Option.some.inj hreopened, ((hs.profile hp).toLayout_ofLayout _).1]
  | none =>
      -- A name that the session before did not have was not there when it started.
      obtain ⟨calls, -, hcalls⟩ := hrun.exists_calls entry.1
      rw [hp, eq_comm, Option.map_eq_none_iff, hstart.find?_profiles hc hrestore hfound] at hcalls
      simp only [hp] at hreopened
      rw [hcalls] at hreopened
      cases hreopened

end Startup

namespace Program

variable {sur : Surroundings} {args : List Text} {g : General} {files : Files} {c : Config Ratio}
  {start : Screen} {found : Assoc Text Value}

/-- A run of the front end that is quit at once. -/
structure IsIdle (sur : Surroundings) (args : List Text) : Prop where
  quits : ∃ rest, sur.inputs = .event (.key "q") :: rest
  asks : ∃ g, AsksForFrontEnd args g

def filesAfter (files : Files) (runs : List (Surroundings × List Text)) : Files :=
  runs.foldl (fun files run => (execute run.1 files run.2).2.files) files

theorem files_execute_of_opens (hargs : AsksForFrontEnd args g)
    (hload : (Config.load files.config sur.env).outcome = .ok c)
    (hrestore : c.restoreLayouts = true)
    (hopen : Startup.Opens c files.store g.profile start) :
    (execute sur files args).2.files =
      { files with
        store := (Store.saveScreen files.store
          (Session.start start sur.origin sur.width sur.height sur.inputs).last.screen).2 } := by
  have hfiles := leavesFiles_loadConfig sur (Trace.start files)
  rw [files_execute_frontEnd hargs hload, files_runFrontEnd_of_opens (s := start), hfiles]
  · rfl
  · exact hrestore
  · rw [hfiles]
    exact hopen

theorem files_execute_of_not_opens (hargs : AsksForFrontEnd args g)
    (hload : (Config.load files.config sur.env).outcome = .ok c)
    (hopen : ∀ s, ¬ Startup.Opens c files.store g.profile s) :
    (execute sur files args).2.files = files := by
  have hfiles := leavesFiles_loadConfig sur (Trace.start files)
  rw [files_execute_frontEnd hargs hload, files_runFrontEnd_of_not_opens, hfiles]
  · rfl
  · rw [hfiles]
    exact hopen

/-- Where every screen that opens is saved as it is, an idle run changes nothing. -/
theorem files_execute_idle (hidle : IsIdle sur args)
    (hload : (Config.load files.config sur.env).outcome = .ok c)
    (hrestore : c.restoreLayouts = true)
    (hsteady : ∀ asked t, Startup.Opens c files.store asked t →
      (Store.saveScreen files.store t).2 = files.store) :
    (execute sur files args).2.files = files := by
  obtain ⟨⟨rest, hinputs⟩, g, hargs⟩ := hidle
  by_cases hopen : ∃ t, Startup.Opens c files.store g.profile t
  · obtain ⟨t, ht⟩ := hopen
    have hlayouts := Session.layouts_start_quit t sur.origin sur.width sur.height rest
    rw [files_execute_of_opens hargs hload hrestore ht, hinputs, Store.saveScreen_congr hlayouts,
      hsteady _ t ht]
  · exact files_execute_of_not_opens hargs hload (not_exists.mp hopen)

theorem filesAfter_idle {runs : List (Surroundings × List Text)}
    (hload : (Config.load files.config sur.env).outcome = .ok c)
    (hrestore : c.restoreLayouts = true)
    (hsteady : ∀ asked t, Startup.Opens c files.store asked t →
      (Store.saveScreen files.store t).2 = files.store)
    (hruns : ∀ run ∈ runs, run.1.env = sur.env ∧ IsIdle run.1 run.2) :
    filesAfter files runs = files := by
  induction runs with
  | nil => rfl
  | cons run runs ih =>
      obtain ⟨⟨henv, hidle⟩, hruns⟩ := List.forall_mem_cons.mp hruns
      have hrun : (execute run.1 files run.2).2.files = files :=
        files_execute_idle hidle (henv ▸ hload) hrestore hsteady
      rw [filesAfter, List.foldl_cons, hrun]
      exact ih hruns

/-- After a session that was quit, with whatever was done in it, any number of idle runs with the
same settings leave the files as they are. -/
theorem idle_keeps_store (hargs : AsksForFrontEnd args g)
    (hload : (Config.load files.config sur.env).outcome = .ok c)
    (hrestore : c.restoreLayouts = true)
    (hopen : Startup.Opens c files.store g.profile start)
    (hquit : (Session.start start sur.origin sur.width sur.height sur.inputs).fault = none)
    (hdoc : files.store ≠ .directory) (hfound : (Store.entries files.store).outcome = .ok found)
    (hjson : Json.ReadsBack (.table (Store.withScreen found
      (Session.start start sur.origin sur.width sur.height sur.inputs).last.screen))) :
    ∃ text, (execute sur files args).2.files = { files with store := .text text } ∧
      ∀ runs : List (Surroundings × List Text),
        (∀ run ∈ runs, run.1.env = sur.env ∧ IsIdle run.1 run.2) →
          filesAfter { files with store := .text text } runs =
            { files with store := .text text } := by
  generalize hsession :
    Session.start start sur.origin sur.width sur.height sur.inputs = session at *
  have hc := Config.sound_of_load hload
  have hrun : start.Becomes session.last.screen := by
    rw [← hsession]
    exact Session.becomes_last _ _ _ _ _
  have hs : session.last.screen.Valid := by
    obtain ⟨layouts, -, hscreen⟩ := id hopen
    have hliterals := (Screen.ofLiterals_literal _ _).trans (mapError_eq_ok_iff.mpr hscreen)
    subst hsession
    have hfaithful := Session.faithful_of_valid (Screen.valid_ofLiterals hliterals)
      (Screen.pending_ofLiterals hliterals) sur.origin sur.width sur.height sur.inputs
    exact (hfaithful.last hquit).2
  have hviews : Store.Storable session.last.screen :=
    Store.storable_of_allViews hs (hrun.allViews hopen.valid (fun _ => trivial)
      (hopen.allViews hc hrestore))
  obtain ⟨-, htext⟩ := Store.saveScreen_eq hfound hdoc hjson
  have hentries := Store.entries_text hjson.2
  refine ⟨_, by rw [files_execute_of_opens hargs hload hrestore hopen, hsession, htext], ?_⟩
  intro runs hruns
  refine filesAfter_idle (c := c) ?_ hrestore ?_ hruns
  · exact hload
  intro asked t ht
  have hsame :=
    Startup.withScreen_reopened hc.nodup hrestore hopen hfound hrun hs hviews hentries ht
  rw [(Store.saveScreen_eq hentries nofun (hsame.symm ▸ hjson)).2, hsame]

/-- A pane is split over a store with an entry that is no layout; the runs after it are of other
sizes, and one of them asks for another profile. -/
theorem idle_keeps_store_split :
    let sur : Surroundings :=
      ⟨.empty, "config.toml", 80, ⟨0, 1⟩, 80, 22, [.event (.key "|"), .event (.key "q")]⟩
    let idle (width : Int) : Surroundings :=
      { sur with width := width, inputs := [.event (.key "q")] }
    let files : Files := ⟨.missing, .text (Json.write (.table [("old", .int 5)])).text⟩
    ∃ text, (execute sur files []).2.files = { files with store := .text text } ∧
      filesAfter { files with store := .text text }
          [(idle 7, ["-p", "large"]), (idle 0, []), (idle 300, [])] =
        { files with store := .text text } := by
  intro sur idle files
  have hold : (Value.table [("old", .int 5)]).Plain := Value.plain_of_isPlain (by decide +kernel)
  have hfound : (Store.entries files.store).outcome = .ok [("old", .int 5)] :=
    Store.entries_text hold.readsBack.2
  have hread : (Warning.readEach Store.readSaved [("old", .int 5)]).1 = [] := by
    simp [Warning.readEach, Store.readSaved, Layout.ofValue, mapError_error]
  have hopen : Startup.Opens .default files.store none Screen.initial := by
    refine ⟨[], ?_, rfl⟩
    have hsaved : Startup.saved .default (some files.store) = Store.load files.store := rfl
    rw [hsaved, Store.outcome_load hfound, hread]
  have hquit : (Session.start Screen.initial sur.origin sur.width sur.height sur.inputs).fault =
      none := Option.isNone_iff_eq_none.mp (by decide)
  have hplain : (Value.table (Store.withScreen [("old", .int 5)] (Session.start Screen.initial
      sur.origin sur.width sur.height sur.inputs).last.screen)).Plain :=
    Value.plain_of_isPlain (by decide +kernel)
  have hargs : AsksForFrontEnd [] General.unset := ⟨by decide +kernel, rfl⟩
  have hload : (Config.load files.config sur.env).outcome = .ok .default := rfl
  have hdoc : files.store ≠ .directory := by simp [files]
  obtain ⟨text, htext, hidle⟩ :=
    idle_keeps_store hargs hload rfl hopen hquit hdoc hfound hplain.readsBack
  have hquits (width : Int) : IsIdle (idle width) [] := ⟨⟨[], rfl⟩, _, hargs⟩
  have hlarge : IsIdle (idle 7) ["-p", "large"] :=
    ⟨⟨[], rfl⟩, { General.unset with profile := some "large" }, by decide +kernel, rfl⟩
  refine ⟨text, htext, hidle _ ?_⟩
  simp only [List.forall_mem_cons]
  exact ⟨⟨rfl, hlarge⟩, ⟨rfl, hquits 0⟩, ⟨rfl, hquits 300⟩, by simp⟩

end Program

end SplitScreen
