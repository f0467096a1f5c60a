import SplitScreen.Proofs.Precedence
import SplitScreen.Proofs.Settings

namespace SplitScreen

namespace Ending

theorem code_eq_zero_iff {r : Except Ending Unit} : code r = 0 ↔ r = .ok () := by
  cases r with
  | ok u => exact iff_of_true rfl rfl
  | error e => cases e <;> exact iff_of_false nofun nofun

end Ending

namespace Startup

variable {c : Config Ratio} {store : Document} {s : Screen}

theorem layoutFor_ne_none {name : Text} (hknown : Program.isKnown c name = true)
    (store : Option Document) : layoutFor c store name ≠ none := by
  intro hnone
  obtain ⟨hbuiltin, hprofiles, -⟩ := layoutFor_eq_none_iff.mp hnone
  rw [Assoc.mem_keys_iff_find?] at hprofiles
  rw [Program.isKnown, Bool.or_eq_true, List.contains_iff_mem] at hknown
  exact hknown.elim hbuiltin hprofiles

/-- With a default profile that is known a run starts from every store that can be read, and it
starts with that profile. -/
theorem opens_of_isKnown (hc : c.profiles.keys.Nodup)
    (hknown : Program.isKnown c c.defaultProfile = true) (store : Document) :
    ((∃ s, Opens c store none s) ↔ ¬ (consulted c (some store)).Unreadable Json.read) ∧
      ∀ s, Opens c store none s → s.current = c.defaultProfile := by
  rw [← exists_saved_iff]
  refine ⟨⟨?_, ?_⟩, ?_⟩
  · rintro ⟨s, layouts, hlayouts, -⟩
    exact ⟨layouts, hlayouts⟩
  · rintro ⟨layouts, hlayouts⟩
    cases hs : screen c layouts none with
    | ok s => exact ⟨s, layouts, hlayouts, hs⟩
    | error r =>
        have hnone := ((screen_eq_error_iff hc hlayouts).mp hs).2
        exact absurd hnone (layoutFor_ne_none hknown _)
  · rintro s ⟨layouts, -, hs⟩
    exact Screen.current_ofProfiles hs

end Startup

namespace Program

variable {sur : Surroundings} {files : Files} {args : List Text} {g : General} {changes : Changes}
  {c : Config Ratio} {name : Text}

/-- The changed configuration is read as it is, if it can be written. -/
def ReadsChanged (c : Config Ratio) (changes : Changes) : Prop :=
  (Toml.write (changed c changes).literal.toTable).fault = none →
    Toml.read (Toml.write (changed c changes).literal.toTable).text =
      .ok (changed c changes).literal.toTable

/-- A change breaks off after the file was opened for writing: a value has no form in the file, or
what was saved cannot be said. -/
def BreaksOff (sur : Surroundings) (new : Config Ratio) : Prop :=
  (Toml.write new.literal.toTable).fault ≠ none ∨
    ¬ ShowsDefault sur new.defaultProfile ∨ ¬ ShowsPath sur

theorem load_of_succeeds (hargs : AsksForChanges args g changes) (hchanges : changes ≠ .unset)
    (hread : ∀ c, (Config.load files.config sur.env).outcome = .ok c → ReadsChanged c changes)
    (hrun : (execute sur files args).1 = .ok ()) :
    ∃ c, KnowsDefault c changes ∧ (changed c changes).Sound ∧
      (execute sur files args).2.files.store = files.store ∧
      (Config.load (execute sur files args).2.files.config .empty).outcome =
        .ok (changed c changes) := by
  obtain ⟨t, rfl, hexecute⟩ := exists_execute_changes hargs hrun
  obtain ⟨c, hload, hknown⟩ := exists_of_changeSettings (hexecute ▸ hrun)
  have hsound := sound_changed (Config.sound_of_load hload) changes
  obtain ⟨c', hload', hsaved⟩ := files_execute_changes hargs hrun
  obtain rfl : c = c' := Except.ok.inj (hload.symm.trans hload')
  rw [if_neg hchanges] at hsaved
  have hwrite := (Config.of_save_eq_ok hsaved.1).2
  refine ⟨c, hknown hchanges, hsound, ?_, ?_⟩
  · rw [hsaved.2]
  · rw [config_execute_changes hargs hrun hchanges hload]
    exact Config.load_written hsound ⟨hwrite, hread c hload hwrite⟩ .empty

/-- A change that fails and does not leave the files as they are was of a known profile, and broke
off. -/
theorem breaksOff_of_files (hargs : AsksForChanges args g changes)
    (hrun : (execute sur files args).1 ≠ .ok ())
    (hfiles : (execute sur files args).2.files ≠ files) :
    ∃ c, (Config.load files.config sur.env).outcome = .ok c ∧ KnowsDefault c changes ∧
      BreaksOff sur (changed c changes) := by
  obtain ⟨t, rfl, hexecute⟩ := exists_execute_changes_of_files hargs hfiles
  rw [hexecute] at hrun hfiles
  obtain ⟨c, hload, hchanges, hknown⟩ := exists_of_files_changeSettings hfiles
  refine ⟨c, hload, hknown, ?_⟩
  have ht := leavesFiles_loadConfig sur t
  rw [on_changeSettings_of_known hload hchanges hknown] at hrun hfiles
  by_contra hgoes
  obtain ⟨hwrite, hname, hpath⟩ : (Toml.write (changed c changes).literal.toTable).fault = none ∧
      ShowsDefault sur (changed c changes).defaultProfile ∧ ShowsPath sur := by
    simpa only [BreaksOff, not_or, not_not] using hgoes
  have hdoc : t.files.config ≠ .directory := by
    intro hdoc
    rw [files_saveSettings, ht, hdoc, Config.save, if_pos (changed c changes).isWritable_literal,
      ← hdoc] at hfiles
    exact hfiles rfl
  refine hrun (fst_saveSettings ?_ hname hpath)
  rw [ht, Config.save_eq hdoc, Written.outcome, hwrite]

/-- A change of the default profile, whatever else is changed with it. If it succeeds, a run from the
files that it leaves starts from every store that can be read, and starts with that profile. If it
fails, the files are as they were, unless the profile is known and the change broke off. -/
theorem accepted_default_starts (hargs : AsksForChanges args g changes)
    (hname : changes.defaultProfile = some name) (henv : sur.env = .empty)
    (hread : ∀ c, (Config.load files.config .empty).outcome = .ok c → ReadsChanged c changes) :
    let run := execute sur files args
    (Ending.code run.1 = 0 → run.2.files.store = files.store ∧
      ∃ c, (Config.load run.2.files.config .empty).outcome = .ok c ∧
        ((∃ s, Startup.Opens c run.2.files.store none s) ↔
          ¬ (Startup.consulted c (some run.2.files.store)).Unreadable Json.read) ∧
        ∀ s, Startup.Opens c run.2.files.store none s → s.current = name) ∧
      (Ending.code run.1 = 1 → run.2.files = files ∨
        ∃ c, (Config.load files.config .empty).outcome = .ok c ∧ isKnown c name = true ∧
          BreaksOff sur (changed c changes)) := by
  intro run
  constructor
  · intro hcode
    have hchanges : changes ≠ .unset := by
      rintro rfl
      cases hname
    obtain ⟨c, hknown, hsound, hstore, hload⟩ := load_of_succeeds hargs hchanges
      (henv.symm ▸ hread) (Ending.code_eq_zero_iff.mp hcode)
    have hdefault : (changed c changes).defaultProfile = name := by
      rw [changed, hname, Option.getD_some]
    have hthere : isKnown (changed c changes) (changed c changes).defaultProfile = true :=
      hdefault.symm ▸ hknown name hname
    obtain ⟨hopens, hcurrent⟩ := Startup.opens_of_isKnown hsound.nodup hthere run.2.files.store
    exact ⟨hstore, _, hload, hopens, fun s hs => (hcurrent s hs).trans hdefault⟩
  · intro hcode
    by_cases hfiles : run.2.files = files
    · exact Or.inl hfiles
    · have hrun : run.1 ≠ .ok () := by
        intro hok
        rw [hok] at hcode
        cases hcode
      obtain ⟨c, hload, hknown, hbreaks⟩ := breaksOff_of_files hargs hrun hfiles
      exact Or.inr ⟨c, henv ▸ hload, hknown name hname, hbreaks⟩

def wideText : String := "[profiles.wide]\nview = \"trace\"\n"

def wideTable : Toml.Table := [("profiles", .table [("wide", .table [("view", .text "trace")])])]

def wideConfig : Config Ratio := ⟨"small", false, true, [("wide", .pane (.kind .trace) false)]⟩

def wideArgs : List Text := ["config", "--no-restore-layouts", "--default-profile", "wide"]

def wideChanges : Changes := ⟨some "wide", none, some false⟩

def wideWritten : String :=
  "default_profile = \"wide\"\ndebug_logging = false\nrestore_layouts = false\n\n" ++
    "[profiles.wide]\nview = \"trace\"\n"

theorem asksForChanges_wide : AsksForChanges wideArgs .unset wideChanges := by
  apply asksForChanges_of_scan
  rw [Switches.scan_option (by decide) (by decide) rfl,
    Switches.scan_option (by decide) (by decide) rfl, Switches.scan_nil]
  rfl

theorem load_tracePane {text : String} {name : Text} (hname : name ∉ Screen.builtin)
    (hread : Toml.read text =
      .ok [("profiles", .table [(name, .table [("view", .text "trace")])])]) :
    (Config.load (.text text) .empty).outcome =
      .ok ⟨"small", false, true, [(name, .pane (.kind .trace) false)]⟩ := by
  refine Config.load_profile hread ?_
  rw [Config.readProfile, if_neg hname, Layout.ofValue_pane rfl]
  rfl

theorem load_wideText : (Config.load (.text wideText) .empty).outcome = .ok wideConfig := by
  have hread : Toml.read wideText = .ok wideTable := (Toml.read_ofList _).trans rfl
  exact load_tracePane (by decide) hread

theorem readsBack_wideConfig : Toml.ReadsBack (changed wideConfig wideChanges).literal.toTable := by
  have hwrite : Toml.write (changed wideConfig wideChanges).literal.toTable = wideWritten := rfl
  have htext : wideWritten = _ := Toml.append_eq_ofList rfl rfl
  rw [Toml.ReadsBack, hwrite]
  refine ⟨rfl, ?_⟩
  rw [htext, Toml.read_ofList]
  rfl

theorem fst_execute_wide (store : Document) :
    (execute ordinary ⟨.text wideText, store⟩ wideArgs).1 = .ok () := by
  have hwide : Markup.IsPlain "wide" := Markup.isPlain_ofList (by decide) (by decide)
  have hpath : Markup.IsPlain "config.toml" := Markup.isPlain_ofList (by decide) (by decide)
  have hname : (changed wideConfig wideChanges).defaultProfile = (("wide" : String) : Text) := rfl
  have hknown : KnowsDefault wideConfig wideChanges := by
    rintro name ⟨⟩
    decide
  exact fst_execute_changes asksForChanges_wide rfl load_wideText nofun hknown nofun
    readsBack_wideConfig.1 hname hwide hpath

/-- The store is in no format, which does not matter. -/
theorem accepted_default_starts_wide :
    let run := execute ordinary ⟨.text wideText, .text "["⟩ wideArgs
    run.1 = .ok () ∧ ∃ c s, (Config.load run.2.files.config .empty).outcome = .ok c ∧
      Startup.Opens c run.2.files.store none s ∧ s.current = "wide" := by
  have hread : ∀ c, (Config.load (.text wideText) .empty).outcome = .ok c →
      ReadsChanged c wideChanges := by
    intro c hload
    obtain rfl : wideConfig = c := Except.ok.inj (load_wideText.symm.trans hload)
    exact fun _ => readsBack_wideConfig.2
  have hrun := fst_execute_wide (.text "[")
  obtain ⟨hstarts, -⟩ := @accepted_default_starts ordinary ⟨.text wideText, .text "["⟩ _ _ _ _
    asksForChanges_wide rfl rfl hread
  generalize execute ordinary ⟨.text wideText, .text "["⟩ wideArgs = run at hrun hstarts ⊢
  obtain ⟨hstore, c, hload, hopens, hcurrent⟩ := hstarts (Ending.code_eq_zero_iff.mpr hrun)
  have hreadable : ¬ (Startup.consulted c (some run.2.files.store)).Unreadable Json.read := by
    rw [hstore, Startup.consulted, Document.not_unreadable_iff]
    split
    · exact ⟨.failed, rfl⟩
    · exact ⟨.absent, rfl⟩
  obtain ⟨s, hs⟩ := hopens.mpr hreadable
  exact ⟨hrun, c, s, hload, hs, hcurrent s hs⟩

/-- A change to a default profile whose name closes a style is saved, and then fails. -/
theorem execute_changes_of_unopened {other after : String} (hargs : AsksForChanges args g changes)
    (hversion : g.version = false)
    (hload : (Config.load files.config sur.env).outcome = .ok c) (hchanges : changes ≠ .unset)
    (hknown : KnowsDefault c changes) (hdoc : files.config ≠ .directory)
    (hwrite : (Toml.write (changed c changes).literal.toTable).fault = none)
    (hother : Markup.IsStyleTag other) (hne : "cyan" ≠ other)
    (hname : (changed c changes).defaultProfile =
      (("[/" ++ other ++ "]" ++ after : String) : Text)) :
    (execute sur files args).1 = .error (.crashed (.markup .unopened)) ∧
      (execute sur files args).2.files =
        { files with config := .text (Toml.write (changed c changes).literal.toTable).text } := by
  have hfiles : ((loadConfig sur).on (Trace.start files)).2.files = files :=
    leavesFiles_loadConfig sur (Trace.start files)
  have hsave : ((changed c changes).literal.save files.config).1 = .ok () := by
    rw [Config.save_eq hdoc, Written.outcome, hwrite]
  rw [execute_changes hargs hversion, on_changeSettings_of_known hload hchanges hknown]
  constructor
  · exact fst_saveSettings_of_unopened (hfiles.symm ▸ hsave) hother hne hname
  · rw [files_saveSettings, hfiles, Config.save_eq hdoc]
    rfl

def closingText : String := "[profiles.\"[/dim]\"]\nview = \"trace\"\n"

def closingTable : Toml.Table :=
  [("profiles", .table [("[/dim]", .table [("view", .text "trace")])])]

def closingConfig : Config Ratio := ⟨"small", false, true, [("[/dim]", .pane (.kind .trace) false)]⟩

def closingArgs : List Text := ["config", "--default-profile", "[/dim]"]

def closingChanges : Changes := ⟨some "[/dim]", none, none⟩

def closingWritten : String :=
  "default_profile = \"[/dim]\"\ndebug_logging = false\nrestore_layouts = true\n\n" ++
    "[profiles.\"[/dim]\"]\nview = \"trace\"\n"

theorem asksForChanges_closing : AsksForChanges closingArgs .unset closingChanges := by
  apply asksForChanges_of_scan
  rw [Switches.scan_option (by decide) (by decide) rfl, Switches.scan_nil]
  rfl

theorem load_closingText :
    (Config.load (.text closingText) .empty).outcome = .ok closingConfig := by
  have hread : Toml.read closingText = .ok closingTable := (Toml.read_ofList _).trans rfl
  exact load_tracePane (by decide) hread

theorem write_closing :
    Toml.write (changed closingConfig closingChanges).literal.toTable = closingWritten := by
  rfl

theorem closing_name_saved :
    let files : Files := ⟨.text closingText, .missing⟩
    let run := execute ordinary files closingArgs
    Ending.code run.1 = 1 ∧ run.2.files.config = .text closingWritten ∧
      run.2.files.config ≠ files.config := by
  intro files run
  have hknown : KnowsDefault closingConfig closingChanges := by
    rintro name ⟨⟩
    decide
  have hname : (changed closingConfig closingChanges).defaultProfile =
      (("[/" ++ "dim" ++ "]" ++ "" : String) : Text) := rfl
  obtain ⟨hcrash, hfiles⟩ := @execute_changes_of_unopened ordinary files _ _ _ _ _ _
    asksForChanges_closing rfl load_closingText nofun hknown nofun (by rw [write_closing])
    Markup.isStyleTag_dim (by decide) hname
  have hconfig : run.2.files.config = .text closingWritten := by
    simp only [run]
    rw [hfiles, write_closing]
  refine ⟨?_, hconfig, ?_⟩
  · simp only [run]
    rw [hcrash]
    rfl
  · rw [hconfig]
    decide

end Program

end SplitScreen
