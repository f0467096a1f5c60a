import SplitScreen.Program
import SplitScreen.Proofs.Outcome

namespace SplitScreen

namespace Switches

variable {σ : Type} {s : Switches σ} {mixed : Bool} {p q : Progress σ} {arg : Text}
  {rest left : List Text}

theorem scan_nil : s.scan mixed p [] = .ok (p, []) := by
  rw [scan]

theorem scan_option (hend : arg ≠ ("--" : Text))
    (harg : arg.symbols.head? = some (.char '-') ∧ arg ≠ ("-" : Text))
    (h : s.option p arg.symbols rest = .ok (q, left)) :
    s.scan mixed p (arg :: rest) = s.scan mixed q left := by
  rw [scan, if_neg hend, if_pos harg]
  split
  · next hoption =>
      rw [h] at hoption
      cases hoption
  · next hoption =>
      rw [h] at hoption
      cases hoption
      rfl

/-- Options that stand before a command end at its name. -/
theorem scan_command (h : arg.symbols.head? ≠ some (.char '-')) :
    s.scan false p (arg :: rest) = .ok (p, arg :: rest) := by
  have hend : arg ≠ ("--" : Text) := by
    rintro rfl
    exact h rfl
  rw [scan, if_neg hend, if_neg fun hoption => h hoption.1]
  rfl

end Switches

theorem Line.ofArguments_command {name : Text} {c : CommandName} (args : List Text)
    (hname : name.symbols.head? ≠ some (.char '-'))
    (hc : name.toString?.bind CommandName.ofText? = some c) :
    Line.ofArguments (name :: args) = .ok ⟨.unset, some (c, args), false⟩ := by
  rw [Line.ofArguments, Switches.scan_command hname]
  simp only [bind, Except.bind]
  rw [if_neg Bool.false_ne_true]
  simp only [hc]
  rfl

/-- A store and the settings give a screen to start with. -/
def Startup.Opens (c : Config Ratio) (store : Document) (profile : Option Text) (s : Screen) :
    Prop :=
  ∃ layouts, (saved c (some store)).outcome = .ok layouts ∧ screen c layouts profile = .ok s

namespace Program

variable {α β : Type}

/-- How a run ends and the trace that it leaves. -/
def on (x : Program α) (t : Trace) : Except Ending α × Trace := StateT.run (ExceptT.run x) t

@[simp] theorem on_pure (a : α) (t : Trace) : (pure a : Program α).on t = (.ok a, t) := rfl

@[simp] theorem on_get (t : Trace) : (get : Program Trace).on t = (.ok t, t) := rfl

@[simp] theorem on_modify (f : Trace → Trace) (t : Trace) :
    (modify f : Program Unit).on t = (.ok (), f t) := rfl

@[simp] theorem on_throw (e : Ending) (t : Trace) :
    (throw e : Program α).on t = (.error e, t) := rfl

theorem on_bind (x : Program α) (f : α → Program β) (t : Trace) :
    (x >>= f).on t =
      match x.on t with
      | (.ok a, u) => (f a).on u
      | (.error e, u) => (.error e, u) := by
  simp only [on, ExceptT.run_bind, StateT.run_bind]
  rcases StateT.run (ExceptT.run x) t with ⟨e | a, u⟩ <;> rfl

variable {x : Program α} {f : α → Program β} {t : Trace}

theorem on_bind_of_ok {a : α} (h : (x.on t).1 = .ok a) : (x >>= f).on t = (f a).on (x.on t).2 := by
  rw [on_bind]
  rcases hon : x.on t with ⟨e | b, u⟩
  · rw [hon] at h
    cases h
  · rw [hon] at h
    cases h
    rfl

theorem on_bind_of_error {e : Ending} (h : (x.on t).1 = .error e) :
    (x >>= f).on t = (.error e, (x.on t).2) := by
  rw [on_bind]
  rcases hon : x.on t with ⟨e' | b, u⟩
  · rw [hon] at h
    cases h
    rfl
  · rw [hon] at h
    cases h

theorem exists_of_on_bind {b : β} (h : ((x >>= f).on t).1 = .ok b) :
    ∃ a, (x.on t).1 = .ok a ∧ ((f a).on (x.on t).2).1 = .ok b := by
  cases hx : (x.on t).1 with
  | ok a =>
      rw [on_bind_of_ok hx] at h
      exact ⟨a, rfl, h⟩
  | error e =>
      rw [on_bind_of_error hx] at h
      cases h

/-- The run leaves the files as they were. -/
def LeavesFiles (x : Program α) : Prop := ∀ t, (x.on t).2.files = t.files

theorem leavesFiles_pure (a : α) : (pure a : Program α).LeavesFiles := fun _ => rfl

theorem leavesFiles_throw (e : Ending) : (throw e : Program α).LeavesFiles := fun _ => rfl

theorem leavesFiles_get : (get : Program Trace).LeavesFiles := fun _ => rfl

theorem leavesFiles_modify {g : Trace → Trace} (h : ∀ t, (g t).files = t.files) :
    (modify g : Program Unit).LeavesFiles := h

theorem LeavesFiles.bind (hx : x.LeavesFiles) (hf : ∀ a, (f a).LeavesFiles) :
    (x >>= f).LeavesFiles := by
  intro t
  have ht := hx t
  rw [on_bind]
  rcases hon : x.on t with ⟨e | a, u⟩
  · rw [hon] at ht
    exact ht
  · rw [hon] at ht
    exact (hf a u).trans ht

theorem leavesFiles_throw_bind (e : Ending) (f : α → Program β) :
    (throw e >>= f).LeavesFiles := fun _ => rfl

theorem leavesFiles_note (notes : List Note) :
    (modify fun t => t.note notes : Program Unit).LeavesFiles :=
  leavesFiles_modify fun _ => rfl

theorem leavesFiles_printLines (lines : List Text) : (printLines lines).LeavesFiles := by
  unfold printLines
  split
  · exact leavesFiles_modify fun _ => rfl
  · exact leavesFiles_throw _

theorem leavesFiles_rendered (r : Except Markup.Fault α) : (rendered r).LeavesFiles := by
  unfold rendered
  split
  · exact leavesFiles_pure _
  · exact leavesFiles_throw _

theorem leavesFiles_say (sur : Surroundings) (markup : Text) : (say sur markup).LeavesFiles :=
  (leavesFiles_rendered _).bind fun _ => leavesFiles_printLines _

theorem leavesFiles_access (a : Access α) : (access a).LeavesFiles := by
  refine (leavesFiles_modify (g := fun t => t.warn a.warnings) fun _ => rfl).bind fun _ => ?_
  split
  · exact leavesFiles_pure _
  · exact leavesFiles_throw _

theorem leavesFiles_loadConfig (sur : Surroundings) : (loadConfig sur).LeavesFiles :=
  leavesFiles_get.bind fun _ => leavesFiles_access _

theorem leavesFiles_openScreen (sur : Surroundings) (c : Config Ratio) (profile : Option Text) :
    (openScreen sur c profile).LeavesFiles := by
  refine leavesFiles_get.bind fun _ => (leavesFiles_access _).bind fun saved => ?_
  refine (leavesFiles_note _).bind fun _ => ?_
  split
  · exact (leavesFiles_note _).bind fun _ => leavesFiles_pure _
  · exact (leavesFiles_say _ _).bind fun _ => leavesFiles_throw _

theorem leavesFiles_saySettings (sur : Surroundings) (c : Config Ratio) :
    (saySettings sur c).LeavesFiles :=
  (leavesFiles_say _ _).bind fun _ => (leavesFiles_say _ _).bind fun _ => leavesFiles_say _ _

variable {sur : Surroundings} {c : Config Ratio} {profile : Option Text} {s : Screen}

theorem fst_access (a : Access α) (t : Trace) :
    ((access a).on t).1 = a.outcome.mapError fun fault => .crashed (.file fault) := by
  rw [access, on_bind, on_modify]
  cases a.outcome with
  | error fault => rfl
  | ok result => rfl

theorem fst_loadConfig (sur : Surroundings) (t : Trace) :
    ((loadConfig sur).on t).1 =
      (Config.load t.files.config sur.env).outcome.mapError
        fun fault => .crashed (.file fault) := by
  rw [loadConfig, on_bind, on_get]
  exact fst_access _ t

theorem fst_openScreen_eq_ok_iff :
    ((openScreen sur c profile).on t).1 = .ok s ↔ Startup.Opens c t.files.store profile s := by
  unfold openScreen Startup.Opens
  rw [on_bind, on_get]
  simp only
  have haccess := fst_access (Startup.saved c (some t.files.store)) t
  cases hsaved : (Startup.saved c (some t.files.store)).outcome with
  | error fault =>
      rw [hsaved] at haccess
      rw [on_bind_of_error haccess]
      constructor
      · nofun
      · rintro ⟨layouts, hlayouts, -⟩
        cases hlayouts
  | ok layouts =>
      rw [hsaved] at haccess
      rw [on_bind_of_ok haccess, on_bind, on_modify]
      simp only [Except.ok.injEq, exists_eq_left']
      cases Startup.screen c layouts profile with
      | ok s' =>
          rw [on_bind, on_modify, ← Except.ok.injEq (ε := Ending)]
          simp only [on_pure, Except.ok.injEq]
      | error r =>
          rw [on_bind]
          constructor
          · intro h
            split at h
            · cases h
            · cases h
          · nofun

def endSession : Option Fault → Program Unit
  | none => return ()
  | some f => throw (.crashed (.event f))

/-- A session over an open screen, with its layouts saved on the way out. -/
def runSession (sur : Surroundings) (c : Config Ratio) (s : Screen) : Program Unit := do
  let session := Session.start s sur.origin sur.width sur.height sur.inputs
  modify fun t => { t.note session.notes with frames := session.frames }
  if c.restoreLayouts then
    let t ← get
    let (outcome, store) := Store.saveScreen t.files.store session.last.screen
    modify fun t => { t with files := { t.files with store := store } }
    access outcome
  endSession session.fault

theorem runFrontEnd_eq (sur : Surroundings) (c : Config Ratio) (profile : Option Text) :
    runFrontEnd sur c profile = (do
      if c.debugLogging then modify fun t => { t with journal := some [.started] }
      runSession sur c (← openScreen sur c profile)) := rfl

/-- The front end opens a screen, with the files as they were, and runs a session over it. -/
theorem exists_on_runFrontEnd (sur : Surroundings) (c : Config Ratio) (profile : Option Text)
    (t : Trace) :
    ∃ u, u.files = t.files ∧ (runFrontEnd sur c profile).on t =
      (openScreen sur c profile >>= fun s => runSession sur c s).on u := by
  rw [runFrontEnd_eq]
  split
  · exact ⟨{ t with journal := some [.started] }, rfl, rfl⟩
  · exact ⟨t, rfl, rfl⟩

theorem files_runSession_of_restoring (hrestore : c.restoreLayouts = true) (s : Screen)
    (t : Trace) :
    ((runSession sur c s).on t).2.files =
      { t.files with
        store := (Store.saveScreen t.files.store
          (Session.start s sur.origin sur.width sur.height sur.inputs).last.screen).2 } := by
  have hend (fault : Option Fault) : (endSession fault).LeavesFiles := by
    cases fault with
    | none => exact leavesFiles_pure ()
    | some f => exact leavesFiles_throw _
  unfold runSession
  rw [on_bind, on_modify]
  simp only
  rw [if_pos hrestore, on_bind, on_get]
  simp only
  rw [on_bind, on_modify]
  exact ((leavesFiles_access _).bind fun _ => hend _) _

theorem files_runFrontEnd_of_opens (hrestore : c.restoreLayouts = true)
    (hopen : Startup.Opens c t.files.store profile s) :
    ((runFrontEnd sur c profile).on t).2.files =
      { t.files with
        store := (Store.saveScreen t.files.store
          (Session.start s sur.origin sur.width sur.height sur.inputs).last.screen).2 } := by
  obtain ⟨u, hu, hon⟩ := exists_on_runFrontEnd sur c profile t
  rw [hon, on_bind_of_ok (fst_openScreen_eq_ok_iff.mpr (hu.symm ▸ hopen)),
    files_runSession_of_restoring hrestore, leavesFiles_openScreen sur c profile u, hu]

theorem files_runFrontEnd_of_not_opens (hopen : ∀ s, ¬ Startup.Opens c t.files.store profile s) :
    ((runFrontEnd sur c profile).on t).2.files = t.files := by
  obtain ⟨u, hu, hon⟩ := exists_on_runFrontEnd sur c profile t
  have hfiles := leavesFiles_openScreen sur c profile u
  rw [hon]
  cases hfst : ((openScreen sur c profile).on u).1 with
  | ok s => exact absurd (hu ▸ fst_openScreen_eq_ok_iff.mp hfst) (hopen s)
  | error e =>
      rw [on_bind_of_error hfst]
      exact hfiles.trans hu

variable {changes : Changes}

/-- Writes a configuration in the place of the file and says what it holds. -/
def saveSettings (sur : Surroundings) (new : Config Ratio) : Program Unit := do
  let (outcome, doc) := new.literal.save (← get).files.config
  modify fun t => { t with files := { t.files with config := doc } }
  access (Access.ofExcept outcome)
  say sur "\n[green]Configuration saved![/green]"
  saySettings sur new
  say sur s!"\nSaved to: [dim]{sur.configPath}[/dim]"

/-- The profile that is to be the default one is there. -/
def KnowsDefault (c : Config Ratio) (changes : Changes) : Prop :=
  ∀ name, changes.defaultProfile = some name → isKnown c name = true

theorem on_changeSettings_of_known (hload : (Config.load t.files.config sur.env).outcome = .ok c)
    (hchanges : changes ≠ .unset) (hknown : KnowsDefault c changes) :
    (changeSettings sur changes).on t =
      (saveSettings sur (changed c changes)).on ((loadConfig sur).on t).2 := by
  have hc : ((loadConfig sur).on t).1 = .ok c := by
    rw [fst_loadConfig]
    exact mapError_eq_ok_iff.mpr hload
  unfold changeSettings
  rw [on_bind_of_ok hc, if_neg hchanges]
  split
  · next name hname =>
      rw [if_pos (hknown name hname)]
      rfl
  · rfl

theorem leavesFiles_changeSettings_unset (sur : Surroundings) :
    (changeSettings sur .unset).LeavesFiles := by
  refine (leavesFiles_loadConfig sur).bind fun c => ?_
  rw [if_pos rfl]
  exact (leavesFiles_say _ _).bind fun _ => leavesFiles_say _ _

theorem exists_of_changeSettings (h : ((changeSettings sur changes).on t).1 = .ok ()) :
    ∃ c, (Config.load t.files.config sur.env).outcome = .ok c ∧
      (changes ≠ .unset → KnowsDefault c changes) := by
  obtain ⟨c, hc, h⟩ := exists_of_on_bind h
  rw [fst_loadConfig] at hc
  refine ⟨c, mapError_eq_ok_iff.mp hc, fun hchanges name hname => ?_⟩
  rw [if_neg hchanges] at h
  simp only [hname] at h
  split at h
  · next hknown => exact hknown
  · obtain ⟨_, -, h⟩ := exists_of_on_bind h
    obtain ⟨_, hthrow, -⟩ := exists_of_on_bind h
    cases hthrow

/-- A run of the command that does not leave the files as they are has loaded the configuration,
knows its default profile and has something to change. -/
theorem exists_of_files_changeSettings (h : ((changeSettings sur changes).on t).2.files ≠ t.files) :
    ∃ c, (Config.load t.files.config sur.env).outcome = .ok c ∧ changes ≠ .unset ∧
      KnowsDefault c changes := by
  have hfiles := leavesFiles_loadConfig sur t
  have hchanges : changes ≠ .unset := by
    rintro rfl
    exact h (leavesFiles_changeSettings_unset sur t)
  unfold changeSettings at h
  cases hc : ((loadConfig sur).on t).1 with
  | error e =>
      rw [on_bind_of_error hc] at h
      exact absurd hfiles h
  | ok c =>
      rw [on_bind_of_ok hc, if_neg hchanges] at h
      rw [fst_loadConfig] at hc
      refine ⟨c, mapError_eq_ok_iff.mp hc, hchanges, fun name hname => ?_⟩
      simp only [hname] at h
      split at h
      · next hknown => exact hknown
      · refine absurd (Eq.trans ?_ hfiles) h
        exact ((leavesFiles_say _ _).bind fun _ => leavesFiles_throw_bind _ _) _

theorem files_saveSettings (sur : Surroundings) (new : Config Ratio) (t : Trace) :
    ((saveSettings sur new).on t).2.files =
      { t.files with config := (new.literal.save t.files.config).2 } := by
  unfold saveSettings
  rw [on_bind, on_get]
  simp only
  rw [on_bind, on_modify]
  have haccess := leavesFiles_access (Access.ofExcept (new.literal.save t.files.config).1)
  have hsay := haccess.bind fun _ =>
    (leavesFiles_say sur "\n[green]Configuration saved![/green]").bind fun _ =>
      (leavesFiles_saySettings sur new).bind fun _ =>
        leavesFiles_say sur s!"\nSaved to: [dim]{sur.configPath}[/dim]"
  exact hsay _

theorem fst_save_of_saveSettings {new : Config Ratio}
    (h : ((saveSettings sur new).on t).1 = .ok ()) :
    (new.literal.save t.files.config).1 = .ok () := by
  unfold saveSettings at h
  rw [on_bind, on_get] at h
  simp only at h
  rw [on_bind, on_modify] at h
  obtain ⟨_, haccess, -⟩ := exists_of_on_bind h
  rw [fst_access] at haccess
  exact mapError_eq_ok_iff.mp haccess

/-- The arguments ask for the front end, with some general options. -/
def AsksForFrontEnd (args : List Text) (g : General) : Prop :=
  Line.ofArguments args = .ok ⟨g, none, false⟩ ∧ g.version = false

variable {args : List Text} {g : General} {files : Files}

theorem files_execute_frontEnd (hargs : AsksForFrontEnd args g)
    (hload : (Config.load files.config sur.env).outcome = .ok c) :
    (execute sur files args).2.files =
      ((runFrontEnd sur { c with debugLogging := g.debugLogging.getD c.debugLogging }
        g.profile).on ((loadConfig sur).on (Trace.start files)).2).2.files := by
  obtain ⟨hline, hversion⟩ := hargs
  have hc : ((loadConfig sur).on (Trace.start files)).1 = .ok c := by
    rw [fst_loadConfig]
    exact mapError_eq_ok_iff.mpr hload
  change ((perform sur args).on (Trace.start files)).2.files = _
  unfold perform
  rw [hline, understand, on_bind, on_pure]
  simp only [Bool.false_eq_true, if_false, hversion]
  rw [on_bind_of_ok hc]

/-- The arguments ask for some changes of the settings, after some general options. -/
def AsksForChanges (args : List Text) (g : General) (changes : Changes) : Prop :=
  ∃ rest, Line.ofArguments args = .ok ⟨g, some (.config, rest), false⟩ ∧
    Request.ofArguments rest .config = .ok (.changeSettings changes)

theorem asksForChanges_of_scan {changes : Changes}
    (h : SettingsOptions.switches.scan true ⟨.unset, false⟩ args =
      .ok (⟨⟨changes, false⟩, false⟩, [])) :
    AsksForChanges ("config" :: args) .unset changes := by
  refine ⟨args, Line.ofArguments_command args (by decide) rfl, ?_⟩
  rw [Request.ofArguments, Request.ofOptions, h]
  rfl

theorem execute_changes (hargs : AsksForChanges args g changes) (hversion : g.version = false) :
    execute sur files args = (changeSettings sur changes).on (Trace.start files) := by
  obtain ⟨rest, hline, hrequest⟩ := hargs
  change (perform sur args).on (Trace.start files) = _
  unfold perform
  rw [hline, understand, on_bind, on_pure]
  simp only [Bool.false_eq_true, if_false, hversion, hrequest]
  rfl

/-- The version is said before the settings are changed. -/
theorem execute_changes_of_version (hargs : AsksForChanges args g changes)
    (hversion : g.version = true) :
    execute sur files args =
      (say sur s!"panekit v{version}" >>= fun _ => changeSettings sur changes).on
        (Trace.start files) := by
  obtain ⟨rest, hline, hrequest⟩ := hargs
  change (perform sur args).on (Trace.start files) = _
  unfold perform
  rw [hline, understand, on_bind, on_pure]
  simp only [Bool.false_eq_true, if_false, hversion, if_true, hrequest]
  rfl

theorem exists_execute_changes (hargs : AsksForChanges args g changes)
    (hrun : (execute sur files args).1 = .ok ()) :
    ∃ t, t.files = files ∧ execute sur files args = (changeSettings sur changes).on t := by
  cases hversion : g.version with
  | false => exact ⟨Trace.start files, rfl, execute_changes hargs hversion⟩
  | true =>
      rw [execute_changes_of_version hargs hversion] at hrun ⊢
      obtain ⟨_, hsay, -⟩ := exists_of_on_bind hrun
      exact ⟨_, leavesFiles_say sur _ (Trace.start files), on_bind_of_ok hsay⟩

theorem exists_execute_changes_of_files (hargs : AsksForChanges args g changes)
    (hrun : (execute sur files args).2.files ≠ files) :
    ∃ t, t.files = files ∧ execute sur files args = (changeSettings sur changes).on t := by
  cases hversion : g.version with
  | false => exact ⟨Trace.start files, rfl, execute_changes hargs hversion⟩
  | true =>
      have hfiles := leavesFiles_say sur s!"panekit v{version}" (Trace.start files)
      rw [execute_changes_of_version hargs hversion] at hrun ⊢
      cases hsay : ((say sur s!"panekit v{version}").on (Trace.start files)).1 with
      | ok _ => exact ⟨_, hfiles, on_bind_of_ok hsay⟩
      | error e =>
          rw [on_bind_of_error hsay] at hrun
          exact absurd hfiles hrun

/-- A run of the command for the settings that succeeds leaves the files as they are if no change is
asked for, and else saves the configuration with the changes, whatever of it came from where. -/
theorem files_execute_changes (hargs : AsksForChanges args g changes)
    (hrun : (execute sur files args).1 = .ok ()) :
    ∃ c, (Config.load files.config sur.env).outcome = .ok c ∧
      if changes = .unset then (execute sur files args).2.files = files
      else ((changed c changes).literal.save files.config).1 = .ok () ∧
        (execute sur files args).2.files =
          { files with config := ((changed c changes).literal.save files.config).2 } := by
  obtain ⟨t, rfl, hexecute⟩ := exists_execute_changes hargs hrun
  rw [hexecute] at hrun ⊢
  obtain ⟨c, hload, hknown⟩ := exists_of_changeSettings hrun
  refine ⟨c, hload, ?_⟩
  have hfiles := leavesFiles_loadConfig sur t
  split
  · next hunset =>
      subst hunset
      exact leavesFiles_changeSettings_unset sur t
  · next hchanges =>
      rw [on_changeSettings_of_known hload hchanges (hknown hchanges)] at hrun ⊢
      rw [files_saveSettings, ← hfiles]
      exact ⟨fst_save_of_saveSettings hrun, rfl⟩

end Program

end SplitScreen
