import Mathlib.Control.Monad.Basic
import SplitScreen.Proofs.Printing
import SplitScreen.Value

namespace SplitScreen

namespace Program

variable {sur : Surroundings} {files : Files} {args : List Text} {g : General} {changes : Changes}
  {c : Config Ratio}

theorem changed_unset (c : Config Ratio) : changed c .unset = c := rfl

theorem sound_changed (hc : c.Sound) (changes : Changes) : (changed c changes).Sound :=
  hc.of_profiles rfl

theorem config_execute_changes (hargs : AsksForChanges args g changes)
    (hrun : (execute sur files args).1 = .ok ()) (hchanges : changes ≠ .unset)
    (hload : (Config.load files.config sur.env).outcome = .ok c) :
    (execute sur files args).2.files =
      { files with config := .text (Toml.write (changed c changes).literal.toTable).text } := by
  obtain ⟨c', hload', hfiles⟩ := files_execute_changes hargs hrun
  obtain rfl : c = c' := Except.ok.inj (hload.symm.trans hload')
  rw [if_neg hchanges] at hfiles
  obtain ⟨hsave, hfiles⟩ := hfiles
  rw [hfiles, Config.save_eq (Config.of_save_eq_ok hsave).1]
  rfl

/-- After a change of some settings that succeeds, the file says what was in force when it was made,
with the changes. So where the environment sets nothing, every other setting and every profile is as
it was; but what the environment sets is in the file from then on. -/
theorem load_execute_changes (hargs : AsksForChanges args g changes)
    (hrun : (execute sur files args).1 = .ok ())
    (hload : (Config.load files.config .empty).outcome = .ok c)
    (hwrite : changes ≠ .unset →
      Toml.ReadsBack (changed (c.override sur.env) changes).literal.toTable) :
    (Config.load (execute sur files args).2.files.config .empty).outcome =
        .ok (if changes = .unset then c else changed (c.override sur.env) changes) ∧
      (sur.env = .empty →
        (Config.load (execute sur files args).2.files.config .empty).outcome =
          .ok (changed c changes)) := by
  have hafter : (Config.load (execute sur files args).2.files.config .empty).outcome =
      .ok (if changes = .unset then c else changed (c.override sur.env) changes) := by
    obtain ⟨_, _, hfiles⟩ := files_execute_changes hargs hrun
    split
    · next hunset =>
        rw [if_pos hunset] at hfiles
        rw [hfiles, hload]
    · next hchanges =>
        have hc := (Config.sound_of_load hload).override sur.env
        rw [config_execute_changes hargs hrun hchanges (Config.load_of_load_empty hload sur.env)]
        exact Config.load_written (sound_changed hc changes) (hwrite hchanges) .empty
  refine ⟨hafter, fun henv => ?_⟩
  rw [hafter, henv, Config.override_empty]
  split
  · next hunset => rw [hunset, changed_unset]
  · rfl

/-- After a change that succeeds, an entry for a profile that is in use is there with its layout,
and every other entry is gone; no entry is new. -/
theorem profileEntries_execute_changes (hargs : AsksForChanges args g changes)
    (hrun : (execute sur files args).1 = .ok ()) (hchanges : changes ≠ .unset)
    (hload : (Config.load files.config sur.env).outcome = .ok c)
    (hwrite : Toml.ReadsBack (changed c changes).literal.toTable) (name : Text) :
    let before := Config.profileEntries (Toml.tableOf files.config)
    let after := Config.profileEntries (Toml.tableOf (execute sur files args).2.files.config)
    (∀ v l, before.find? name = some v → name ∉ Screen.builtin → Layout.ofValue v = .ok l →
        ∃ w, after.find? name = some w ∧ Layout.ofValue w = .ok l) ∧
      (∀ v, before.find? name = some v →
        (name ∈ Screen.builtin ∨ ∀ l, Layout.ofValue v ≠ .ok l) → after.find? name = none) ∧
      (before.find? name = none → after.find? name = none) := by
  intro before after
  have hkeyed := Toml.keyed_tableOf files.config
  have hafter : after.find? name = (c.profiles.find? name).map fun l => l.literal.toValue := by
    simp only [after]
    rw [config_execute_changes hargs hrun hchanges hload, Toml.tableOf_text hwrite.2,
      Config.profileEntries_toTable]
    exact Assoc.find?_mapValues (fun l : Layout Ratio => l.literal.toValue) name c.profiles
  have hused : c.profiles.find? name =
      (before.find? name).bind fun v => (Config.readProfile name v).toOption := by
    rw [Config.eq_of_load hload, Config.override, Config.profiles_ofTable,
      Warning.find?_readEach (Config.nodup_keys_profileEntries hkeyed)]
  rw [hafter, hused]
  refine ⟨?_, ?_, ?_⟩
  · intro v l hv hname hl
    rw [hv, Option.bind_some, Config.readProfile_eq_ok_iff.mpr ⟨hname, hl⟩]
    exact ⟨_, rfl, Layout.ofValue_toValue_of_storable (Layout.storable_of_ofValue hl)⟩
  · intro v hv hlost
    rw [hv, Option.bind_some]
    cases hread : Config.readProfile name v with
    | error warning => rfl
    | ok l =>
        obtain ⟨hname, hl⟩ := Config.readProfile_eq_ok_iff.mp hread
        rcases hlost with hbuiltin | hnone
        · exact absurd hbuiltin hname
        · exact absurd hl (hnone l)
  · intro hnone
    rw [hnone]
    rfl

def badText : String := "[profiles.bad]\n"

def badTable : Toml.Table := [("profiles", .table [("bad", .table [])])]

def quietText : String := "restore_layouts = false\n"

def quietTable : Toml.Table := [("restore_layouts", .bool false)]

def keptConfig : Config Ratio := ⟨"small", true, true, []⟩

def keptText : String :=
  "default_profile = \"small\"\ndebug_logging = true\nrestore_layouts = true\n"

def ordinary : Surroundings := ⟨.empty, "config.toml", 80, ⟨0, 0⟩, 80, 24, []⟩

/-- An environment in which profiles come up as they were left. -/
def restoring : Surroundings :=
  { ordinary with env := { Environment.empty with restoreLayouts := some ("1" : Text) } }

def logging : Changes := ⟨none, some true, none⟩

theorem asksForChanges_logging : AsksForChanges ["config", "--debug-logging"] .unset logging := by
  apply asksForChanges_of_scan
  rw [Switches.scan_option (by decide) (by decide) rfl, Switches.scan_nil]
  rfl

theorem read_badText : Toml.read badText = .ok badTable :=
  (Toml.read_ofList _).trans rfl

theorem read_quietText : Toml.read quietText = .ok quietTable :=
  (Toml.read_ofList _).trans rfl

theorem load_badText : (Config.load (.text badText) .empty).outcome = .ok .default := by
  refine Config.load_eq_of_ofTable read_badText ?_
  have hbad : Config.readProfile "bad" (.table []) = .error (.profileIgnored "bad" .noShape) := by
    rw [Config.readProfile, Layout.ofValue]
    rfl
  rw [badTable, Config.ofTable_profiles, Warning.readEach, hbad]
  exact ⟨rfl, rfl⟩

theorem readsBack_keptConfig : Toml.ReadsBack keptConfig.literal.toTable := by
  have hwrite : Toml.write keptConfig.literal.toTable = keptText := rfl
  rw [Toml.ReadsBack, hwrite]
  exact ⟨rfl, (Toml.read_ofList _).trans rfl⟩

def quietConfig : Config Ratio := { Config.default with restoreLayouts := false }

theorem load_quietText (env : Environment) :
    (Config.load (.text quietText) env).outcome = .ok (quietConfig.override env) := by
  rw [Config.load_text read_quietText (List.all_eq_true.mp rfl)]
  rfl

theorem changed_quiet : changed (quietConfig.override restoring.env) logging = keptConfig := rfl

theorem fst_execute_logging {sur : Surroundings} {s : String} {c : Config Ratio}
    (hpath : sur.configPath = "config.toml")
    (hload : (Config.load (.text s) sur.env).outcome = .ok c)
    (hchanged : changed c logging = keptConfig) :
    (execute sur ⟨.text s, .missing⟩ ["config", "--debug-logging"]).1 = .ok () := by
  have hsmall : Markup.IsPlain "small" := Markup.isPlain_ofList (by decide) (by decide)
  have hfile : Markup.IsPlain "config.toml" := Markup.isPlain_ofList (by decide) (by decide)
  have hwrite : (Toml.write (changed c logging).literal.toTable).fault = none := by
    rw [hchanged]
    exact readsBack_keptConfig.1
  refine fst_execute_changes asksForChanges_logging rfl hload nofun nofun nofun hwrite ?_ hsmall
    (hpath ▸ hfile)
  rw [hchanged]
  rfl

theorem fst_execute_bad :
    (execute ordinary ⟨.text badText, .missing⟩ ["config", "--debug-logging"]).1 = .ok () :=
  fst_execute_logging rfl load_badText rfl

theorem fst_execute_quiet :
    (execute restoring ⟨.text quietText, .missing⟩ ["config", "--debug-logging"]).1 = .ok () :=
  fst_execute_logging rfl (load_quietText _) changed_quiet

theorem load_execute_changes_quiet :
    let run := execute restoring ⟨.text quietText, .missing⟩ ["config", "--debug-logging"]
    run.1 = .ok () ∧ (Config.load run.2.files.config .empty).outcome = .ok keptConfig := by
  intro run
  obtain ⟨hafter, -⟩ := load_execute_changes asksForChanges_logging fst_execute_quiet
    (load_quietText .empty) fun _ => changed_quiet ▸ readsBack_keptConfig
  rw [if_neg nofun, Config.override_empty, changed_quiet] at hafter
  exact ⟨fst_execute_quiet, hafter⟩

/-- Profiles come up as they were left in every later run, though the change was about the journal
alone. -/
theorem environment_written :
    let run := execute restoring ⟨.text quietText, .missing⟩ ["config", "--debug-logging"]
    run.1 = .ok () ∧ (Config.load (.text quietText) .empty).outcome = .ok quietConfig ∧
      (Config.load run.2.files.config .empty).outcome ≠ .ok (changed quietConfig logging) := by
  intro run
  refine ⟨fst_execute_quiet, load_quietText .empty, ?_⟩
  have hafter : (Config.load run.2.files.config .empty).outcome = .ok keptConfig := by
    simp only [run]
    rw [config_execute_changes asksForChanges_logging fst_execute_quiet nofun (load_quietText _),
      changed_quiet]
    exact Config.load_written (changed_quiet ▸ sound_changed
      (Config.sound_of_load (load_quietText restoring.env)) logging) readsBack_keptConfig .empty
  rw [hafter]
  intro hsame
  have hrestore := congrArg Config.restoreLayouts (Except.ok.inj hsame)
  exact absurd hrestore (by decide)

theorem find?_bad :
    (Config.profileEntries (Toml.tableOf (.text badText))).find? ("bad" : Text) =
      some (.table []) := by
  rw [Toml.tableOf_text read_badText]
  rfl

theorem profileEntries_execute_changes_bad :
    let run := execute ordinary ⟨.text badText, .missing⟩ ["config", "--debug-logging"]
    run.1 = .ok () ∧
      (Config.profileEntries (Toml.tableOf run.2.files.config)).find? ("bad" : Text) = none := by
  intro run
  obtain ⟨-, hlost, -⟩ := profileEntries_execute_changes asksForChanges_logging fst_execute_bad
    nofun load_badText readsBack_keptConfig ("bad" : Text)
  refine ⟨fst_execute_bad, hlost _ find?_bad (Or.inr fun l hl => ?_)⟩
  simp [Layout.ofValue] at hl

/-- An entry of the user is deleted by a change of the settings, since it is no layout. -/
theorem entry_lost :
    let run := execute ordinary ⟨.text badText, .missing⟩ ["config", "--debug-logging"]
    run.1 = .ok () ∧
      (∃ v, (Config.profileEntries (Toml.tableOf (.text badText))).find? ("bad" : Text) = some v) ∧
      (Config.profileEntries (Toml.tableOf run.2.files.config)).find? ("bad" : Text) = none := by
  intro run
  refine ⟨fst_execute_bad, ⟨_, find?_bad⟩, ?_⟩
  simp only [run]
  rw [config_execute_changes asksForChanges_logging fst_execute_bad nofun load_badText]
  have hafter :
      Toml.tableOf (.text (Toml.write (changed Config.default logging).literal.toTable).text) =
        keptConfig.literal.toTable := Toml.tableOf_text readsBack_keptConfig.2
  rw [hafter, Config.profileEntries_toTable]
  rfl

end Program

end SplitScreen
