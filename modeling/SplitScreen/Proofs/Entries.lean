import SplitScreen.Proofs.Config
import SplitScreen.Value

/-!
Every entry of a data file is looked at on its own. A setting depends on its own variable and its own
key, a profile and a saved layout on their own entries, and what is warned about is what was
rejected, in the order of the file (`Config.load_of_content`, `Store.load_of_content`). Only a
setting of another kind is quoted, so only there can an integer be too long for the warning. Main
statement: `entries_read_apart`.
-/

namespace SplitScreen

namespace Warning

variable {α : Type} {read : Text → Value → Except Warning α}

def rejected? : Except Warning α → Option Warning
  | .ok _ => none
  | .error warning => some warning

/-- The entries that can be read are kept in order, and each of the others is warned about. -/
theorem readEach_eq (entries : List (Text × Value)) :
    readEach read entries =
      (entries.filterMap fun entry =>
          (read entry.1 entry.2).toOption.map fun a => (entry.1, a),
        entries.filterMap fun entry => rejected? (read entry.1 entry.2)) := by
  induction entries with
  | nil => rfl
  | cons entry rest ih =>
      obtain ⟨name, v⟩ := entry
      rw [readEach, ih, List.filterMap_cons, List.filterMap_cons]
      cases read name v <;> rfl

end Warning

namespace Config

inductive Kind
  | text
  | flag

namespace Kind

def name : Kind → String
  | text => "str"
  | flag => "bool"

def admits : Kind → Value → Bool
  | text, v => (text? v).isSome
  | flag, v => (bool? v).isSome

end Kind

/-- What is looked at on its own in a table of settings. -/
inductive Item
  | setting (key : String) (kind : Kind) (found : Value)
  /-- What stands in the place of the profiles. -/
  | profiles (found : Value)
  | profile (name : Text) (found : Value)

namespace Item

/-- What is said of an item that is rejected. -/
def rejection? : Item → Option Warning
  | setting key kind v => if kind.admits v then none else some (.settingIgnored key v kind.name)
  | profiles (.table _) => none
  | profiles v => some (.profilesIgnored v)
  | profile name v =>
    if name ∈ Screen.builtin then some (.profileReserved name)
    else
      match Layout.ofValue v with
      | .ok _ => none
      | .error why => some (.profileIgnored name why)

/-- A setting of another kind holds an integer that is too long to be quoted. -/
def Unsayable : Item → Prop
  | setting _ kind v => kind.admits v = false ∧ v.hasLongInteger = true
  | _ => False

instance : DecidablePred Unsayable
  | setting _ kind v =>
    inferInstanceAs (Decidable (kind.admits v = false ∧ v.hasLongInteger = true))
  | profiles _ | profile .. => .isFalse id

end Item

/-- The item of a setting, if it is given. -/
def givenSetting (t : Toml.Table) (key : String) (kind : Kind) : List Item :=
  ((t.find? (key : Text)).map (Item.setting key kind)).toList

/-- The items of a table in the order in which they are looked at. -/
def items (t : Toml.Table) : List Item :=
  givenSetting t "default_profile" .text ++ givenSetting t "debug_logging" .flag ++
    givenSetting t "restore_layouts" .flag ++
    ((t.find? ("profiles" : Text)).map Item.profiles).toList ++
    (profileEntries t).map fun entry => .profile entry.1 entry.2

def profile? (entry : Text × Value) : Option (Text × Layout Ratio) :=
  if entry.1 ∈ Screen.builtin then none
  else (Layout.ofValue entry.2).toOption.map fun l => (entry.1, l)

/-- What a table and the environment say: every setting by its own variable, else by its own key,
every profile by its own entry. -/
def said (t : Toml.Table) (env : Environment) : Config Ratio where
  defaultProfile := env.defaultProfile.getD
    (((t.find? ("default_profile" : Text)).bind text?).getD Screen.smallName)
  debugLogging := (env.debugLogging.map Environment.isOn).getD
    (((t.find? ("debug_logging" : Text)).bind bool?).getD false)
  restoreLayouts := (env.restoreLayouts.map Environment.isOn).getD
    (((t.find? ("restore_layouts" : Text)).bind bool?).getD true)
  profiles := (profileEntries t).filterMap profile?

variable {doc : Document} {env : Environment} {t : Toml.Table}

/-- Two configurations have in common what their variables and the entries for it have. -/
structure SharesEntries (t t' : Toml.Table) (env env' : Environment) (c c' : Config Ratio) : Prop where
  defaultProfile
    (hkey : t.find? ("default_profile" : Text) = t'.find? ("default_profile" : Text))
    (hvariable : env.defaultProfile = env'.defaultProfile) : c.defaultProfile = c'.defaultProfile
  debugLogging (hkey : t.find? ("debug_logging" : Text) = t'.find? ("debug_logging" : Text))
    (hvariable : env.debugLogging = env'.debugLogging) : c.debugLogging = c'.debugLogging
  restoreLayouts
    (hkey : t.find? ("restore_layouts" : Text) = t'.find? ("restore_layouts" : Text))
    (hvariable : env.restoreLayouts = env'.restoreLayouts) : c.restoreLayouts = c'.restoreLayouts
  profiles (hentries : profileEntries t = profileEntries t') : c.profiles = c'.profiles

theorem setting_eq {α : Type} (t : Toml.Table) (key : String) (kind : Kind)
    (get? : Value → Option α) (default : α) (hkind : ∀ v, kind.admits v = (get? v).isSome) :
    setting t key kind.name get? default =
      (((t.find? (key : Text)).bind get?).getD default,
        (givenSetting t key kind).filterMap Item.rejection?) := by
  unfold setting givenSetting
  cases t.find? (key : Text) with
  | none => rfl
  | some v =>
      have hadmits := hkind v
      cases hget : get? v <;> simp [Item.rejection?, hadmits, hget]

theorem toOption_readProfile (entry : Text × Value) :
    ((readProfile entry.1 entry.2).toOption.map fun l => (entry.1, l)) = profile? entry := by
  unfold readProfile profile?
  split
  · rfl
  · cases Layout.ofValue entry.2 <;> rfl

theorem rejected?_readProfile (entry : Text × Value) :
    Warning.rejected? (readProfile entry.1 entry.2) =
      (Item.profile entry.1 entry.2).rejection? := by
  unfold readProfile
  rw [Item.rejection?]
  split
  · rfl
  · cases Layout.ofValue entry.2 <;> rfl

theorem readProfiles_eq (t : Toml.Table) :
    readProfiles t =
      ((profileEntries t).filterMap profile?,
        (((t.find? ("profiles" : Text)).map Item.profiles).toList ++
          (profileEntries t).map fun entry => Item.profile entry.1 entry.2).filterMap
            Item.rejection?) := by
  unfold readProfiles profileEntries
  cases t.find? ("profiles" : Text) with
  | none => rfl
  | some v =>
      cases v with
      | table entries =>
          simp only [Warning.readEach_eq, toOption_readProfile, rejected?_readProfile,
            List.filterMap_append, List.filterMap_map, Option.map_some]
          rfl
      | _ => rfl

theorem ofTable_eq (t : Toml.Table) (env : Environment) :
    (ofTable t).1.override env = said t env ∧
      (ofTable t).2 = (items t).filterMap Item.rejection? := by
  have htext := setting_eq t "default_profile" .text text? Screen.smallName fun _ => rfl
  have hlogging := setting_eq t "debug_logging" .flag bool? false fun _ => rfl
  have hlayouts := setting_eq t "restore_layouts" .flag bool? true fun _ => rfl
  simp only [Kind.name] at htext hlogging hlayouts
  simp only [ofTable, htext, hlogging, hlayouts, readProfiles_eq, items, List.filterMap_append,
    List.append_assoc]
  exact ⟨rfl, trivial⟩

/-- Nothing is quoted but the value of a setting. -/
theorem Item.hasWords_eq_false_iff {item : Item} {w : Warning} (h : item.rejection? = some w) :
    w.hasWords = false ↔ item.Unsayable := by
  cases item with
  | setting key kind v =>
      rw [rejection?] at h
      split at h
      · cases h
      · next hkind =>
          obtain rfl := Option.some.inj h
          rw [Unsayable, and_iff_right (Bool.not_eq_true _ ▸ hkind)]
          simp [Warning.hasWords]
  | profiles v =>
      refine iff_of_false ?_ id
      cases v <;> cases h <;> simp [Warning.hasWords]
  | profile name v =>
      refine iff_of_false ?_ id
      rw [rejection?] at h
      split at h
      · obtain rfl := Option.some.inj h
        simp [Warning.hasWords]
      · cases hvalue : Layout.ofValue v with
        | ok l => simp [hvalue] at h
        | error why =>
            obtain rfl : Warning.profileIgnored name why = w := by simpa [hvalue] using h
            simp [Warning.hasWords]

theorem hasWords_of_sayable {before : List Item} (h : ∀ item ∈ before, ¬ item.Unsayable) :
    ∀ w ∈ before.filterMap Item.rejection?, w.hasWords = true := by
  intro w hw
  obtain ⟨item, hitem, hrejected⟩ := List.mem_filterMap.mp hw
  rw [← Bool.not_eq_false, Item.hasWords_eq_false_iff hrejected]
  exact h item hitem

theorem load_of_content (h : doc.read Toml.read = .ok (.content t)) (env : Environment) :
    load doc env = Access.warned (said t env) ((items t).filterMap Item.rejection?) := by
  obtain ⟨hsaid, hwarned⟩ := ofTable_eq t env
  have hread : ofDocument doc = Access.warned (ofTable t).1 (ofTable t).2 := by
    change (Access.ofExcept (doc.read Toml.read)).andThen _ = _
    rw [h]
    rfl
  change (ofDocument doc).andThen _ = _
  rw [hread, ← hsaid, ← hwarned, Access.warned, Access.warned]
  split <;> simp [Access.andThen, pure]

theorem load_of_sayable (h : doc.read Toml.read = .ok (.content t)) (env : Environment)
    (hitems : ∀ item ∈ items t, ¬ item.Unsayable) :
    load doc env = ⟨.ok (said t env), (items t).filterMap Item.rejection?⟩ := by
  rw [load_of_content h, Access.warned,
    if_pos (List.all_eq_true.mpr (hasWords_of_sayable hitems))]

/-- The first item that cannot be said ends the loading. -/
theorem load_of_unsayable (h : doc.read Toml.read = .ok (.content t)) (env : Environment)
    {before after : List Item} {item : Item} (hitems : items t = before ++ item :: after)
    (hbefore : ∀ other ∈ before, ¬ other.Unsayable) (hitem : item.Unsayable) :
    load doc env = ⟨.error (.longInteger none), before.filterMap Item.rejection?⟩ := by
  obtain ⟨w, hw⟩ : ∃ w, item.rejection? = some w := by
    cases item with
    | setting key kind v => exact ⟨_, if_neg (Bool.eq_false_iff.mp hitem.1)⟩
    | profiles | profile => exact hitem.elim
  have hwords : w.hasWords = false := (Item.hasWords_eq_false_iff hw).mpr hitem
  have hrejections : (items t).filterMap Item.rejection? =
      before.filterMap Item.rejection? ++ w :: after.filterMap Item.rejection? := by
    rw [hitems, List.filterMap_append, List.filterMap_cons_some hw]
  have hsome : ((items t).filterMap Item.rejection?).all Warning.hasWords = false := by
    rw [hrejections, List.all_append, List.all_cons, hwords, Bool.false_and, Bool.and_false]
  rw [load_of_content h, Access.warned, if_neg (Bool.eq_false_iff.mp hsome), hrejections,
    List.takeWhile_append_of_pos (hasWords_of_sayable hbefore),
    List.takeWhile_cons_of_neg (Bool.eq_false_iff.mp hwords), List.append_nil]

theorem eq_said_of_load (h : doc.read Toml.read = .ok (.content t)) {c : Config Ratio}
    (hload : (load doc env).outcome = .ok c) : c = said t env := by
  rw [load_of_content h, Access.outcome_warned_eq_ok_iff] at hload
  exact hload.2.symm

theorem sharesEntries_said (t t' : Toml.Table) (env env' : Environment) :
    SharesEntries t t' env env' (said t env) (said t' env') where
  defaultProfile hkey hvariable := by rw [said, said, hkey, hvariable]
  debugLogging hkey hvariable := by rw [said, said, hkey, hvariable]
  restoreLayouts hkey hvariable := by rw [said, said, hkey, hvariable]
  profiles hentries := by rw [said, said, hentries]

/-- A setting that is an integer too long to be quoted is an error that nothing catches, though the
file is in its format and every setting has a default. -/
theorem long_setting_not_caught :
    let doc : Document :=
      .text (String.ofList ("default_profile = 0x1".toList ++ List.replicate 3572 '0'))
    doc.read Toml.read = .ok (.content [("default_profile", .int (16 ^ 3572))]) ∧
      load doc .empty = ⟨.error (.longInteger none), []⟩ := by
  intro doc
  have hread : Toml.read (String.ofList ("default_profile = 0x1".toList ++
      List.replicate 3572 '0')) = .ok [("default_profile", .int (16 ^ 3572))] :=
    (Toml.read_ofList _).trans (by decide +kernel)
  have hdoc : doc.read Toml.read = .ok (.content [("default_profile", .int (16 ^ 3572))]) := by
    rw [Document.read, hread]
  have hlong : Value.hasLongInteger (.int (16 ^ 3572)) = true := by decide +kernel
  have hitems : items [("default_profile", .int (16 ^ 3572))] =
      [] ++ .setting "default_profile" .text (.int (16 ^ 3572)) :: [] := rfl
  exact ⟨hdoc, load_of_unsayable hdoc .empty hitems (List.forall_mem_nil _) ⟨rfl, hlong⟩⟩

end Config

namespace Store

/-- The saved layout of an entry, if it has the shape of one. -/
def saved? (entry : Text × Value) : Option (Text × Layout Ratio) :=
  (Layout.ofValue entry.2).toOption.map fun l => (entry.1, l)

/-- What is said of an entry without the shape of a layout. -/
def rejection? (entry : Text × Value) : Option Warning :=
  match Layout.ofValue entry.2 with
  | .ok _ => none
  | .error why => some (.savedSkipped entry.1 why)

theorem toOption_readSaved (entry : Text × Value) :
    ((readSaved entry.1 entry.2).toOption.map fun l => (entry.1, l)) = saved? entry := by
  unfold readSaved saved?
  cases Layout.ofValue entry.2 <;> rfl

theorem rejected?_readSaved (entry : Text × Value) :
    Warning.rejected? (readSaved entry.1 entry.2) = rejection? entry := by
  unfold readSaved rejection?
  cases Layout.ofValue entry.2 <;> rfl

theorem load_of_content {doc : Document} {found : Assoc Text Value}
    (h : doc.read Json.read = .ok (.content (.table found))) :
    load doc = ⟨.ok (found.filterMap saved?), found.filterMap rejection?⟩ := by
  have hread : Warning.readEach readSaved found =
      (found.filterMap saved?, found.filterMap rejection?) := by
    simp only [Warning.readEach_eq, toOption_readSaved, rejected?_readSaved]
  have hwords : ∀ w ∈ found.filterMap rejection?, w.hasWords = true := by
    intro w hw
    obtain ⟨entry, -, hrejected⟩ := List.mem_filterMap.mp hw
    rw [rejection?] at hrejected
    cases hvalue : Layout.ofValue entry.2 with
    | ok l => simp [hvalue] at hrejected
    | error why =>
        obtain rfl : Warning.savedSkipped entry.1 why = w := by simpa [hvalue] using hrejected
        rfl
  have hentries : entries doc = ⟨.ok found, []⟩ := by
    change (Access.ofExcept (doc.read Json.read)).andThen _ = _
    rw [h]
    rfl
  change (entries doc).andThen _ = _
  simp only [hentries, Access.andThen, hread, Access.warned,
    if_pos (List.all_eq_true.mpr hwords), List.nil_append]

end Store

/-- Every setting is read from its own variable and key, every profile and every saved layout from
its own entry, whatever else the file holds; each item that is rejected is warned about once, in the
order of the items. A store is always loaded. Settings are loaded up to the first one that is
rejected and cannot be quoted. -/
theorem entries_read_apart (doc store : Document) (t : Toml.Table) (env : Environment)
    (found : Assoc Text Value) :
    (doc.read Toml.read = .ok (.content t) →
      ((∀ item ∈ Config.items t, ¬ item.Unsayable) →
        Config.load doc env =
          ⟨.ok (Config.said t env), (Config.items t).filterMap Config.Item.rejection?⟩) ∧
      (∀ before item after, Config.items t = before ++ item :: after →
        (∀ other ∈ before, ¬ other.Unsayable) → item.Unsayable →
          Config.load doc env =
            ⟨.error (.longInteger none), before.filterMap Config.Item.rejection?⟩) ∧
      ∀ (doc' : Document) (t' : Toml.Table) (env' : Environment) (c c' : Config Ratio),
        doc'.read Toml.read = .ok (.content t') → (Config.load doc env).outcome = .ok c →
          (Config.load doc' env').outcome = .ok c' → Config.SharesEntries t t' env env' c c') ∧
    (store.read Json.read = .ok (.content (.table found)) →
      Store.load store =
        ⟨.ok (found.filterMap Store.saved?), found.filterMap Store.rejection?⟩) := by
  refine ⟨fun h => ⟨Config.load_of_sayable h env, ?_, ?_⟩, Store.load_of_content⟩
  · exact fun before item after hitems => Config.load_of_unsayable h env hitems
  · intro doc' t' env' c c' h' hload hload'
    rw [Config.eq_said_of_load h hload, Config.eq_said_of_load h' hload']
    exact Config.sharesEntries_said t t' env env'

def mixedText : String :=
  "default_profile = 3\n[profiles.a]\nview = \"trace\"\n[profiles.b]\n[profiles.small]\n"

def mixedTable : Toml.Table :=
  [("default_profile", .int 3), ("profiles", .table
    [("a", .table [("view", .text "trace")]), ("b", .table []), ("small", .table [])])]

/-- A setting of another kind and two bad profiles beside a good one, and a bad entry in a store before
a good one. -/
theorem entries_read_apart_mixed :
    let saved : Assoc Text Value := [("a", .int 5), ("small", .table [("view", .text "memory")])]
    let c := Config.load (.text mixedText) .empty
    let s := Store.load (.text (Json.write (.table saved)).text)
    c.outcome = .ok ⟨"small", false, true, [("a", .pane (.kind .trace) false)]⟩ ∧
      c.warnings.map Warning.message =
        ["Ignoring default_profile = 3: expected str",
          "Ignoring invalid profile 'b': layout node needs either 'view' or 'split'",
          "Ignoring profile 'small': name is reserved for a built-in profile"] ∧
      s.outcome = .ok [("small", .pane (.kind .memory) false)] ∧
      s.warnings.map Warning.message =
        ["Skipping saved layout 'a': layout node must be a table, got int"] := by
  intro saved c s
  have hread : Toml.read mixedText = .ok mixedTable :=
    (Toml.read_ofList _).trans rfl
  have hdoc : (Document.text mixedText).read Toml.read = .ok (.content mixedTable) := by
    rw [Document.read, hread]
  have hsayable : ∀ item ∈ Config.items mixedTable, ¬ item.Unsayable := by decide +kernel
  have hplain : (Value.table saved).Plain := Value.plain_of_isPlain (by decide +kernel)
  have hsaved : (Document.text (Json.write (.table saved)).text).read Json.read =
      .ok (.content (.table saved)) := by
    rw [Document.read, hplain.readsBack.2]
  obtain ⟨hconfig, hstore⟩ := entries_read_apart (.text mixedText)
    (.text (Json.write (.table saved)).text) mixedTable .empty saved
  have hc : c = _ := (hconfig hdoc).1 hsayable
  have hs : s = _ := hstore hsaved
  rw [hc, hs]
  decide +kernel

end SplitScreen
