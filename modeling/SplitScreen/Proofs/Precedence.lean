import SplitScreen.Proofs.Fallback
import SplitScreen.Proofs.Restart
import SplitScreen.Value

namespace SplitScreen

namespace Screen

def preset (name : Text) : Option (Layout Ratio) :=
  if name = smallName then some .small
  else if name = largeName then some .large
  else none

theorem preset_eq_none_iff {name : Text} : preset name = none ↔ name ∉ builtin := by
  unfold preset builtin
  split
  · next h => simp [h]
  · next hsmall =>
      split
      · next h => simp [h]
      · next hlarge => simp [hsmall, hlarge]

theorem find?_initial (name : Text) :
    initial.profiles.find? name = (preset name).map fun l => Profile.ofLayout l := by
  unfold preset
  split
  · next h =>
      subst h
      rfl
  · next hsmall =>
      split
      · next h =>
          subst h
          rfl
      · next hlarge =>
          simp [initial, addProfile, Assoc.find?_insert, Ne.symm hsmall, Ne.symm hlarge]

end Screen

namespace Store

variable {doc : Document} {layouts : Assoc Text (Layout Ratio)}

def tableOf (doc : Document) : Assoc Text Value :=
  match (entries doc).outcome with
  | .ok found => found
  | .error _ => []

theorem tableOf_text {s : String} {found : Assoc Text Value}
    (h : Json.read s = .ok (.table found)) : tableOf (.text s) = found := by
  rw [tableOf, entries_text h]

/-- The layout that is saved under a name, if there is an entry that is one. -/
def layoutAt (doc : Document) (name : Text) : Option (Layout Ratio) :=
  ((tableOf doc).find? name).bind fun v => (Layout.ofValue v).toOption

theorem find?_of_load (h : (load doc).outcome = .ok layouts) :
    layouts.keys.Nodup ∧ ∀ name, layouts.find? name = layoutAt doc name := by
  obtain ⟨found, hfound⟩ := exists_entries_iff.mpr (exists_load_iff.mp ⟨layouts, h⟩)
  obtain ⟨layouts', hload, hnodup, hfind⟩ := find?_load hfound (nodup_keys_of_entries hfound)
  obtain rfl : layouts = layouts' := Except.ok.inj (h.symm.trans hload)
  refine ⟨hnodup, fun name => ?_⟩
  rw [hfind, layoutAt, tableOf, hfound]

end Store

namespace Startup

variable {c : Config Ratio} {doc : Document} {env : Environment} {store : Option Document}
  {profile : Option Text} {layouts : Assoc Text (Layout Ratio)} {name : Text}

/-- The store that a run looks at. It looks at none if it is not to restore any layouts. -/
def consulted (c : Config Ratio) (store : Option Document) : Document :=
  if c.restoreLayouts then store.getD .missing else .missing

/-- The layout under a name, from the first place that has one: the store, the settings, and the
built-in profiles. -/
def layoutFor (c : Config Ratio) (store : Option Document) (name : Text) : Option (Layout Ratio) :=
  ((Store.layoutAt (consulted c store) name).or (c.profiles.find? name)).or (Screen.preset name)

theorem layoutFor_eq_none_iff : layoutFor c store name = none ↔
    name ∉ Screen.builtin ∧ name ∉ c.profiles.keys ∧
      Store.layoutAt (consulted c store) name = none := by
  have hprofiles : c.profiles.find? name = none ↔ name ∉ c.profiles.keys := by
    rw [Assoc.mem_keys_iff_find?, Option.not_isSome_iff_eq_none]
  rw [layoutFor, Option.or_eq_none_iff, Option.or_eq_none_iff, Screen.preset_eq_none_iff, hprofiles]
  tauto

theorem outcome_saved (c : Config Ratio) (store : Option Document) :
    (saved c store).outcome = (Store.load (consulted c store)).outcome := by
  unfold saved consulted
  cases store with
  | none => cases c.restoreLayouts <;> rfl
  | some doc => cases c.restoreLayouts <;> rfl

theorem exists_saved_iff : (∃ layouts, (saved c store).outcome = .ok layouts) ↔
    ¬ (consulted c store).Unreadable Json.read := by
  rw [outcome_saved]
  exact Store.exists_load_iff

/-- What a screen is made of has under each name the saved layout, else that of the settings. -/
theorem find?_insertAll_saved (hlayouts : (saved c store).outcome = .ok layouts) (name : Text) :
    (c.profiles.insertAll layouts).find? name =
      (Store.layoutAt (consulted c store) name).or (c.profiles.find? name) := by
  obtain ⟨hnodup, hfind⟩ := Store.find?_of_load (outcome_saved c store ▸ hlayouts)
  rw [Assoc.find?_insertAll hnodup, hfind]

theorem find?_screen (hc : c.profiles.keys.Nodup)
    (hlayouts : (saved c store).outcome = .ok layouts) {s : Screen}
    (hs : screen c layouts profile = .ok s) (name : Text) :
    s.profiles.find? name = (layoutFor c store name).map fun l => Profile.ofLayout l := by
  rw [Screen.find?_ofProfiles (Assoc.nodup_keys_insertAll hc layouts) hs,
    find?_insertAll_saved hlayouts, Screen.find?_initial, layoutFor]
  cases (Store.layoutAt (consulted c store) name).or (c.profiles.find? name) <;> rfl

theorem screen_eq_error_iff (hc : c.profiles.keys.Nodup)
    (hlayouts : (saved c store).outcome = .ok layouts) {r : Refusal} :
    screen c layouts profile = .error r ↔
      r = .noProfile (chosen c profile) ∧ layoutFor c store (chosen c profile) = none := by
  have hkeys : chosen c profile ∉ (c.profiles.insertAll layouts).keys ↔
      (Store.layoutAt (consulted c store) (chosen c profile)).or
        (c.profiles.find? (chosen c profile)) = none := by
    rw [Assoc.mem_keys_iff_find?, find?_insertAll_saved hlayouts, Option.not_isSome_iff_eq_none]
  rw [screen, Screen.ofProfiles_eq_error_iff (Assoc.nodup_keys_insertAll hc layouts), hkeys,
    layoutFor, ← Screen.preset_eq_none_iff]
  refine and_congr_right fun _ => ?_
  rw [Option.or_eq_none_iff (o := (Store.layoutAt _ _).or _), and_comm]

/-- With settings that were loaded a run gets its layouts from every store that can be read at all.
Then it is refused exactly when no place has a layout under the name that it starts with, and else
it starts with the profile of that name, and with the layout of the first place that has one under
every name. No layout is refused: the screen would be the same if the ratios were checked again. -/
theorem start_resolves (hload : (Config.load doc env).outcome = .ok c) (store : Option Document)
    (profile : Option Text) :
    ((∃ layouts, (saved c store).outcome = .ok layouts) ↔
        ¬ (consulted c store).Unreadable Json.read) ∧
      ∀ layouts, (saved c store).outcome = .ok layouts →
        Screen.ofLiterals (Store.literals (c.profiles.insertAll layouts)) (chosen c profile) =
          (screen c layouts profile).mapError .refused ∧
        (∀ r, screen c layouts profile = .error r ↔ r = .noProfile (chosen c profile) ∧
          chosen c profile ∉ Screen.builtin ∧ chosen c profile ∉ c.profiles.keys ∧
            Store.layoutAt (consulted c store) (chosen c profile) = none) ∧
        ∀ s, screen c layouts profile = .ok s → s.current = chosen c profile ∧
          ∀ name, s.profiles.find? name =
            (layoutFor c store name).map fun l => Profile.ofLayout l := by
  have hc := (Config.sound_of_load hload).nodup
  refine ⟨exists_saved_iff, fun layouts hlayouts => ⟨?_, fun r => ?_, fun s hs => ⟨?_, ?_⟩⟩⟩
  · exact Screen.ofLiterals_literal _ _
  · rw [screen_eq_error_iff hc hlayouts, layoutFor_eq_none_iff]
  · exact Screen.current_ofProfiles hs
  · exact find?_screen hc hlayouts hs

def layeredText : String :=
  "default_profile = \"a\"\n[profiles.a]\nview = \"trace\"\n[profiles.b]\nview = \"trace\"\n"

def layeredTable : Toml.Table :=
  [("default_profile", .text "a"),
    ("profiles", .table [("a", .table [("view", .text "trace")]),
      ("b", .table [("view", .text "trace")])])]

def layeredConfig : Config Ratio :=
  ⟨"a", false, true, [("a", .pane (.kind .trace) false), ("b", .pane (.kind .trace) false)]⟩

def layeredEntries : Assoc Text Value :=
  [("b", .table [("view", .text "stack")]), ("a", .int 5),
    ("small", .table [("view", .text "memory")])]

/-- The settings have two profiles. The store has another layout for one of them, an entry for the
other that is no layout, and a layout for a built-in one. -/
theorem start_resolves_layered :
    let store : Document := .text (Json.write (.table layeredEntries)).text
    (Config.load (.text layeredText) .empty).outcome = .ok layeredConfig ∧
      ∃ layouts s, (saved layeredConfig (some store)).outcome = .ok layouts ∧
        screen layeredConfig layouts none = .ok s ∧ s.current = "a" ∧
        s.profiles.find? ("a" : Text) = some (Profile.ofLayout (.pane (.kind .trace) false)) ∧
        s.profiles.find? ("b" : Text) = some (Profile.ofLayout (.pane (.kind .stack) false)) ∧
        s.profiles.find? Screen.smallName =
          some (Profile.ofLayout (.pane (.kind .memory) false)) ∧
        s.profiles.find? Screen.largeName = some (Profile.ofLayout .large) := by
  intro store
  have hread : Toml.read layeredText = .ok layeredTable :=
    (Toml.read_ofList _).trans rfl
  have hload : (Config.load (.text layeredText) .empty).outcome = .ok layeredConfig :=
    Config.load_eq_of_ofTable hread (by decide +kernel)
  have hplain : (Value.table layeredEntries).Plain := Value.plain_of_isPlain (by decide +kernel)
  have htable : Store.tableOf store = layeredEntries := Store.tableOf_text hplain.readsBack.2
  obtain ⟨hsaved, hscreen⟩ := start_resolves hload (some store) none
  have hreadable : ¬ store.Unreadable Json.read :=
    Store.exists_entries_iff.mp ⟨_, Store.entries_text hplain.readsBack.2⟩
  obtain ⟨layouts, hlayouts⟩ := hsaved.mpr hreadable
  obtain ⟨-, hrefused, hstarted⟩ := hscreen layouts hlayouts
  cases hs : screen layeredConfig layouts none with
  | error r =>
      obtain ⟨-, -, hname, -⟩ := (hrefused r).mp hs
      exact absurd (by decide) hname
  | ok s =>
      obtain ⟨hcurrent, hfind⟩ := hstarted s hs
      have hstore : consulted layeredConfig (some store) = store := rfl
      have hlayout (name : Text) : layoutFor layeredConfig (some store) name =
          (((layeredEntries.find? name).bind fun v => (Layout.ofValue v).toOption).or
            (layeredConfig.profiles.find? name)).or (Screen.preset name) := by
        rw [layoutFor, hstore, Store.layoutAt, htable]
      refine ⟨hload, layouts, s, hlayouts, hs, hcurrent, ?_, ?_, ?_, ?_⟩ <;>
        · rw [hfind, hlayout]
          decide +kernel

/-- An integer that is too long in the store is an error that nothing catches, though the profile to
start with is there. -/
theorem long_integer_not_caught :
    let store : Document := .text (String.ofList (Nat.toDigits 10 (10 ^ LongInteger.digitLimit)))
    (Config.load .missing .empty).outcome = .ok .default ∧
      chosen .default none ∈ Screen.builtin ∧
      (saved .default (some store)).outcome =
        .error (.longInteger (some (LongInteger.digitLimit + 1))) := by
  intro store
  have hread : Document.read Json.read store =
      .error (.longInteger (some (LongInteger.digitLimit + 1))) := by
    rw [Document.read, Json.read_of_long (Nat.le_refl _), Json.length_toDigits_pow (by decide)]
  have hentries : (Store.entries store).outcome =
      .error (.longInteger (some (LongInteger.digitLimit + 1))) := by
    rw [Store.entries, Access.outcome_bind, hread]
    rfl
  refine ⟨rfl, by decide, ?_⟩
  rw [outcome_saved]
  change (Store.load store).outcome = _
  rw [Store.load, Access.outcome_bind, hentries]
  rfl

end Startup

end SplitScreen
