import SplitScreen.Proofs.Store
import SplitScreen.Proofs.Toml.Keys

namespace SplitScreen

namespace Toml

/-- What is written of a table is read as that table. -/
def ReadsBack (t : Table) : Prop := (write t).fault = none ∧ read (write t).text = .ok t

theorem read_ofList (cs : List Char) :
    read (String.ofList cs) =
      (statements ((joinBreaks cs).length + 1) .empty (joinBreaks cs)).map Draft.table := by
  simp only [read, String.toList_ofList]
  cases statements ((joinBreaks cs).length + 1) .empty (joinBreaks cs) <;> rfl

theorem append_eq_ofList {s t : String} {cs ds : List Char} (hs : s = String.ofList cs)
    (ht : t = String.ofList ds) : s ++ t = String.ofList (cs ++ ds) := by
  rw [hs, ht, String.ofList_append]

/-- The table that a document holds; an empty one if it holds none. -/
def tableOf (doc : Document) : Table :=
  match doc.read read with
  | .ok (.content t) => t
  | _ => []

theorem keyed_tableOf (doc : Document) : (Value.table (tableOf doc)).Keyed := by
  unfold tableOf
  split
  · next h =>
      obtain ⟨s, -, hread⟩ := Document.exists_of_read h
      exact keyed_of_read hread
  · exact keyed_empty

theorem tableOf_text {s : String} {t : Table} (h : read s = .ok t) : tableOf (.text s) = t := by
  simp only [tableOf, Document.read, h]

end Toml

namespace Warning

variable {α : Type} {read : Text → Value → Except Warning α}

theorem exists_of_mem_readEach {entries : List (Text × Value)} {entry : Text × α}
    (h : entry ∈ (readEach read entries).1) :
    ∃ v, (entry.1, v) ∈ entries ∧ read entry.1 v = .ok entry.2 := by
  induction entries with
  | nil => cases h
  | cons first rest ih =>
      obtain ⟨name, v⟩ := first
      rw [readEach] at h
      cases hread : read name v with
      | error warning =>
          simp only [hread] at h
          obtain ⟨w, hw, hentry⟩ := ih h
          exact ⟨w, List.mem_cons_of_mem _ hw, hentry⟩
      | ok a =>
          simp only [hread] at h
          rcases List.mem_cons.mp h with rfl | h
          · exact ⟨v, List.mem_cons_self, hread⟩
          · obtain ⟨w, hw, hentry⟩ := ih h
            exact ⟨w, List.mem_cons_of_mem _ hw, hentry⟩

/-- Of what is written of some items, those that can be read again are read in order, and a warning
is given for each of the others. -/
theorem readEach_map {β : Type} {f : β → Value} {g : β → α} {keeps : Text × β → Bool}
    {warning : Text × β → Warning} {items : List (Text × β)}
    (hkept : ∀ item ∈ items, keeps item = true → read item.1 (f item.2) = .ok (g item.2))
    (hlost : ∀ item ∈ items, keeps item = false → read item.1 (f item.2) = .error (warning item)) :
    readEach read (items.map fun item => (item.1, f item.2)) =
      ((items.filter keeps).map fun item => (item.1, g item.2),
        (items.filter fun item => !keeps item).map warning) := by
  induction items with
  | nil => rfl
  | cons item rest ih =>
      obtain ⟨hitem, hrest⟩ := List.forall_mem_cons.mp hkept
      obtain ⟨hitem', hrest'⟩ := List.forall_mem_cons.mp hlost
      rw [List.map_cons, readEach, ih hrest hrest', List.filter_cons, List.filter_cons]
      cases hkeeps : keeps item with
      | true =>
          simp only [hitem hkeeps]
          rfl
      | false =>
          simp only [hitem' hkeeps]
          rfl

end Warning

namespace Config

variable {doc : Document} {env : Environment} {t : Toml.Table} {c : Config Ratio} {name : Text}
  {v : Value} {l : Layout Ratio}

/-- The profiles have different names that are free for users, and views that come back. -/
structure Sound (c : Config Ratio) : Prop where
  nodup : c.profiles.keys.Nodup
  free {entry : Text × Layout Ratio} (h : entry ∈ c.profiles) : entry.1 ∉ Screen.builtin
  storable {entry : Text × Layout Ratio} (h : entry ∈ c.profiles) :
    ∀ view ∈ entry.2.views, view.Storable

theorem Sound.of_profiles {d : Config Ratio} (h : c.Sound) (hd : d.profiles = c.profiles) :
    d.Sound := by
  constructor
  · rw [hd]
    exact h.nodup
  · rw [hd]
    exact h.free
  · rw [hd]
    exact h.storable

theorem Sound.override (h : c.Sound) (env : Environment) : (c.override env).Sound :=
  h.of_profiles rfl

@[simp] theorem override_empty (c : Config Ratio) : c.override .empty = c := rfl

theorem readProfile_eq_ok_iff :
    readProfile name v = .ok l ↔ name ∉ Screen.builtin ∧ Layout.ofValue v = .ok l := by
  unfold readProfile
  split
  · next hname =>
      constructor
      · nofun
      · exact fun h => absurd hname h.1
  · next hname => rw [mapError_eq_ok_iff, and_iff_right hname]

/-- The entries for profiles in the table of a file, of whatever shape. -/
def profileEntries (t : Toml.Table) : Assoc Text Value :=
  match t.find? ("profiles" : Text) with
  | some (.table entries) => entries
  | _ => []

theorem nodup_keys_profileEntries (ht : (Value.table t).Keyed) : (profileEntries t).keys.Nodup := by
  unfold profileEntries
  split
  · next h => exact Toml.nodup_of_keyed (Toml.keyed_of_find? ht h)
  · exact List.nodup_nil

theorem profiles_ofTable (t : Toml.Table) :
    (ofTable t).1.profiles = (Warning.readEach readProfile (profileEntries t)).1 := by
  change (readProfiles t).1 = _
  unfold readProfiles profileEntries
  cases t.find? ("profiles" : Text) with
  | none => rfl
  | some v => cases v <;> rfl

theorem sound_ofTable (ht : (Value.table t).Keyed) : (ofTable t).1.Sound := by
  have hread {entry : Text × Layout Ratio} (h : entry ∈ (ofTable t).1.profiles) :
      entry.1 ∉ Screen.builtin ∧ ∀ view ∈ entry.2.views, view.Storable := by
    rw [profiles_ofTable] at h
    obtain ⟨v, -, hread⟩ := Warning.exists_of_mem_readEach h
    obtain ⟨hname, hvalue⟩ := readProfile_eq_ok_iff.mp hread
    exact ⟨hname, Layout.storable_of_ofValue hvalue⟩
  refine ⟨?_, fun h => (hread h).1, fun h => (hread h).2⟩
  rw [profiles_ofTable]
  exact (Warning.keys_readEach _).nodup (nodup_keys_profileEntries ht)

/-- A file that is read says what its table says, if every warning has words. -/
theorem ofDocument_eq_ok_iff :
    (ofDocument doc).outcome = .ok c ↔ (∃ reading, doc.read Toml.read = .ok reading) ∧
      (∀ w ∈ (ofTable (Toml.tableOf doc)).2, w.hasWords = true) ∧
        (ofTable (Toml.tableOf doc)).1 = c := by
  have hnone : (Access.warned default []).outcome = .ok c ↔
      (∀ w ∈ ([] : List Warning), w.hasWords = true) ∧ default = c :=
    Access.outcome_warned_eq_ok_iff
  rw [ofDocument, Access.outcome_bind, Toml.tableOf]
  cases doc.read Toml.read with
  | error fault =>
      constructor
      · nofun
      · rintro ⟨⟨reading, hreading⟩, -⟩
        cases hreading
  | ok reading =>
      rw [and_iff_right ⟨reading, rfl⟩]
      cases reading with
      | content t => exact Access.outcome_warned_eq_ok_iff
      | absent => exact hnone
      | failed => exact hnone

theorem outcome_load (doc : Document) (env : Environment) :
    (load doc env).outcome = (ofDocument doc).outcome.map fun c => c.override env := by
  rw [load, Access.outcome_bind]
  cases (ofDocument doc).outcome with
  | error fault => rfl
  | ok c => rfl

theorem load_text {s : String} (hread : Toml.read s = .ok t)
    (hwords : ∀ w ∈ (ofTable t).2, w.hasWords = true) (env : Environment) :
    (load (.text s) env).outcome = .ok ((ofTable t).1.override env) := by
  have hsaid : (ofDocument (.text s)).outcome = .ok (ofTable t).1 := by
    rw [ofDocument_eq_ok_iff, Toml.tableOf_text hread]
    refine ⟨⟨.content t, ?_⟩, hwords, rfl⟩
    rw [Document.read, hread]
  rw [outcome_load, hsaid]
  rfl

theorem load_eq_of_ofTable {s : String} (hread : Toml.read s = .ok t)
    (hsaid : (ofTable t).2.all Warning.hasWords = true ∧ (ofTable t).1 = c) :
    (load (.text s) .empty).outcome = .ok c := by
  rw [load_text hread (List.all_eq_true.mp hsaid.1), hsaid.2, override_empty]

theorem ofTable_profiles (entries : List (Text × Value)) :
    ofTable [("profiles", .table entries)] =
      ({ (Config.default : Config Ratio) with
          profiles := (Warning.readEach readProfile entries).1 },
        (Warning.readEach readProfile entries).2) :=
  rfl

theorem load_profile {s : String} {name : Text} {v : Value} {l : Layout Ratio}
    (hread : Toml.read s = .ok [("profiles", .table [(name, v)])])
    (hprofile : readProfile name v = .ok l) :
    (load (.text s) .empty).outcome =
      .ok { (Config.default : Config Ratio) with profiles := [(name, l)] } := by
  refine load_eq_of_ofTable hread ?_
  rw [ofTable_profiles, Warning.readEach, hprofile]
  exact ⟨rfl, rfl⟩

/-- The settings of the environment are put over what the file says. -/
theorem load_of_load_empty (h : (load doc .empty).outcome = .ok c) (env : Environment) :
    (load doc env).outcome = .ok (c.override env) := by
  rw [outcome_load] at h ⊢
  obtain ⟨said, hsaid, rfl⟩ := exists_of_map h
  rw [hsaid]
  rfl

theorem eq_of_load (h : (load doc env).outcome = .ok c) :
    c = (ofTable (Toml.tableOf doc)).1.override env := by
  rw [outcome_load] at h
  obtain ⟨said, hsaid, rfl⟩ := exists_of_map h
  rw [(ofDocument_eq_ok_iff.mp hsaid).2.2]

theorem sound_of_load (h : (load doc env).outcome = .ok c) : c.Sound := by
  rw [eq_of_load h]
  exact (sound_ofTable (Toml.keyed_tableOf doc)).override env

theorem profiles_literal (c : Config Ratio) :
    c.literal.profiles = c.profiles.map fun entry => (entry.1, entry.2.literal) := rfl

theorem find?_profiles_toTable (c : Config Value) :
    Assoc.find? ("profiles" : Text) c.toTable =
      if c.profiles.isEmpty then none
      else some (.table (c.profiles.map fun entry => (entry.1, entry.2.toValue))) := by
  unfold toTable
  split <;> rfl

theorem profileEntries_toTable (c : Config Ratio) :
    profileEntries c.literal.toTable =
      c.profiles.map fun entry => (entry.1, entry.2.literal.toValue) := by
  rw [profileEntries, find?_profiles_toTable, profiles_literal, List.isEmpty_map, List.map_map]
  by_cases hempty : c.profiles.isEmpty = true
  · rw [if_pos hempty, List.isEmpty_iff.mp hempty]
    rfl
  · rw [if_neg hempty]
    rfl

/-- A profile comes back from a file: its name is free for users, and its views have names. -/
def Returns (entry : Text × Layout Ratio) : Prop :=
  entry.1 ∉ Screen.builtin ∧ View.custom "" ∉ entry.2.views

instance : DecidablePred Returns := fun entry =>
  inferInstanceAs (Decidable (entry.1 ∉ Screen.builtin ∧ View.custom "" ∉ entry.2.views))

/-- What comes back of a configuration: the profiles that do, each with the views that are read under
the names of its own. -/
def reloaded (c : Config Ratio) : Config Ratio :=
  { c with
    profiles := (c.profiles.filter fun entry => decide (Returns entry)).map fun entry =>
      (entry.1, entry.2.mapView fun v => View.ofName v.name) }

/-- What is said of a profile that does not come back. -/
def loss (entry : Text × Layout Ratio) : Warning :=
  if entry.1 ∈ Screen.builtin then .profileReserved entry.1
  else .profileIgnored entry.1 (.invalidView (.text ""))

def losses (c : Config Ratio) : List Warning :=
  (c.profiles.filter fun entry => !decide (Returns entry)).map loss

theorem readProfile_of_returns {entry : Text × Layout Ratio} (h : Returns entry) :
    readProfile entry.1 entry.2.literal.toValue =
      .ok (entry.2.mapView fun v => View.ofName v.name) := by
  refine readProfile_eq_ok_iff.mpr ⟨h.1, Layout.ofValue_toValue fun v hv => ?_⟩
  rw [← Bool.not_eq_true, View.isEmpty_name_iff]
  rintro rfl
  exact h.2 hv

theorem readProfile_of_not_returns {entry : Text × Layout Ratio} (h : ¬ Returns entry) :
    readProfile entry.1 entry.2.literal.toValue = .error (loss entry) := by
  unfold readProfile loss
  split
  · rfl
  · next hname =>
      have hview : View.custom "" ∈ entry.2.views := not_not.mp fun hview => h ⟨hname, hview⟩
      rw [Layout.ofValue_toValue_of_unnamed hview]
      rfl

theorem readProfiles_toTable (c : Config Ratio) :
    readProfiles c.literal.toTable = (c.reloaded.profiles, c.losses) := by
  unfold readProfiles
  rw [find?_profiles_toTable, profiles_literal, List.isEmpty_map, List.map_map]
  by_cases hempty : c.profiles.isEmpty = true
  · rw [if_pos hempty, reloaded, losses, List.isEmpty_iff.mp hempty]
    rfl
  · rw [if_neg hempty]
    apply Warning.readEach_map (f := fun l : Layout Ratio => l.literal.toValue)
    · exact fun entry _ hkept => readProfile_of_returns (of_decide_eq_true hkept)
    · exact fun entry _ hlost => readProfile_of_not_returns (of_decide_eq_false hlost)

theorem ofTable_toTable (c : Config Ratio) : ofTable c.literal.toTable = (c.reloaded, c.losses) := by
  unfold ofTable
  rw [readProfiles_toTable]
  rfl

theorem hasWords_of_mem_losses {w : Warning} (hw : w ∈ c.losses) : w.hasWords = true := by
  obtain ⟨entry, -, rfl⟩ := List.mem_map.mp hw
  unfold loss
  split <;> rfl

/-- A configuration that is written is loaded as what comes back of it, with the settings of the
environment. -/
theorem load_reloaded (hwrite : Toml.ReadsBack c.literal.toTable) (env : Environment) :
    load (.text (Toml.write c.literal.toTable).text) env =
      ⟨.ok (c.reloaded.override env), c.losses⟩ := by
  have hwords : c.losses.all Warning.hasWords = true :=
    List.all_eq_true.mpr fun _ => hasWords_of_mem_losses
  have hsaid : ofDocument (.text (Toml.write c.literal.toTable).text) =
      ⟨.ok c.reloaded, c.losses⟩ := by
    change (Access.ofExcept (Document.read Toml.read _)).andThen _ = _
    rw [Document.read, hwrite.2]
    simp only [Access.ofExcept, Access.andThen, ofTable_toTable, Access.warned, hwords, if_true,
      List.nil_append]
  change (ofDocument _).andThen _ = _
  rw [hsaid]
  simp only [Access.andThen, pure, List.append_nil]

theorem returns_of_storable {entry : Text × Layout Ratio} (hname : entry.1 ∉ Screen.builtin)
    (hviews : ∀ v ∈ entry.2.views, v.Storable) : Returns entry :=
  ⟨hname, fun hview => (View.storable_iff.mp (hviews _ hview)).1 rfl⟩

/-- All of a configuration comes back if its profiles have names that are free for users and views
that come back. -/
theorem reloaded_eq_self (hfree : ∀ entry ∈ c.profiles, entry.1 ∉ Screen.builtin)
    (hviews : ∀ entry ∈ c.profiles, ∀ v ∈ entry.2.views, v.Storable) : c.reloaded = c := by
  have hkept : (c.profiles.filter fun entry => decide (Returns entry)) = c.profiles :=
    List.filter_eq_self.mpr fun entry hentry =>
      decide_eq_true (returns_of_storable (hfree entry hentry) (hviews entry hentry))
  have hsame : (c.profiles.map fun entry =>
      (entry.1, entry.2.mapView fun v => View.ofName v.name)) = c.profiles := by
    refine (List.map_congr_left fun entry hentry => ?_).trans (List.map_id _)
    rw [Layout.mapView_eq_self fun v hv => (hviews entry hentry v hv).ofName_name]
    rfl
  rw [reloaded, hkept, hsame]

/-- A configuration in good order that is written is loaded again, with the settings of the
environment. -/
theorem load_written (hc : c.Sound) (hwrite : Toml.ReadsBack c.literal.toTable)
    (env : Environment) :
    (load (.text (Toml.write c.literal.toTable).text) env).outcome = .ok (c.override env) := by
  have hsame : c.reloaded = c :=
    reloaded_eq_self (fun _ hentry => hc.free hentry) fun _ hentry => hc.storable hentry
  rw [load_reloaded hwrite, hsame]

theorem isWritable_literal (c : Config Ratio) :
    (c.literal.profiles.all fun entry => entry.2.isWritable) = true := by
  simp [profiles_literal, List.all_eq_true]

theorem save_eq (hdoc : doc ≠ .directory) :
    c.literal.save doc = (Toml.write c.literal.toTable).outcome := by
  unfold save
  rw [if_pos c.isWritable_literal]
  split
  · exact absurd rfl hdoc
  · rfl

theorem of_save_eq_ok (h : (c.literal.save doc).1 = .ok ()) :
    doc ≠ .directory ∧ (Toml.write c.literal.toTable).fault = none := by
  have hdoc : doc ≠ .directory := by
    rintro rfl
    rw [save, if_pos c.isWritable_literal] at h
    cases h
  refine ⟨hdoc, ?_⟩
  rw [save_eq hdoc, Written.outcome] at h
  cases hfault : (Toml.write c.literal.toTable).fault with
  | none => rfl
  | some fault =>
      rw [hfault] at h
      cases h

end Config

end SplitScreen
