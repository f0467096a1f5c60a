import SplitScreen.Proofs.Json.ReadBack
import SplitScreen.Proofs.Layout.Codec
import SplitScreen.Proofs.Screen.Valid
import SplitScreen.Store

namespace SplitScreen

namespace Access

variable {α β : Type}

theorem outcome_bind (x : Access α) (f : α → Access β) :
    (x >>= f).outcome = x.outcome >>= fun a => (f a).outcome := by
  change (x.andThen f).outcome = _
  unfold andThen
  cases x.outcome <;> rfl

theorem outcome_warned_eq_ok_iff {a b : α} {warnings : List Warning} :
    (warned a warnings).outcome = .ok b ↔ (∀ w ∈ warnings, w.hasWords = true) ∧ a = b := by
  unfold warned
  split
  · next hwords =>
      rw [← List.all_eq_true, Except.ok.injEq]
      exact (and_iff_right hwords).symm
  · next hwords =>
      rw [← List.all_eq_true]
      constructor
      · nofun
      · exact fun h => absurd h.1 hwords

theorem outcome_warned (a : α) {warnings : List Warning}
    (h : ∀ w ∈ warnings, w.hasWords = true) : (warned a warnings).outcome = .ok a := by
  rw [warned, if_pos (List.all_eq_true.mpr h)]

end Access

namespace Warning

variable {α : Type} {read : Text → Value → Except Warning α}

theorem keys_readEach (entries : List (Text × Value)) :
    (Assoc.keys (readEach read entries).1).Sublist (Assoc.keys entries) := by
  induction entries with
  | nil => exact List.Sublist.refl _
  | cons entry rest ih =>
      obtain ⟨name, v⟩ := entry
      rw [readEach]
      cases read name v with
      | ok a => exact ih.cons_cons name
      | error warning => exact ih.cons name

theorem find?_readEach {entries : List (Text × Value)} (h : (Assoc.keys entries).Nodup)
    (name : Text) :
    Assoc.find? name (readEach read entries).1 =
      (Assoc.find? name entries).bind fun v => (read name v).toOption := by
  induction entries with
  | nil => rfl
  | cons entry rest ih =>
      obtain ⟨k, v⟩ := entry
      obtain ⟨hk, hrest⟩ := List.nodup_cons.mp h
      have hih := ih hrest
      rw [readEach, Assoc.find?]
      by_cases hkey : k = name
      · subst hkey
        have hmiss : Assoc.find? k (readEach read rest).1 = none := by
          rw [← Option.not_isSome_iff_eq_none, ← Assoc.mem_keys_iff_find?]
          exact fun hmem => hk ((keys_readEach rest).subset hmem)
        rw [if_pos rfl]
        cases hread : read k v with
        | ok a => simp [Assoc.find?, hread, Except.toOption]
        | error warning => simp [hmiss, hread, Except.toOption]
      · rw [if_neg hkey, ← hih]
        cases read k v with
        | ok a => simp [Assoc.find?, hkey]
        | error warning => rfl

theorem hasWords_readEach (h : ∀ name v w, read name v = .error w → w.hasWords = true)
    (entries : List (Text × Value)) : ∀ w ∈ (readEach read entries).2, w.hasWords = true := by
  induction entries with
  | nil => nofun
  | cons entry rest ih =>
      obtain ⟨name, v⟩ := entry
      rw [readEach]
      cases hread : read name v with
      | ok a => exact ih
      | error warning =>
          intro w hw
          rcases List.mem_cons.mp hw with rfl | hw
          · exact h name v w hread
          · exact ih w hw

end Warning

theorem Document.exists_of_read {α : Type} {parse : String → Except ReadError α} {doc : Document}
    {a : α} (h : doc.read parse = .ok (.content a)) : ∃ s, doc = .text s ∧ parse s = .ok a := by
  unfold read at h
  split at h
  · cases h
  · cases h
  · cases h
  · next s =>
      split at h
      · next hparse =>
          cases h
          exact ⟨s, rfl, hparse⟩
      · cases h
      · cases h

namespace Store

variable {doc : Document} {found : Assoc Text Value} {s : Screen}

theorem entries_text {t : String} (h : Json.read t = .ok (.table found)) :
    (entries (.text t)).outcome = .ok found := by
  rw [entries, Access.outcome_bind]
  simp [Access.ofExcept, Document.read, h, bind, Except.bind]
  rfl

theorem nodup_keys_of_entries (h : (entries doc).outcome = .ok found) : found.keys.Nodup := by
  rw [entries, Access.outcome_bind] at h
  obtain ⟨reading, hreading, h⟩ := exists_of_bind h
  split at h
  · cases h
    exact List.nodup_nil
  · obtain ⟨-, rfl⟩ := Access.outcome_warned_eq_ok_iff.mp h
    exact List.nodup_nil
  · cases h
    obtain ⟨s, -, hread⟩ := Document.exists_of_read hreading
    exact Json.nodup_keys_of_read hread
  · obtain ⟨-, rfl⟩ := Access.outcome_warned_eq_ok_iff.mp h
    exact List.nodup_nil

theorem outcome_load (h : (entries doc).outcome = .ok found) :
    (load doc).outcome = .ok (Warning.readEach readSaved found).1 := by
  have hwords : ∀ name v w, readSaved name v = .error w → w.hasWords = true := by
    intro name v w hread
    unfold readSaved at hread
    cases hvalue : Layout.ofValue v with
    | ok l => simp [hvalue, Except.mapError] at hread
    | error e =>
        obtain rfl : Warning.savedSkipped name e = w := by
          simpa [hvalue, Except.mapError] using hread
        rfl
  rw [load, Access.outcome_bind, h]
  exact Access.outcome_warned _ (Warning.hasWords_readEach hwords found)

theorem find?_load (h : (entries doc).outcome = .ok found) (hnodup : found.keys.Nodup) :
    ∃ saved, (load doc).outcome = .ok saved ∧ saved.keys.Nodup ∧
      ∀ name, saved.find? name = (found.find? name).bind fun v => (Layout.ofValue v).toOption := by
  refine ⟨(Warning.readEach readSaved found).1, outcome_load h, ?_, fun name => ?_⟩
  · exact (Warning.keys_readEach found).nodup hnodup
  · rw [Warning.find?_readEach hnodup]
    congr 1
    funext v
    rw [readSaved]
    cases Layout.ofValue v <;> rfl

theorem find?_merge {layouts : Assoc Text (Layout Value)} (h : layouts.keys.Nodup)
    (found : Assoc Text Value) (name : Text) :
    (merge found layouts).find? name =
      ((layouts.find? name).map Layout.toValue).or (found.find? name) := by
  have hkeys : Assoc.keys (layouts.map fun entry => (entry.1, entry.2.toValue)) =
      layouts.keys := by
    simp [Assoc.keys]
  rw [merge, Assoc.find?_insertAll (hkeys ▸ h), Assoc.find?_mapValues Layout.toValue]

/-- Layouts that can be written down are written in the place of a file that can be read, together
with what it held. -/
theorem save_of_isWritable {layouts : Assoc Text (Layout Value)}
    (hwritable : (layouts.all fun entry => entry.2.isWritable) = true)
    (hfound : (entries doc).outcome = .ok found) (hdoc : doc ≠ .directory) :
    (save doc layouts).1.outcome = (Json.write (.table (merge found layouts))).outcome.1 ∧
      (save doc layouts).2 = (Json.write (.table (merge found layouts))).outcome.2 := by
  have hwrite : write (merge found layouts) doc =
      (Access.ofExcept (Json.write (.table (merge found layouts))).outcome.1,
        (Json.write (.table (merge found layouts))).outcome.2) := by
    cases doc with
    | directory => exact absurd rfl hdoc
    | missing | text | binary => rfl
  rw [save]
  simp only [hfound, hwritable, if_true, hwrite, Access.andThen]
  exact ⟨rfl, trivial⟩

variable {layouts : Assoc Text (Layout Ratio)}

def literals (layouts : Assoc Text (Layout Ratio)) : Assoc Text (Layout Value) :=
  layouts.map fun entry => (entry.1, entry.2.literal)

theorem merge_literals (found : Assoc Text Value) (layouts : Assoc Text (Layout Ratio)) :
    merge found (literals layouts) =
      found.insertAll (layouts.map fun entry => (entry.1, entry.2.literal.toValue)) := by
  rw [merge, literals, List.map_map]
  rfl

theorem find?_merge_literals (h : layouts.keys.Nodup) (found : Assoc Text Value) (name : Text) :
    (merge found (literals layouts)).find? name =
      match layouts.find? name with
      | some l => some l.literal.toValue
      | none => found.find? name := by
  have hkeys : (literals layouts).keys = layouts.keys := by
    simp [literals, Assoc.keys]
  rw [find?_merge (hkeys ▸ h), literals, Assoc.find?_mapValues Layout.literal]
  cases layouts.find? name <;> rfl

theorem save_eq (hfound : (entries doc).outcome = .ok found) (hdoc : doc ≠ .directory)
    (hjson : Json.ReadsBack (.table (merge found (literals layouts)))) :
    (save doc (literals layouts)).1.outcome = .ok () ∧
      (save doc (literals layouts)).2 =
        .text (Json.write (.table (merge found (literals layouts)))).text := by
  have hwritable : ((literals layouts).all fun entry => entry.2.isWritable) = true := by
    simp [literals, List.all_eq_true]
  obtain ⟨hsaved, hdoc'⟩ := save_of_isWritable hwritable hfound hdoc
  rw [hsaved, hdoc', Written.outcome, hjson.1]
  exact ⟨rfl, rfl⟩

/-- After layouts are saved, the store loads them, and for other names what it held before. -/
theorem save_load (hlayouts : layouts.keys.Nodup)
    (hviews : ∀ entry ∈ layouts, ∀ v ∈ entry.2.views, v.Storable)
    (hfound : (entries doc).outcome = .ok found) (hdoc : doc ≠ .directory)
    (hjson : Json.ReadsBack (.table (merge found (literals layouts)))) :
    ∃ saved, (load (save doc (literals layouts)).2).outcome = .ok saved ∧ saved.keys.Nodup ∧
      ∀ name, saved.find? name =
        match layouts.find? name with
        | some l => some l
        | none => (found.find? name).bind fun v => (Layout.ofValue v).toOption := by
  have hentries : (entries (save doc (literals layouts)).2).outcome =
      .ok (merge found (literals layouts)) := by
    rw [(save_eq hfound hdoc hjson).2]
    exact entries_text hjson.2
  obtain ⟨saved, hload, hnodup, hfind⟩ := find?_load hentries (Json.nodup_keys_of_read hjson.2)
  refine ⟨saved, hload, hnodup, fun name => ?_⟩
  rw [hfind, find?_merge_literals hlayouts]
  cases hl : layouts.find? name with
  | none => rfl
  | some l =>
      have hstored := Layout.ofValue_toValue_of_storable (hviews _ (Assoc.mem_of_find? hl))
      exact congrArg Except.toOption hstored

def entriesOf (s : Screen) : Assoc Text Value :=
  s.layouts.map fun entry => (entry.1, entry.2.literal.toValue)

/-- The entries of a store after a screen is saved in it. -/
def withScreen (found : Assoc Text Value) (s : Screen) : Assoc Text Value :=
  found.insertAll (entriesOf s)

theorem find?_layouts (s : Screen) (name : Text) :
    s.layouts.find? name = (s.profiles.find? name).map Profile.toLayout :=
  Assoc.find?_mapValues Profile.toLayout name s.profiles

theorem keys_layouts (s : Screen) : s.layouts.keys = s.profiles.keys := by
  simp [Screen.layouts, Assoc.keys]

theorem find?_entriesOf (s : Screen) (name : Text) :
    (entriesOf s).find? name =
      (s.profiles.find? name).map fun p => p.toLayout.literal.toValue := by
  rw [entriesOf, Assoc.find?_mapValues fun l : Layout Ratio => l.literal.toValue, find?_layouts,
    Option.map_map]
  rfl

theorem keys_entriesOf (s : Screen) : (entriesOf s).keys = s.profiles.keys := by
  rw [← keys_layouts]
  simp [entriesOf, Assoc.keys]

theorem withScreen_eq_merge (found : Assoc Text Value) (s : Screen) :
    withScreen found s = merge found (literals s.layouts) := (merge_literals found s.layouts).symm

theorem find?_withScreen (hs : s.profiles.keys.Nodup) (found : Assoc Text Value) (name : Text) :
    (withScreen found s).find? name =
      match s.profiles.find? name with
      | some p => some p.toLayout.literal.toValue
      | none => found.find? name := by
  rw [withScreen_eq_merge, find?_merge_literals (keys_layouts s ▸ hs), find?_layouts]
  cases s.profiles.find? name <;> rfl

/-- A screen is saved in a file that can be read and written. -/
theorem saveScreen_eq (hfound : (entries doc).outcome = .ok found) (hdoc : doc ≠ .directory)
    (hjson : Json.ReadsBack (.table (withScreen found s))) :
    (saveScreen doc s).1.outcome = .ok () ∧
      (saveScreen doc s).2 = .text (Json.write (.table (withScreen found s))).text := by
  rw [withScreen_eq_merge] at hjson ⊢
  exact save_eq hfound hdoc hjson

/-- Every profile has views that come back. -/
def Storable (s : Screen) : Prop :=
  ∀ entry ∈ s.profiles, ∀ v ∈ entry.2.toLayout.views, v.Storable

instance (s : Screen) : Decidable (Storable s) :=
  inferInstanceAs (Decidable (∀ entry ∈ s.profiles, ∀ v ∈ entry.2.toLayout.views, v.Storable))

/-- After a screen is saved, the store loads its layouts, and for other names what it held
before. -/
theorem saveScreen_load (hs : s.Valid) (hviews : Storable s)
    (hfound : (entries doc).outcome = .ok found) (hdoc : doc ≠ .directory)
    (hjson : Json.ReadsBack (.table (withScreen found s))) :
    (saveScreen doc s).1.outcome = .ok () ∧ (saveScreen doc s).2 ≠ .directory ∧
      (entries (saveScreen doc s).2).outcome = .ok (withScreen found s) ∧
      ∃ saved, (load (saveScreen doc s).2).outcome = .ok saved ∧ saved.keys.Nodup ∧
        ∀ name, saved.find? name =
          match s.profiles.find? name with
          | some p => some p.toLayout
          | none => (found.find? name).bind fun v => (Layout.ofValue v).toOption := by
  obtain ⟨hsaved, hdoc'⟩ := saveScreen_eq hfound hdoc hjson
  have hentries : (entries (saveScreen doc s).2).outcome = .ok (withScreen found s) := by
    rw [hdoc']
    exact entries_text hjson.2
  have hstorable : ∀ entry ∈ s.layouts, ∀ v ∈ entry.2.views, v.Storable := by
    intro entry hentry
    obtain ⟨profile, hprofile, rfl⟩ := List.mem_map.mp hentry
    exact hviews profile hprofile
  obtain ⟨saved, hload, hnodup, hfind⟩ :=
    save_load (keys_layouts s ▸ hs.nodup) hstorable hfound hdoc
      (withScreen_eq_merge found s ▸ hjson)
  refine ⟨hsaved, by rw [hdoc']; nofun, hentries, saved, hload, hnodup, fun name => ?_⟩
  rw [hfind, find?_layouts]
  cases s.profiles.find? name <;> rfl

end Store

end SplitScreen
