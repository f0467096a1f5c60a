import SplitScreen.Proofs.Config

namespace SplitScreen

namespace Json

theorem isBlank_of_isDigit {c : Char} (h : c.isDigit = true) : isBlank c = false := by
  simp only [isBlank, Bool.or_eq_false_iff, decide_eq_false_iff_not]
  refine ⟨⟨⟨?_, ?_⟩, ?_⟩, ?_⟩ <;>
    · rintro rfl
      cases h

theorem read_of_long {n : Nat} (hn : 10 ^ LongInteger.digitLimit ≤ n) :
    read (String.ofList (Nat.toDigits 10 n)) = .error (.longInteger (Nat.toDigits 10 n).length) := by
  have hlong := lt_length_toDigits (by decide) hn
  have hvalue (steps : Nat) : value (steps + 1) (Nat.toDigits 10 n) =
      .error (.longInteger (Nat.toDigits 10 n).length) := by
    have hnumber := value_toDigits steps n []
    rwa [number_digits false n stops_nil, if_pos hlong, List.append_nil] at hnumber
  have hblanks : skipBlanks (Nat.toDigits 10 n) = Nat.toDigits 10 n := by
    obtain ⟨c, cs, hdigits, hc⟩ := exists_toDigits n
    rw [hdigits]
    exact skipBlanks_cons (isBlank_of_isDigit hc) cs
  rw [read, String.toList_ofList, hblanks, hvalue]
  rfl

end Json

namespace Document

variable {α : Type}

/-- Nothing of the document can be read: its bytes are no text, or an integer in it is too long. -/
def Unreadable (parse : String → Except ReadError α) (doc : Document) : Prop :=
  (∃ bytes, doc = .binary bytes) ∨
    ∃ s digits, doc = .text s ∧ parse s = .error (.longInteger digits)

/-- Something stands there that is not in the format. -/
def Malformed (parse : String → Except ReadError α) (doc : Document) : Prop :=
  doc = .directory ∨ ∃ s, doc = .text s ∧ parse s = .error .malformed

variable {parse : String → Except ReadError α} {doc : Document}

theorem unreadable_iff : doc.Unreadable parse ↔ ∃ fault, doc.read parse = .error fault := by
  constructor
  · rintro (⟨bytes, rfl⟩ | ⟨s, digits, rfl, hparse⟩)
    · exact ⟨.notText, rfl⟩
    · exact ⟨.longInteger (some digits), by rw [read, hparse]⟩
  · rintro ⟨fault, hread⟩
    unfold read at hread
    split at hread
    · cases hread
    · cases hread
    · next bytes => exact Or.inl ⟨bytes, rfl⟩
    · next s =>
        split at hread
        · cases hread
        · cases hread
        · next digits hparse => exact Or.inr ⟨s, digits, rfl, hparse⟩

theorem not_unreadable_iff : ¬ doc.Unreadable parse ↔ ∃ reading, doc.read parse = .ok reading := by
  rw [unreadable_iff]
  cases doc.read parse with
  | ok reading =>
      constructor
      · exact fun _ => ⟨reading, rfl⟩
      · rintro - ⟨fault, hfault⟩
        cases hfault
  | error fault =>
      constructor
      · exact fun h => absurd ⟨fault, rfl⟩ h
      · rintro ⟨reading, hreading⟩
        cases hreading

theorem Malformed.read_eq (h : doc.Malformed parse) : doc.read parse = .ok .failed := by
  rcases h with rfl | ⟨s, rfl, hparse⟩
  · rfl
  · rw [read, hparse]

end Document

namespace Config

variable {doc : Document}

theorem exists_load_iff (doc : Document) (env : Environment) :
    (∃ c, (load doc env).outcome = .ok c) ↔ ¬ doc.Unreadable Toml.read ∧
      ∀ w ∈ (ofTable (Toml.tableOf doc)).2, w.hasWords = true := by
  rw [Document.not_unreadable_iff, outcome_load]
  constructor
  · rintro ⟨c, hload⟩
    obtain ⟨said, hsaid, -⟩ := exists_of_map hload
    obtain ⟨hread, hwords, -⟩ := ofDocument_eq_ok_iff.mp hsaid
    exact ⟨hread, hwords⟩
  · rintro ⟨hread, hwords⟩
    rw [ofDocument_eq_ok_iff.mpr ⟨hread, hwords, rfl⟩]
    exact ⟨_, rfl⟩

theorem load_of_malformed (h : doc.Malformed Toml.read) (env : Environment) :
    load doc env = ⟨.ok (default.override env), [.configUnreadable]⟩ := by
  have hsaid : ofDocument doc = ⟨.ok default, [.configUnreadable]⟩ := by
    change (Access.ofExcept (doc.read Toml.read)).andThen _ = _
    rw [h.read_eq]
    rfl
  change (ofDocument doc).andThen _ = _
  rw [hsaid]
  rfl

end Config

namespace Store

variable {doc : Document} {layouts : Assoc Text (Layout Ratio)}

theorem exists_entries_iff : (∃ found, (entries doc).outcome = .ok found) ↔
    ¬ doc.Unreadable Json.read := by
  rw [Document.not_unreadable_iff, entries, Access.outcome_bind]
  constructor
  · rintro ⟨found, hfound⟩
    obtain ⟨reading, hreading, -⟩ := exists_of_bind hfound
    exact ⟨reading, hreading⟩
  · rintro ⟨reading, hreading⟩
    rw [hreading]
    simp only [Access.ofExcept, bind, Except.bind]
    split
    · exact ⟨_, rfl⟩
    · exact ⟨_, Access.outcome_warned _ (by simp [Warning.hasWords])⟩
    · exact ⟨_, rfl⟩
    · exact ⟨_, Access.outcome_warned _ (by simp [Warning.hasWords])⟩

/-- The document holds no object of JSON. -/
def HoldsNoTable (doc : Document) : Prop :=
  ∀ s found, doc = .text s → Json.read s ≠ .ok (.table found)

theorem HoldsNoTable.eq_nil (h : HoldsNoTable doc) {found : Assoc Text Value}
    (hfound : (entries doc).outcome = .ok found) : found = [] := by
  rw [entries, Access.outcome_bind] at hfound
  obtain ⟨reading, hreading, hfound⟩ := exists_of_bind hfound
  split at hfound
  · cases hfound
    rfl
  · exact (Access.outcome_warned_eq_ok_iff.mp hfound).2.symm
  · next table =>
      obtain ⟨s, hdoc, hread⟩ := Document.exists_of_read hreading
      exact absurd hread (h s table hdoc)
  · exact (Access.outcome_warned_eq_ok_iff.mp hfound).2.symm

theorem exists_load_iff : (∃ saved, (load doc).outcome = .ok saved) ↔
    ¬ doc.Unreadable Json.read := by
  rw [← exists_entries_iff]
  constructor
  · rintro ⟨saved, hsaved⟩
    rw [load, Access.outcome_bind] at hsaved
    obtain ⟨found, hfound, -⟩ := exists_of_bind hsaved
    exact ⟨found, hfound⟩
  · rintro ⟨found, hfound⟩
    exact ⟨_, outcome_load hfound⟩

/-- Saving the layouts goes through, and then each one is loaded under its name. -/
def Keeps (doc : Document) (layouts : Assoc Text (Layout Ratio)) : Prop :=
  (save doc (literals layouts)).1.outcome = .ok () ∧
    ∃ saved, (load (save doc (literals layouts)).2).outcome = .ok saved ∧
      ∀ name l, layouts.find? name = some l → saved.find? name = some l

theorem keeps_of_readsBack (hlayouts : layouts.keys.Nodup)
    (hviews : ∀ entry ∈ layouts, ∀ v ∈ entry.2.views, v.Storable) {found : Assoc Text Value}
    (hfound : (entries doc).outcome = .ok found) (hdoc : doc ≠ .directory)
    (hjson : Json.ReadsBack (.table (merge found (literals layouts)))) : Keeps doc layouts := by
  obtain ⟨saved, hload, -, hfind⟩ := save_load hlayouts hviews hfound hdoc hjson
  refine ⟨(save_eq hfound hdoc hjson).1, saved, hload, fun name l hl => ?_⟩
  rw [hfind, hl]

/-- Layouts with names and views that are strings, and ratios that are not too long, can be written
in an empty store. -/
theorem readsBack_merge_nil (hlayouts : layouts.keys.Nodup)
    (hplain : ∀ entry ∈ layouts, (∃ s : String, entry.1 = s) ∧ entry.2.literal.toValue.Plain) :
    Json.ReadsBack (.table (merge [] (literals layouts))) := by
  have hkeys : Assoc.keys (layouts.map fun entry => (entry.1, entry.2.literal.toValue)) =
      layouts.keys := by
    simp [Assoc.keys]
  have hmerge : merge [] (literals layouts) =
      layouts.map fun entry => (entry.1, entry.2.literal.toValue) := by
    rw [merge_literals]
    exact Assoc.ofList_eq_self (hkeys ▸ hlayouts)
  rw [hmerge]
  apply Value.Plain.readsBack
  refine .table (hkeys ▸ hlayouts) ?_ ?_
  · intro entry hentry
    obtain ⟨layout, hlayout, rfl⟩ := List.mem_map.mp hentry
    exact (hplain layout hlayout).1
  · intro entry hentry
    obtain ⟨layout, hlayout, rfl⟩ := List.mem_map.mp hentry
    exact (hplain layout hlayout).2

theorem save_of_unreadable (h : doc.Unreadable Json.read) (layouts : Assoc Text (Layout Value)) :
    (save doc layouts).1.outcome ≠ .ok () ∧ (save doc layouts).2 = doc := by
  cases hfound : (entries doc).outcome with
  | ok found => exact absurd h (exists_entries_iff.mp ⟨found, hfound⟩)
  | error fault =>
      rw [save]
      simp only [hfound]
      exact ⟨by simp, trivial⟩

end Store

/-- A configuration that is not in its format counts as one without settings, and a store that holds
no object as an empty one, which takes every layout. Both fail on bytes that are no text and on an
integer that is too long to be read, the configuration also on one that is too long to be quoted; a
store that cannot be read is then left as it is. -/
theorem files_fall_back (config store : Document) (env : Environment)
    {layouts : Assoc Text (Layout Ratio)} (hlayouts : layouts.keys.Nodup)
    (hviews : ∀ entry ∈ layouts, ∀ v ∈ entry.2.views, v.Storable) :
    ((∃ c, (Config.load config env).outcome = .ok c) ↔ ¬ config.Unreadable Toml.read ∧
        ∀ w ∈ (Config.ofTable (Toml.tableOf config)).2, w.hasWords = true) ∧
      (config.Malformed Toml.read →
        Config.load config env = ⟨.ok (Config.default.override env), [.configUnreadable]⟩) ∧
      ((∃ saved, (Store.load store).outcome = .ok saved) ↔ ¬ store.Unreadable Json.read) ∧
      (store.Unreadable Json.read →
        (Store.save store (Store.literals layouts)).1.outcome ≠ .ok () ∧
          (Store.save store (Store.literals layouts)).2 = store) ∧
      (¬ store.Unreadable Json.read → Store.HoldsNoTable store →
        (Store.load store).outcome = .ok []) ∧
      (¬ store.Unreadable Json.read → Store.HoldsNoTable store → store ≠ .directory →
        (∀ entry ∈ layouts, (∃ s : String, entry.1 = s) ∧ entry.2.literal.toValue.Plain) →
          Store.Keeps store layouts) ∧
      (∀ found, (Store.entries store).outcome = .ok found → store ≠ .directory →
        Json.ReadsBack (.table (Store.merge found (Store.literals layouts))) →
          Store.Keeps store layouts) := by
  refine ⟨Config.exists_load_iff config env, fun h => Config.load_of_malformed h env,
    Store.exists_load_iff, fun h => Store.save_of_unreadable h _, ?_, ?_, ?_⟩
  · intro hread hnone
    obtain ⟨found, hfound⟩ := Store.exists_entries_iff.mpr hread
    obtain rfl := hnone.eq_nil hfound
    exact Store.outcome_load hfound
  · intro hread hnone hdoc hplain
    obtain ⟨found, hfound⟩ := Store.exists_entries_iff.mpr hread
    obtain rfl := hnone.eq_nil hfound
    exact Store.keeps_of_readsBack hlayouts hviews hfound hdoc
      (Store.readsBack_merge_nil hlayouts hplain)
  · intro found hfound hdoc hjson
    exact Store.keeps_of_readsBack hlayouts hviews hfound hdoc hjson

theorem files_fall_back_large :
    let store : Document := .text "["
    let layouts : Assoc Text (Layout Ratio) := [("wide", .large)]
    Config.load (.text "=") .empty = ⟨.ok .default, [.configUnreadable]⟩ ∧
      (Store.load store).outcome = .ok [] ∧ Store.Keeps store layouts := by
  intro store layouts
  have hviews : ∀ entry ∈ layouts, ∀ v ∈ entry.2.views, v.Storable := by decide
  have hread : ¬ store.Unreadable Json.read :=
    Document.not_unreadable_iff.mpr ⟨.failed, by rfl⟩
  have hnone : Store.HoldsNoTable store := by
    intro s found hs hjson
    obtain rfl : "[" = s := Document.text.inj hs
    cases hjson
  have hplain : ∀ entry ∈ layouts,
      (∃ s : String, entry.1 = s) ∧ entry.2.literal.toValue.Plain := by
    intro entry hentry
    obtain rfl := List.mem_singleton.mp hentry
    exact ⟨⟨"wide", rfl⟩, Value.plain_of_isPlain (by decide +kernel)⟩
  obtain ⟨-, hconfig, -, -, hempty, hkeeps, -⟩ :=
    files_fall_back (.text "=") store .empty (by decide : layouts.keys.Nodup) hviews
  have hmalformed : (Document.text "=").Malformed Toml.read :=
    Or.inr ⟨"=", rfl, by rfl⟩
  exact ⟨hconfig hmalformed, hempty hread hnone, hkeeps hread hnone nofun hplain⟩

/-- A byte that is no text in either file is an error that nothing catches. -/
theorem bytes_not_caught :
    (Config.load (Document.ofBytes [0xff]) .empty).outcome = .error .notText ∧
      (Store.load (Document.ofBytes [0xff])).outcome = .error .notText ∧
      (Store.save (Document.ofBytes [0xff]) []).1.outcome = .error .notText :=
  ⟨rfl, rfl, rfl⟩

end SplitScreen
