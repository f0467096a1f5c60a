import Mathlib.Data.List.Basic
import Mathlib.Data.List.Nodup
import SplitScreen.Proofs.Store

namespace SplitScreen

theorem Assoc.perm_of_find? {κ α : Type} [DecidableEq κ] {m m' : Assoc κ α} (h : (keys m).Nodup)
    (h' : (keys m').Nodup) (hfind : ∀ key, find? key m = find? key m') : m.Perm m' := by
  refine (List.perm_ext_iff_of_nodup (h.of_map _) (h'.of_map _)).mpr fun entry => ?_
  constructor
  · intro hentry
    exact mem_of_find? ((hfind _).symm.trans (find?_of_mem h hentry))
  · intro hentry
    exact mem_of_find? ((hfind _).trans (find?_of_mem h' hentry))

namespace Store

variable {doc : Document} {found : Assoc Text Value} {layouts : Assoc Text (Layout Value)}
  {saves : List (Assoc Text (Layout Value))}

/-- The file of a store holds an object with these entries; a missing file holds an empty one. -/
inductive Holds : Document → Assoc Text Value → Prop
  | missing : Holds .missing []
  | text {s : String} {found : Assoc Text Value} (h : Json.read s = .ok (.table found)) :
    Holds (.text s) found

def areWritable (layouts : Assoc Text (Layout Value)) : Bool :=
  layouts.all fun entry => entry.2.isWritable

def afterSaves (doc : Document) (saves : List (Assoc Text (Layout Value))) : Document :=
  saves.foldl (fun doc layouts => (save doc layouts).2) doc

/-- The entries after some saves that go through. -/
def mergeAll (found : Assoc Text Value) (saves : List (Assoc Text (Layout Value))) :
    Assoc Text Value :=
  saves.foldl merge found

/-- JSON that is read again gives what was written, at each of some saves. -/
def SavesReadBack (found : Assoc Text Value) : List (Assoc Text (Layout Value)) → Prop
  | [] => True
  | layouts :: rest =>
    Json.ReadsBack (.table (merge found layouts)) ∧ SavesReadBack (merge found layouts) rest

theorem savesReadBack_append {earlier later : List (Assoc Text (Layout Value))} :
    SavesReadBack found (earlier ++ later) ↔
      SavesReadBack found earlier ∧ SavesReadBack (mergeAll found earlier) later := by
  induction earlier generalizing found with
  | nil => exact (and_iff_right trivial).symm
  | cons layouts rest ih =>
      rw [List.cons_append, SavesReadBack, SavesReadBack, ih, and_assoc]
      rfl

theorem Holds.outcome_entries (h : Holds doc found) : (entries doc).outcome = .ok found := by
  cases h with
  | missing => rfl
  | text h => exact entries_text h

theorem Holds.ne_directory (h : Holds doc found) : doc ≠ .directory := by
  cases h <;> nofun

theorem Holds.nodup_keys (h : Holds doc found) : found.keys.Nodup :=
  nodup_keys_of_entries h.outcome_entries

theorem Holds.save (h : Holds doc found) (hwritable : areWritable layouts = true)
    (hjson : Json.ReadsBack (.table (merge found layouts))) :
    (save doc layouts).1.outcome = .ok () ∧ Holds (save doc layouts).2 (merge found layouts) := by
  obtain ⟨hsaved, hdoc⟩ := save_of_isWritable hwritable h.outcome_entries h.ne_directory
  rw [hsaved, hdoc, Written.outcome, hjson.1]
  exact ⟨rfl, .text hjson.2⟩

theorem Holds.save_of_not_writable (h : Holds doc found) (hwritable : areWritable layouts = false) :
    (Store.save doc layouts).1.outcome ≠ .ok () ∧ (Store.save doc layouts).2 = doc := by
  have hnone : (layouts.all fun entry => entry.2.isWritable) = false := hwritable
  have hend : Store.save doc layouts =
      ((entries doc).andThen fun _ => Access.failed .noForm, doc) := by
    rw [Store.save]
    simp only [h.outcome_entries, hnone, Bool.false_eq_true, if_false]
  rw [hend, Access.andThen, h.outcome_entries]
  exact ⟨by simp [Access.failed], rfl⟩

theorem Holds.afterSaves (h : Holds doc found)
    (hjson : SavesReadBack found (saves.filter areWritable)) :
    Holds (afterSaves doc saves) (mergeAll found (saves.filter areWritable)) := by
  induction saves generalizing doc found with
  | nil => exact h
  | cons layouts rest ih =>
      rw [Store.afterSaves, List.foldl_cons]
      cases hwritable : areWritable layouts with
      | true =>
          rw [List.filter_cons_of_pos hwritable] at hjson ⊢
          exact ih (h.save hwritable hjson.1).2 hjson.2
      | false =>
          rw [List.filter_cons_of_neg (by simp [hwritable])] at hjson ⊢
          rw [(h.save_of_not_writable hwritable).2]
          exact ih h hjson

theorem Holds.outcome_save_iff (h : Holds doc found)
    {earlier later : List (Assoc Text (Layout Value))}
    (hjson : SavesReadBack found ((earlier ++ layouts :: later).filter areWritable)) :
    (Store.save (Store.afterSaves doc earlier) layouts).1.outcome = .ok () ↔
      areWritable layouts = true := by
  rw [List.filter_append, savesReadBack_append] at hjson
  have hearlier := h.afterSaves hjson.1
  cases hwritable : areWritable layouts with
  | true =>
      rw [List.filter_cons_of_pos hwritable] at hjson
      exact iff_of_true (hearlier.save hwritable hjson.2.1).1 rfl
  | false => exact iff_of_false (hearlier.save_of_not_writable hwritable).1 Bool.false_ne_true

/-- The layout that the last of some saves with a name has under it. -/
def lastSaved (saves : List (Assoc Text (Layout Value))) (name : Text) : Option (Layout Value) :=
  saves.reverse.findSome? fun layouts => layouts.find? name

theorem lastSaved_cons (layouts : Assoc Text (Layout Value))
    (saves : List (Assoc Text (Layout Value))) (name : Text) :
    lastSaved (layouts :: saves) name = (lastSaved saves name).or (layouts.find? name) := by
  rw [lastSaved, List.reverse_cons, List.findSome?_append, lastSaved, List.findSome?_singleton]

/-- The last save that has a name decides, and without one the name keeps what it had. -/
theorem find?_mergeAll (hnames : ∀ layouts ∈ saves, layouts.keys.Nodup) (found : Assoc Text Value)
    (name : Text) :
    (mergeAll found saves).find? name =
      ((lastSaved saves name).map Layout.toValue).or (found.find? name) := by
  induction saves generalizing found with
  | nil => rfl
  | cons layouts rest ih =>
      obtain ⟨hlayouts, hrest⟩ := List.forall_mem_cons.mp hnames
      rw [mergeAll, List.foldl_cons, ← mergeAll, ih hrest, find?_merge hlayouts, lastSaved_cons]
      cases lastSaved rest name <;> rfl

theorem mergeAll_eq_insertAll (found : Assoc Text Value)
    (saves : List (Assoc Text (Layout Value))) :
    mergeAll found saves = found.insertAll (saves.flatMap fun layouts =>
      layouts.map fun entry => (entry.1, entry.2.toValue)) := by
  induction saves generalizing found with
  | nil => rfl
  | cons layouts rest ih =>
      rw [mergeAll, List.foldl_cons, ← mergeAll, ih, List.flatMap_cons, Assoc.insertAll_append]
      rfl

theorem keys_mergeAll (found : Assoc Text Value) (saves : List (Assoc Text (Layout Value))) :
    (mergeAll found saves).keys = found.keys ++
      ((saves.flatMap Assoc.keys).filter fun name => decide (name ∉ found.keys)).eraseDups := by
  have hkeys : Assoc.keys (saves.flatMap fun layouts =>
      layouts.map fun entry => (entry.1, entry.2.toValue)) = saves.flatMap Assoc.keys := by
    rw [Assoc.keys, List.map_flatMap]
    simp only [List.map_map]
    rfl
  rw [mergeAll_eq_insertAll, Assoc.keys_insertAll, hkeys]

/-- Of two saves that have no name in common either one may be the last. -/
theorem lastSaved_comm {later : Assoc Text (Layout Value)}
    (hnames : ∀ name ∈ layouts.keys, name ∉ later.keys) (name : Text) :
    lastSaved ([layouts, later].filter areWritable) name =
      lastSaved ([later, layouts].filter areWritable) name := by
  have hone : (later.find? name).or (layouts.find? name) =
      (layouts.find? name).or (later.find? name) := by
    cases hname : layouts.find? name with
    | none => cases later.find? name <;> rfl
    | some l =>
        have hmem : name ∈ layouts.keys := by
          rw [Assoc.mem_keys_iff_find?, hname]
          rfl
        have hmiss : later.find? name = none := by
          rw [← Option.not_isSome_iff_eq_none, ← Assoc.mem_keys_iff_find?]
          exact hnames name hmem
        rw [hmiss]
        rfl
  have hnil : lastSaved [] name = none := rfl
  cases hlayouts : areWritable layouts <;> cases hlater : areWritable later <;>
    simp [hlayouts, hlater, lastSaved_cons, hnil, hone]

theorem perm_mergeAll_comm {later : Assoc Text (Layout Value)} (hlayouts : layouts.keys.Nodup)
    (hlater : later.keys.Nodup) (hnames : ∀ name ∈ layouts.keys, name ∉ later.keys)
    (hfound : found.keys.Nodup) :
    (mergeAll found ([layouts, later].filter areWritable)).Perm
      (mergeAll found ([later, layouts].filter areWritable)) := by
  have hnodup (saves : List (Assoc Text (Layout Value))) : (mergeAll found saves).keys.Nodup := by
    rw [mergeAll_eq_insertAll]
    exact Assoc.nodup_keys_insertAll hfound _
  have hpair : ∀ saved, saved = layouts ∨ saved = later → saved.keys.Nodup := by
    rintro saved (rfl | rfl)
    · exact hlayouts
    · exact hlater
  refine Assoc.perm_of_find? (hnodup _) (hnodup _) fun name => ?_
  rw [find?_mergeAll, find?_mergeAll, lastSaved_comm hnames]
  · intro saved hsaved
    have hmem : saved ∈ [later, layouts] := List.mem_of_mem_filter hsaved
    exact hpair saved (by simpa [or_comm] using hmem)
  · intro saved hsaved
    have hmem : saved ∈ [layouts, later] := List.mem_of_mem_filter hsaved
    exact hpair saved (by simpa using hmem)

/-- Two saves leave the same text as one save of all that they have, where the later one wins. -/
theorem merge_merge (hlayouts : layouts.keys.Nodup) (found : Assoc Text Value)
    (later : Assoc Text (Layout Value)) :
    merge (merge found layouts) later = merge found (layouts.insertAll later) := by
  have hkeys : Assoc.keys (layouts.map fun entry => (entry.1, entry.2.toValue)) =
      layouts.keys := by
    simp [Assoc.keys]
  rw [merge, merge, merge, Assoc.map_insertAll Layout.toValue,
    Assoc.insertAll_insertAll (hkeys ▸ hlayouts)]

/-- Two saves that go through leave the file as one save of all that they have does, where the later
one wins. -/
theorem afterSaves_pair (h : Holds doc found) {later : Assoc Text (Layout Value)}
    (hnames : layouts.keys.Nodup) (hlayouts : areWritable layouts = true)
    (hlater : areWritable later = true) (hjson : Json.ReadsBack (.table (merge found layouts))) :
    afterSaves doc [layouts, later] = afterSaves doc [layouts.insertAll later] := by
  have hboth : areWritable (layouts.insertAll later) = true := by
    rw [areWritable, List.all_eq_true] at hlayouts hlater ⊢
    intro entry hentry
    rcases Assoc.mem_of_mem_insertAll hentry with hentry | hentry
    · exact hlater entry hentry
    · exact hlayouts entry hentry
  have hfirst := (h.save hlayouts hjson).2
  calc afterSaves doc [layouts, later]
      = (save (save doc layouts).2 later).2 := rfl
    _ = (Json.write (.table (merge (merge found layouts) later))).outcome.2 :=
        (save_of_isWritable hlater hfirst.outcome_entries hfirst.ne_directory).2
    _ = (Json.write (.table (merge found (layouts.insertAll later)))).outcome.2 := by
        rw [merge_merge hnames]
    _ = (save doc (layouts.insertAll later)).2 :=
        (save_of_isWritable hboth h.outcome_entries h.ne_directory).2.symm
    _ = afterSaves doc [layouts.insertAll later] := rfl

/-- After any number of saves of any layouts over a missing file or an object, the file holds an
object. A save fails exactly when a layout of it cannot be written down, and then it counts for
nothing. Of the others the last one with a name decides what is under it, every other name has what
it had, and the names stand in their order, the new ones after them in the order in which they were
first saved. So saves with no name in common may change places up to the order of the names, and two
saves one after the other are one save of both. -/
theorem last_save_wins (hdoc : Holds doc found) (hnames : ∀ layouts ∈ saves, layouts.keys.Nodup)
    (hjson : SavesReadBack found (saves.filter areWritable)) :
    (∀ earlier layouts later, saves = earlier ++ layouts :: later →
        ((save (afterSaves doc earlier) layouts).1.outcome = .ok () ↔ areWritable layouts = true)) ∧
      (∃ final, Holds (afterSaves doc saves) final ∧
        (∀ name, final.find? name =
          ((lastSaved (saves.filter areWritable) name).map Layout.toValue).or (found.find? name)) ∧
        final.keys = found.keys ++ (((saves.filter areWritable).flatMap Assoc.keys).filter
          fun name => decide (name ∉ found.keys)).eraseDups) ∧
      (∀ layouts later : Assoc Text (Layout Value), layouts.keys.Nodup → later.keys.Nodup →
        (∀ name ∈ layouts.keys, name ∉ later.keys) →
        SavesReadBack found ([layouts, later].filter areWritable) →
        SavesReadBack found ([later, layouts].filter areWritable) →
          ∃ final final', Holds (afterSaves doc [layouts, later]) final ∧
            Holds (afterSaves doc [later, layouts]) final' ∧ final.Perm final') ∧
      ∀ layouts later : Assoc Text (Layout Value), layouts.keys.Nodup →
        areWritable layouts = true → areWritable later = true →
        Json.ReadsBack (.table (merge found layouts)) →
          afterSaves doc [layouts, later] = afterSaves doc [layouts.insertAll later] := by
  refine ⟨?_, ⟨mergeAll found (saves.filter areWritable), hdoc.afterSaves hjson, ?_, ?_⟩, ?_, ?_⟩
  · rintro earlier layouts later rfl
    exact hdoc.outcome_save_iff hjson
  · exact find?_mergeAll (fun layouts hmem => hnames layouts (List.mem_of_mem_filter hmem)) found
  · exact keys_mergeAll found _
  · intro layouts later hlayouts hlater hapart hone hother
    exact ⟨_, _, hdoc.afterSaves hone, hdoc.afterSaves hother,
      perm_mergeAll_comm hlayouts hlater hapart hdoc.nodup_keys⟩
  · intro layouts later hlayouts hwritable hwritable' hone
    exact afterSaves_pair hdoc hlayouts hwritable hwritable' hone

/-- Three saves over an object with an entry that is no layout. The second one cannot write its
ratio down; the third one has a name of the first, and a ratio that no pane can be split by. -/
theorem last_save_wins_old :
    let found : Assoc Text Value := [("old", .int 5), ("a", .table [("view", .text "")])]
    let doc : Document := .text (Json.write (.table found)).text
    let crooked : Layout Value :=
      .split .vertical (.tuple [.int 0, .int (-1)]) (.pane (.custom "x") true)
        (.pane (.custom "") true)
    let saves : List (Assoc Text (Layout Value)) :=
      [[("b", .pane (.kind .stack) true), ("a", .pane (.kind .trace) false)],
        [("old", .split .vertical (.int 1) (.pane (.kind .trace) false)
          (.pane (.kind .vars) true))],
        [("c", .pane (.kind .memory) false), ("b", crooked)]]
    ∃ final, Holds (afterSaves doc saves) final ∧ final.keys = ["old", "a", "b", "c"] ∧
      final.find? ("old" : Text) = some (.int 5) ∧
      final.find? ("a" : Text) = some (.table [("view", .text "trace")]) ∧
      final.find? ("b" : Text) = some crooked.toValue := by
  intro found doc crooked saves
  have hfound : (Value.table found).Plain := Value.plain_of_isPlain (by decide +kernel)
  have hfirst : (Value.table (mergeAll found (saves.take 1))).Plain :=
    Value.plain_of_isPlain (by decide +kernel)
  have hthird : (Value.table (mergeAll found [saves[0], saves[2]])).Plain :=
    Value.plain_of_isPlain (by decide +kernel)
  have hnames : ∀ layouts ∈ saves, layouts.keys.Nodup := by decide
  obtain ⟨-, ⟨final, hholds, hfind, hkeys⟩, -, -⟩ :=
    last_save_wins (.text hfound.readsBack.2) hnames ⟨hfirst.readsBack, hthird.readsBack, trivial⟩
  exact ⟨final, hholds, hkeys, hfind _, hfind _, hfind _⟩

end Store

end SplitScreen
