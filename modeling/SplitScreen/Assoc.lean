namespace SplitScreen

/-- A finite map that remembers the order in which its keys were first set. -/
abbrev Assoc (κ : Type) (α : Type) := List (κ × α)

namespace Assoc

variable {κ α β : Type} [DecidableEq κ]

def find? (key : κ) : Assoc κ α → Option α
  | [] => none
  | (k, a) :: rest => if k = key then some a else find? key rest

def insert (key : κ) (a : α) : Assoc κ α → Assoc κ α
  | [] => [(key, a)]
  | (k, b) :: rest => if k = key then (k, a) :: rest else (k, b) :: insert key a rest

def erase (key : κ) : Assoc κ α → Assoc κ α
  | [] => []
  | (k, b) :: rest => if k = key then erase key rest else (k, b) :: erase key rest

def keys (m : Assoc κ α) : List κ := m.map Prod.fst

def contains (key : κ) (m : Assoc κ α) : Bool := (find? key m).isSome

def insertAll (m : Assoc κ α) : Assoc κ α → Assoc κ α
  | [] => m
  | (k, a) :: rest => insertAll (insert k a m) rest

/-- The map of a list of settings, the last of a repeated key winning in the first's place. -/
def ofList (settings : List (κ × α)) : Assoc κ α := insertAll [] settings

@[simp] theorem find?_nil (key : κ) : find? key ([] : Assoc κ α) = none := rfl

theorem find?_insert (key key' : κ) (a : α) (m : Assoc κ α) :
    find? key' (insert key a m) = if key = key' then some a else find? key' m := by
  induction m with
  | nil => simp [insert, find?]
  | cons entry rest ih => grind [insert, find?]

@[simp] theorem find?_insert_self (key : κ) (a : α) (m : Assoc κ α) :
    find? key (insert key a m) = some a := by
  simp [find?_insert]

theorem insert_of_find? {key : κ} {a : α} {m : Assoc κ α} (h : find? key m = some a) :
    insert key a m = m := by
  induction m with
  | nil => cases h
  | cons entry rest ih => grind [insert, find?]

theorem find?_mapValues (f : α → β) (key : κ) (m : Assoc κ α) :
    find? key (m.map fun entry => (entry.1, f entry.2) : Assoc κ β) = (find? key m).map f := by
  induction m with
  | nil => rfl
  | cons entry rest ih => grind [find?]

theorem find?_erase (key key' : κ) (m : Assoc κ α) :
    find? key' (erase key m) = if key = key' then none else find? key' m := by
  induction m with
  | nil => simp [erase, find?]
  | cons entry rest ih => grind [erase, find?]

theorem mem_keys_iff_find? (key : κ) (m : Assoc κ α) :
    key ∈ keys m ↔ (find? key m).isSome := by
  induction m with
  | nil => simp [keys]
  | cons entry rest ih => grind [keys, find?]

theorem mem_of_find? {key : κ} {a : α} {m : Assoc κ α} (h : find? key m = some a) :
    (key, a) ∈ m := by
  induction m with
  | nil => cases h
  | cons entry rest ih => grind [find?]

theorem find?_of_mem {m : Assoc κ α} (h : (keys m).Nodup) {key : κ} {a : α} (hmem : (key, a) ∈ m) :
    find? key m = some a := by
  induction m with
  | nil => cases hmem
  | cons entry rest ih =>
    obtain ⟨hk, hrest⟩ := List.nodup_cons.1 h
    rcases List.mem_cons.1 hmem with rfl | hmem
    · simp [find?]
    · have hne : entry.1 ≠ key := by
        rintro rfl
        exact hk (List.mem_map.2 ⟨_, hmem, rfl⟩)
      rw [find?, if_neg hne, ih hrest hmem]

/-- Maps whose keys were set in the same order are equal when they hold the same. -/
theorem eq_of_find? {m m' : Assoc κ α} (hkeys : keys m = keys m') (h : (keys m).Nodup)
    (hfind : ∀ key, find? key m = find? key m') : m = m' := by
  induction m generalizing m' with
  | nil => exact (List.map_eq_nil_iff.mp hkeys.symm).symm
  | cons entry rest ih =>
    cases m' with
    | nil => cases hkeys
    | cons entry' rest' =>
      obtain ⟨key, a⟩ := entry
      obtain ⟨key', a'⟩ := entry'
      obtain ⟨rfl, hrest⟩ : key = key' ∧ keys rest = keys rest' := List.cons.inj hkeys
      obtain ⟨hkey, hnodup⟩ := List.nodup_cons.1 h
      obtain rfl : a = a' := by simpa [find?] using hfind key
      have hnone : ∀ m : Assoc κ α, key ∉ keys m → find? key m = none := fun m hm => by
        rwa [← Option.not_isSome_iff_eq_none, ← mem_keys_iff_find?]
      have hfind' : ∀ k, find? k rest = find? k rest' := by
        intro k
        by_cases hk : key = k
        · rw [← hk, hnone rest hkey, hnone rest' (hrest ▸ hkey)]
        · simpa [find?, hk] using hfind k
      rw [ih hrest hnodup hfind']

theorem mem_of_mem_insert {key : κ} {a : α} {m : Assoc κ α} {entry : κ × α}
    (h : entry ∈ insert key a m) : entry = (key, a) ∨ entry ∈ m := by
  induction m with
  | nil => exact Or.inl (List.mem_singleton.1 h)
  | cons first rest ih => grind [insert]

theorem keys_insert (key : κ) (a : α) (m : Assoc κ α) :
    keys (insert key a m) = if key ∈ keys m then keys m else keys m ++ [key] := by
  induction m with
  | nil => simp [keys, insert]
  | cons entry rest ih => grind [keys, insert]

theorem keys_erase (key : κ) (m : Assoc κ α) :
    keys (erase key m) = (keys m).filter (· ≠ key) := by
  induction m with
  | nil => simp [keys, erase]
  | cons entry rest ih => grind [keys, erase]

theorem nodup_keys_insert (key : κ) (a : α) {m : Assoc κ α} (h : (keys m).Nodup) :
    (keys (insert key a m)).Nodup := by
  rw [keys_insert]
  split
  · exact h
  · next hk => exact List.nodup_append.2 ⟨h, by simp, by grind⟩

theorem nodup_keys_erase (key : κ) {m : Assoc κ α} (h : (keys m).Nodup) :
    (keys (erase key m)).Nodup := by
  rw [keys_erase]
  exact List.filter_sublist.nodup h

theorem erase_insert {key : κ} {m : Assoc κ α} (h : key ∉ keys m) (a : α) :
    erase key (insert key a m) = m := by
  induction m with
  | nil => simp [insert, erase]
  | cons entry rest ih => grind [insert, erase, keys]

theorem nodup_keys_insertAll {m : Assoc κ α} (h : (keys m).Nodup) (settings : Assoc κ α) :
    (keys (insertAll m settings)).Nodup := by
  induction settings generalizing m with
  | nil => exact h
  | cons entry rest ih => exact ih (nodup_keys_insert _ _ h)

theorem find?_insertAll {settings : Assoc κ α} (h : (keys settings).Nodup) (key : κ)
    (m : Assoc κ α) : find? key (insertAll m settings) = (find? key settings).or (find? key m) := by
  induction settings generalizing m with
  | nil => rfl
  | cons entry rest ih =>
    obtain ⟨k, a⟩ := entry
    obtain ⟨hk, hrest⟩ := List.nodup_cons.1 h
    rw [insertAll, ih hrest, find?_insert, find?]
    split
    · next hkey =>
      have hnone : find? key rest = none := by
        rw [← hkey, ← Option.not_isSome_iff_eq_none, ← mem_keys_iff_find?]
        exact hk
      rw [hnone]
      rfl
    · rfl

theorem mem_of_mem_insertAll {m settings : Assoc κ α} {entry : κ × α}
    (h : entry ∈ insertAll m settings) : entry ∈ settings ∨ entry ∈ m := by
  induction settings generalizing m with
  | nil => exact Or.inr h
  | cons first rest ih =>
    rcases ih h with h | h
    · exact Or.inl (List.mem_cons_of_mem _ h)
    · rcases mem_of_mem_insert h with rfl | h
      · exact Or.inl List.mem_cons_self
      · exact Or.inr h

theorem insertAll_eq_self {m settings : Assoc κ α}
    (h : ∀ entry ∈ settings, find? entry.1 m = some entry.2) : insertAll m settings = m := by
  induction settings with
  | nil => rfl
  | cons entry rest ih =>
    obtain ⟨hentry, hrest⟩ := List.forall_mem_cons.1 h
    rw [insertAll, insert_of_find? hentry, ih hrest]

theorem nodup_keys_ofList (settings : List (κ × α)) : (keys (ofList settings)).Nodup :=
  nodup_keys_insertAll (by simp [keys]) settings

theorem insert_of_not_mem {key : κ} {m : Assoc κ α} (h : key ∉ keys m) (a : α) :
    insert key a m = m ++ [(key, a)] := by
  induction m with
  | nil => rfl
  | cons entry rest ih => grind [insert, keys]

theorem insertAll_eq_append {m settings : Assoc κ α} (h : (keys (m ++ settings)).Nodup) :
    insertAll m settings = m ++ settings := by
  induction settings generalizing m with
  | nil => rw [insertAll, List.append_nil]
  | cons entry rest ih =>
    obtain ⟨k, a⟩ := entry
    have hk : k ∉ keys m := by
      intro hk
      rw [keys, List.map_append] at h
      exact (List.nodup_append.1 h).2.2 k hk k (List.mem_map_of_mem List.mem_cons_self) rfl
    rw [insertAll, insert_of_not_mem hk, ih (by simpa using h), List.append_assoc]
    rfl

theorem insert_insert_self (key : κ) (a b : α) (m : Assoc κ α) :
    insert key a (insert key b m) = insert key a m := by
  induction m with
  | nil => simp [insert]
  | cons entry rest ih => grind [insert]

theorem insert_comm {key key' : κ} (hne : key ≠ key') {m : Assoc κ α} (hmem : key ∈ keys m)
    (a b : α) : insert key a (insert key' b m) = insert key' b (insert key a m) := by
  induction m with
  | nil => simp [keys] at hmem
  | cons entry rest ih => grind [insert, keys]

theorem insert_insertAll {key : κ} {m settings : Assoc κ α} (hmem : key ∈ keys m)
    (hkey : key ∉ keys settings) (a : α) :
    insert key a (insertAll m settings) = insertAll (insert key a m) settings := by
  induction settings generalizing m with
  | nil => rfl
  | cons entry rest ih =>
    obtain ⟨k, b⟩ := entry
    obtain ⟨hne, hrest⟩ : key ≠ k ∧ key ∉ keys rest := by simpa [keys] using hkey
    have hmem' : key ∈ keys (insert k b m) := by
      rw [keys_insert]
      split
      · exact hmem
      · exact List.mem_append_left _ hmem
    rw [insertAll, insertAll, ih hmem' hrest, insert_comm hne hmem]

theorem insertAll_insert {settings : Assoc κ α} (h : (keys settings).Nodup) (key : κ) (a : α)
    (m : Assoc κ α) : insertAll m (insert key a settings) = insert key a (insertAll m settings) := by
  induction settings generalizing m with
  | nil => rfl
  | cons entry rest ih =>
    obtain ⟨k, b⟩ := entry
    obtain ⟨hk, hrest⟩ := List.nodup_cons.1 h
    rw [insert]
    split
    · next hkey =>
      subst hkey
      have hmem : k ∈ keys (insert k b m) := by
        rw [mem_keys_iff_find?, find?_insert_self]
        rfl
      rw [insertAll, insertAll, insert_insertAll hmem hk, insert_insert_self]
    · rw [insertAll, insertAll, ih hrest]

theorem map_insert (f : α → β) (key : κ) (a : α) (m : Assoc κ α) :
    (insert key a m).map (fun entry => (entry.1, f entry.2)) =
      insert key (f a) (m.map fun entry => (entry.1, f entry.2)) := by
  induction m with
  | nil => rfl
  | cons entry rest ih => grind [insert]

theorem map_insertAll (f : α → β) (m settings : Assoc κ α) :
    (insertAll m settings).map (fun entry => (entry.1, f entry.2)) =
      insertAll (m.map fun entry => (entry.1, f entry.2))
        (settings.map fun entry => (entry.1, f entry.2)) := by
  induction settings generalizing m with
  | nil => rfl
  | cons entry rest ih => rw [insertAll, ih, map_insert, List.map_cons, insertAll]

theorem insertAll_append (m settings later : Assoc κ α) :
    insertAll m (settings ++ later) = insertAll (insertAll m settings) later := by
  induction settings generalizing m with
  | nil => rfl
  | cons entry rest ih => exact ih _

theorem insertAll_insertAll {settings : Assoc κ α} (h : (keys settings).Nodup)
    (m later : Assoc κ α) :
    insertAll m (insertAll settings later) = insertAll (insertAll m settings) later := by
  induction later generalizing settings with
  | nil => rfl
  | cons entry rest ih =>
    rw [insertAll, insertAll, ih (nodup_keys_insert _ _ h), insertAll_insert h]

/-- The keys stay in their places, and the new ones follow in the order in which they are set. -/
theorem keys_insertAll (m settings : Assoc κ α) :
    keys (insertAll m settings) =
      keys m ++ ((keys settings).filter fun key => decide (key ∉ keys m)).eraseDups := by
  induction settings generalizing m with
  | nil => simp [insertAll, keys]
  | cons entry rest ih =>
    obtain ⟨k, a⟩ := entry
    have hkeys : keys ((k, a) :: rest) = k :: keys rest := rfl
    rw [insertAll, ih, keys_insert, hkeys, List.filter_cons]
    by_cases hk : k ∈ keys m
    · simp [hk]
    · have hnew : (keys rest).filter (fun key => decide (key ∉ keys m ++ [k])) =
          ((keys rest).filter fun key => decide (key ∉ keys m)).filter fun key => !key == k := by
        rw [List.filter_filter]
        refine List.filter_congr fun key _ => ?_
        by_cases hkey : key = k <;> simp [hkey]
      rw [if_neg hk, if_pos (decide_eq_true hk), List.eraseDups_cons, hnew, List.append_assoc]
      rfl

theorem ofList_eq_self {settings : Assoc κ α} (h : (keys settings).Nodup) :
    ofList settings = settings :=
  insertAll_eq_append h

end Assoc

end SplitScreen
