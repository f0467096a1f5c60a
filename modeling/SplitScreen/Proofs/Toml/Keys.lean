import SplitScreen.Proofs.Outcome
import SplitScreen.Toml.Reader

namespace SplitScreen

/-- The keys of every table in the value are different. -/
inductive Value.Keyed : Value → Prop
  | table {entries : Assoc Text Value} (nodup : entries.keys.Nodup)
    (parts : ∀ entry ∈ entries, entry.2.Keyed) : Keyed (.table entries)
  | list {items : List Value} (parts : ∀ v ∈ items, v.Keyed) : Keyed (.list items)
  | single {v : Value} (h : Toml.isInline v = false) : Keyed v

namespace Toml

variable {t t' : Table} {k : Text} {v : Value} {cs rest : List Char}

theorem nodup_of_keyed (h : (Value.table t).Keyed) : t.keys.Nodup := by
  cases h with
  | table nodup => exact nodup
  | single h => cases h

theorem keyed_of_mem (h : (Value.table t).Keyed) {entry : Text × Value} (hentry : entry ∈ t) :
    entry.2.Keyed := by
  cases h with
  | table _ parts => exact parts entry hentry
  | single h => cases h

theorem keyed_of_find? (h : (Value.table t).Keyed) (hv : t.find? k = some v) : v.Keyed :=
  keyed_of_mem h (Assoc.mem_of_find? hv)

theorem keyed_of_mem_list {items : List Value} (h : (Value.list items).Keyed) (hv : v ∈ items) :
    v.Keyed := by
  cases h with
  | list parts => exact parts v hv
  | single h => cases h

theorem keyed_empty : (Value.table []).Keyed := .table List.nodup_nil nofun

theorem keyed_insert (ht : (Value.table t).Keyed) (hv : v.Keyed) :
    (Value.table (Assoc.insert k v t)).Keyed := by
  refine .table (Assoc.nodup_keys_insert k v (nodup_of_keyed ht)) fun entry hentry => ?_
  rcases Assoc.mem_of_mem_insert hentry with rfl | hentry
  · exact hv
  · exact keyed_of_mem ht hentry

/-- The change keeps the keys of every table different. -/
def KeepsKeys (change : Table → Option Table) : Prop :=
  ∀ {t t' : Table}, change t = some t' → (Value.table t).Keyed → (Value.table t').Keyed

theorem keepsKeys_setNew (hv : v.Keyed) : KeepsKeys (setNew k v) := by
  intro t t' h ht
  unfold setNew at h
  split at h
  · cases h
  · obtain rfl := Option.some.inj h
    exact keyed_insert ht hv

theorem keepsKeys_appendTable : KeepsKeys (appendTable k) := by
  intro t t' h ht
  unfold appendTable at h
  split at h
  · obtain rfl := Option.some.inj h
    exact keyed_insert ht (.list (List.forall_mem_singleton.mpr keyed_empty))
  · next items hitems =>
      obtain rfl := Option.some.inj h
      refine keyed_insert ht (.list fun v hv => ?_)
      rcases List.mem_append.mp hv with hv | hv
      · exact keyed_of_mem_list (keyed_of_find? ht hitems) hv
      · rw [List.mem_singleton.mp hv]
        exact keyed_empty
  · cases h

theorem keepsKeys_changeAt {change : Table → Option Table} (hchange : KeepsKeys change)
    (throughArrays : Bool) (path : List Text) : KeepsKeys (changeAt throughArrays path change) := by
  induction path with
  | nil => exact hchange
  | cons k path ih =>
      intro t t' h ht
      unfold changeAt at h
      split at h
      · obtain ⟨inner, hinner, h⟩ := Option.bind_eq_some_iff.mp h
        obtain rfl := Option.some.inj h
        exact keyed_insert ht (ih hinner keyed_empty)
      · next inner hfind =>
          obtain ⟨inner', hinner, h⟩ := Option.bind_eq_some_iff.mp h
          obtain rfl := Option.some.inj h
          exact keyed_insert ht (ih hinner (keyed_of_find? ht hfind))
      · next items hfind =>
          split at h
          · next inner hlast =>
              have hitems := keyed_of_find? ht hfind
              obtain ⟨inner', hinner, h⟩ := Option.bind_eq_some_iff.mp h
              obtain rfl := Option.some.inj h
              refine keyed_insert ht (.list fun v hv => ?_)
              rcases List.mem_append.mp hv with hv | hv
              · exact keyed_of_mem_list hitems ((List.dropLast_sublist items).subset hv)
              · rw [List.mem_singleton.mp hv]
                exact ih hinner (keyed_of_mem_list hitems (List.mem_of_getLast? hlast))
          · cases h
      · cases h

theorem isInline_dateOrMoment? {d : Date} (h : dateOrMoment? cs = some (d, v, rest)) :
    isInline v = false := by
  obtain ⟨⟨d', rest'⟩, -, h⟩ := Option.bind_eq_some_iff.mp h
  simp only at h
  split at h <;> cases h <;> rfl

theorem isInline_based {base : Nat} (h : based base cs = some (v, rest)) :
    isInline v = false := by
  unfold based at h
  simp only at h
  split at h
  · cases h
  · cases h
    rfl

theorem isInline_decimal {negative : Bool} (h : decimal negative cs = .ok (some (v, rest))) :
    isInline v = false := by
  unfold decimal at h
  simp only at h
  split at h
  · cases h
  · split at h
    · split at h <;> cases h
      rfl
    · cases h
      rfl

theorem isInline_wordNumber {negative : Bool} (h : wordNumber negative cs = some (v, rest)) :
    isInline v = false := by
  unfold wordNumber at h
  split at h <;> cases h <;> rfl

theorem isInline_signedNumber {negative : Bool} (h : signedNumber negative cs = .ok (v, rest)) :
    isInline v = false := by
  obtain ⟨found, hfound, h⟩ := exists_of_bind h
  cases found with
  | some found =>
      cases h
      exact isInline_decimal hfound
  | none =>
      simp only at h
      split at h
      · next hword =>
          cases h
          exact isInline_wordNumber hword
      · cases h

theorem isInline_number (h : number cs = .ok (v, rest)) : isInline v = false := by
  unfold number at h
  split at h
  · exact isInline_signedNumber h
  · exact isInline_signedNumber h
  · simp only at h
    split at h
    · next found hbased =>
        cases h
        split at hbased
        · exact isInline_based hbased
        · exact isInline_based hbased
        · exact isInline_based hbased
        · cases hbased
    · exact isInline_signedNumber h

theorem isInline_scalar (h : scalar cs = .ok (v, rest)) : isInline v = false := by
  unfold scalar at h
  split at h
  · next hday =>
      split at h
      · cases h
        exact isInline_dateOrMoment? hday
      · cases h
  · split at h
    · cases h
      rfl
    · exact isInline_number h

/-- What is read in a number of steps is keyed. -/
structure ReadsKeyed (steps : Nat) : Prop where
  value {cs rest : List Char} {v : Value} (h : value steps cs = .ok (v, rest)) : v.Keyed
  array {cs rest : List Char} {items : List Value} (h : array steps cs = .ok (items, rest)) :
    ∀ v ∈ items, v.Keyed
  keyValue {cs rest : List Char} {path : List Text} {v : Value}
    (h : keyValue steps cs = .ok ((path, v), rest)) : v.Keyed
  inlineTable {cs rest : List Char} {fixedPaths : List (List Text)} {t t' : Table}
    (h : inlineTable steps fixedPaths t cs = .ok (t', rest)) (ht : (Value.table t).Keyed) :
    (Value.table t').Keyed

theorem keyed_value {steps : Nat} (ih : ReadsKeyed steps)
    (h : value (steps + 1) cs = .ok (v, rest)) : v.Keyed := by
  unfold value at h
  split at h
  · obtain ⟨result, -, h⟩ := exists_of_bind h
    cases h
    exact .single rfl
  · obtain ⟨result, -, h⟩ := exists_of_bind h
    cases h
    exact .single rfl
  · obtain ⟨result, -, h⟩ := exists_of_bind h
    cases h
    exact .single rfl
  · obtain ⟨result, -, h⟩ := exists_of_bind h
    cases h
    exact .single rfl
  · cases h
    exact .single rfl
  · cases h
    exact .single rfl
  · obtain ⟨⟨items, after⟩, harray, h⟩ := exists_of_bind h
    cases h
    exact .list (ih.array harray)
  · split at h
    · cases h
      exact keyed_empty
    · obtain ⟨⟨t, after⟩, htable, h⟩ := exists_of_bind h
      cases h
      exact ih.inlineTable htable keyed_empty
  · exact .single (isInline_scalar h)

theorem keyed_array {steps : Nat} (ih : ReadsKeyed steps) {items : List Value}
    (h : array (steps + 1) cs = .ok (items, rest)) : ∀ v ∈ items, v.Keyed := by
  unfold array at h
  obtain ⟨filled, -, h⟩ := exists_of_bind h
  split at h
  · cases h
    nofun
  · obtain ⟨⟨v, after⟩, hvalue, h⟩ := exists_of_bind h
    obtain ⟨filled, -, h⟩ := exists_of_bind h
    split at h
    · cases h
      exact List.forall_mem_singleton.mpr (ih.value hvalue)
    · obtain ⟨⟨vs, after⟩, harray, h⟩ := exists_of_bind h
      cases h
      exact List.forall_mem_cons.mpr ⟨ih.value hvalue, ih.array harray⟩
    · cases h

theorem keyed_keyValue {steps : Nat} (ih : ReadsKeyed steps) {path : List Text}
    (h : keyValue (steps + 1) cs = .ok ((path, v), rest)) : v.Keyed := by
  unfold keyValue at h
  obtain ⟨⟨path', after⟩, -, h⟩ := exists_of_bind h
  simp only at h
  split at h
  · obtain ⟨⟨v', after⟩, hvalue, h⟩ := exists_of_bind h
    cases h
    exact ih.value hvalue
  · cases h

theorem keyed_inlineTable {steps : Nat} (ih : ReadsKeyed steps) {fixedPaths : List (List Text)}
    (h : inlineTable (steps + 1) fixedPaths t cs = .ok (t', rest)) (ht : (Value.table t).Keyed) :
    (Value.table t').Keyed := by
  unfold inlineTable at h
  obtain ⟨⟨⟨path, v⟩, after⟩, hentry, h⟩ := exists_of_bind h
  simp only at h
  split at h
  · cases h
  · split at h
    · cases h
    · next u hchange =>
        have hu : (Value.table u).Keyed :=
          keepsKeys_changeAt (keepsKeys_setNew (ih.keyValue hentry)) _ _ hchange ht
        split at h
        · cases h
          exact hu
        · exact ih.inlineTable h hu
        · cases h

theorem readsKeyed (steps : Nat) : ReadsKeyed steps := by
  induction steps with
  | zero =>
      constructor
      · intro cs rest v h
        simp [value] at h
      · intro cs rest items h
        simp [array] at h
      · intro cs rest path v h
        simp [keyValue] at h
      · intro cs rest fixedPaths t t' h
        simp [inlineTable] at h
  | succ steps ih =>
      constructor
      · exact keyed_value ih
      · exact keyed_array ih
      · exact keyed_keyValue ih
      · exact keyed_inlineTable ih

variable {d d' : Draft}

def Draft.Keyed (d : Draft) : Prop := (Value.table d.table).Keyed

theorem Draft.keyed_set {path : List Text} (h : d.set path v = some d') (hd : d.Keyed)
    (hv : v.Keyed) : d'.Keyed := by
  unfold set at h
  simp only at h
  split at h
  · cases h
  · obtain ⟨table, hchange, h⟩ := Option.bind_eq_some_iff.mp h
    cases h
    exact keepsKeys_changeAt (keepsKeys_setNew hv) _ _ hchange hd

theorem Draft.keyed_declareTable {path : List Text} (h : d.declareTable path = some d')
    (hd : d.Keyed) : d'.Keyed := by
  unfold declareTable at h
  split at h
  · cases h
  · obtain ⟨table, hchange, h⟩ := Option.bind_eq_some_iff.mp h
    cases h
    have hsome : KeepsKeys some := fun h ht => Option.some.inj h ▸ ht
    exact keepsKeys_changeAt hsome _ _ hchange hd

theorem Draft.keyed_declareElement {path : List Text} (h : d.declareElement path = some d')
    (hd : d.Keyed) : d'.Keyed := by
  unfold declareElement at h
  split at h
  · cases h
  · obtain ⟨table, hchange, h⟩ := Option.bind_eq_some_iff.mp h
    cases h
    exact keepsKeys_changeAt keepsKeys_appendTable _ _ hchange hd

theorem eq_some_of_orMalformed {α : Type} {x : Option α} {a : α} (h : orMalformed x = .ok a) :
    x = some a := by
  cases x with
  | none => cases h
  | some b => exact congrArg some (Except.ok.inj h)

theorem keyed_declaration (h : declaration d cs = .ok (d', rest)) (hd : d.Keyed) : d'.Keyed := by
  unfold declaration at h
  split at h
  · obtain ⟨⟨path, after⟩, -, h⟩ := exists_of_bind h
    obtain ⟨e, hdeclare, h⟩ := exists_of_bind h
    have he := Draft.keyed_declareElement (eq_some_of_orMalformed hdeclare) hd
    split at h <;> cases h
    exact he
  · obtain ⟨⟨path, after⟩, -, h⟩ := exists_of_bind h
    obtain ⟨e, hdeclare, h⟩ := exists_of_bind h
    have he := Draft.keyed_declareTable (eq_some_of_orMalformed hdeclare) hd
    split at h <;> cases h
    exact he

theorem keyed_statement (h : statement d cs = .ok (d', rest)) (hd : d.Keyed) : d'.Keyed := by
  unfold statement at h
  split at h
  · obtain ⟨⟨e, after⟩, hdeclaration, h⟩ := exists_of_bind h
    cases h
    exact keyed_declaration hdeclaration hd
  · cases h
    exact hd
  · split at h
    · obtain ⟨⟨⟨path, v⟩, after⟩, hentry, h⟩ := exists_of_bind h
      obtain ⟨e, hset, h⟩ := exists_of_bind h
      cases h
      exact Draft.keyed_set (eq_some_of_orMalformed hset) hd ((readsKeyed _).keyValue hentry)
    · cases h
  · cases h
    exact hd

theorem keyed_statements {steps : Nat} (h : statements steps d cs = .ok d') (hd : d.Keyed) :
    d'.Keyed := by
  induction steps generalizing d cs with
  | zero => simp [statements] at h
  | succ steps ih =>
      unfold statements at h
      split at h
      · cases h
        exact hd
      · exact ih h hd
      · obtain ⟨⟨e, after⟩, hstatement, h⟩ := exists_of_bind h
        have he := keyed_statement hstatement hd
        obtain ⟨left, -, h⟩ := exists_of_bind h
        split at h
        · cases h
          exact he
        · exact ih h he
        · cases h

/-- In a document that is read, the keys of every table are different. -/
theorem keyed_of_read {s : String} (h : read s = .ok t) : (Value.table t).Keyed := by
  obtain ⟨d, hstatements, h⟩ := exists_of_bind h
  cases h
  exact keyed_statements hstatements keyed_empty

end Toml

end SplitScreen
