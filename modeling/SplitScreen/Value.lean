import SplitScreen.Text

namespace SplitScreen

structure Date where
  year : Nat
  month : Nat
  day : Nat
  deriving DecidableEq, Repr

structure TimeOfDay where
  hour : Nat
  minute : Nat
  second : Nat
  micro : Nat
  deriving DecidableEq, Repr

/-- A value of a data file. The entries of a table are in file order. -/
inductive Value
  | null
  | bool (b : Bool)
  | int (n : Int)
  | float (x : Float)
  | text (s : Text)
  | list (items : List Value)
  | tuple (items : List Value)
  | table (entries : List (Text × Value))
  | date (d : Date)
  | time (t : TimeOfDay)
  /-- A day and a time, with the offset from universal time in minutes when it is given. -/
  | moment (d : Date) (t : TimeOfDay) (offset : Option Int)

namespace Value

instance : Inhabited Value := ⟨null⟩

/-- The kind of a value, as messages name it. -/
def kindName : Value → String
  | null => "NoneType"
  | bool _ => "bool"
  | int _ => "int"
  | float _ => "float"
  | text _ => "str"
  | list _ => "list"
  | tuple _ => "tuple"
  | table _ => "dict"
  | date _ => "date"
  | time _ => "time"
  | moment .. => "datetime"

/-- A mark counts as set unless it is null, false, a zero or empty. -/
def isSet : Value → Bool
  | null => false
  | bool b => b
  | int n => decide (n ≠ 0)
  | float x => !(x == 0.0)
  | text s => !s.isEmpty
  | list items => !items.isEmpty
  | tuple items => !items.isEmpty
  | table entries => !entries.isEmpty
  | date _ | time _ | moment .. => true

def hasElements : Value → Bool
  | list _ | tuple _ | text _ | table _ => true
  | _ => false

def elements : Value → List Value
  | list items | tuple items => items
  | text s => s.symbols.map fun symbol => text ⟨[symbol]⟩
  | table entries => entries.map fun entry => text entry.1
  | _ => []

end Value

namespace Value

mutual

def same : Value → Value → Bool
  | null, null => true
  | bool a, bool b => decide (a = b)
  | int m, int n => decide (m = n)
  | float x, float y => decide (x = y)
  | text s, text t => decide (s = t)
  | list items, list others => sameItems items others
  | tuple items, tuple others => sameItems items others
  | table entries, table others => sameEntries entries others
  | date d, date e => decide (d = e)
  | time t, time u => decide (t = u)
  | moment d t offset, moment e u shift => decide (d = e ∧ t = u ∧ offset = shift)
  | _, _ => false

def sameItems : List Value → List Value → Bool
  | [], [] => true
  | v :: rest, w :: others => same v w && sameItems rest others
  | _, _ => false

def sameEntries : List (Text × Value) → List (Text × Value) → Bool
  | [], [] => true
  | (k, v) :: rest, (l, w) :: others => decide (k = l) && same v w && sameEntries rest others
  | _, _ => false

end

mutual

theorem same_self (v : Value) : same v v = true := by
  cases v with
  | list items | tuple items => exact sameItems_self items
  | table entries => exact sameEntries_self entries
  | _ => simp [same]

theorem sameItems_self (items : List Value) : sameItems items items = true := by
  cases items with
  | nil => rfl
  | cons v rest => simp [sameItems, same_self v, sameItems_self rest]

theorem sameEntries_self (entries : List (Text × Value)) : sameEntries entries entries = true := by
  cases entries with
  | nil => rfl
  | cons entry rest => simp [sameEntries, same_self entry.2, sameEntries_self rest]

end

mutual

theorem eq_of_same {v w : Value} (h : same v w = true) : v = w := by
  unfold same at h
  split at h
  · rfl
  · rw [of_decide_eq_true h]
  · rw [of_decide_eq_true h]
  · rw [of_decide_eq_true h]
  · rw [of_decide_eq_true h]
  · rw [eq_of_sameItems h]
  · rw [eq_of_sameItems h]
  · rw [eq_of_sameEntries h]
  · rw [of_decide_eq_true h]
  · rw [of_decide_eq_true h]
  · obtain ⟨rfl, rfl, rfl⟩ := of_decide_eq_true h
    rfl
  · cases h

theorem eq_of_sameItems {items others : List Value} (h : sameItems items others = true) :
    items = others := by
  unfold sameItems at h
  split at h
  · rfl
  · obtain ⟨hv, hrest⟩ := Bool.and_eq_true_iff.mp h
    rw [eq_of_same hv, eq_of_sameItems hrest]
  · cases h

theorem eq_of_sameEntries {entries others : List (Text × Value)}
    (h : sameEntries entries others = true) : entries = others := by
  unfold sameEntries at h
  split at h
  · rfl
  · obtain ⟨hentry, hrest⟩ := Bool.and_eq_true_iff.mp h
    obtain ⟨hk, hv⟩ := Bool.and_eq_true_iff.mp hentry
    rw [of_decide_eq_true hk, eq_of_same hv, eq_of_sameEntries hrest]
  · cases h

end

instance : DecidableEq Value := fun v w =>
  decidable_of_iff (same v w = true) ⟨eq_of_same, fun h => h ▸ same_self v⟩

end Value

end SplitScreen
