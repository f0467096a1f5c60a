import SplitScreen.Assoc
import SplitScreen.Layout
import SplitScreen.Value.Described

namespace SplitScreen

inductive ShapeError
  | notTable (found : Value)
  | invalidView (view : Value)
  | noShape
  | invalidDirection (direction : Value)
  | invalidRatio (ratio : Value)
  | missingPart

namespace ShapeError

def message : ShapeError → String
  | notTable found => s!"layout node must be a table, got {found.kindName}"
  | invalidView view => view.describeAfter "invalid view: "
  | noShape => "layout node needs either 'view' or 'split'"
  | invalidDirection direction => direction.describeAfter "invalid split direction: "
  | invalidRatio ratio => ratio.describeAfter "invalid ratio: "
  | missingPart => "split node needs 'first' and 'second'"

end ShapeError

namespace Layout

def readView : Value → Except ShapeError View
  | .text s => if s.isEmpty then .error (.invalidView (.text s)) else .ok (View.ofName s)
  | view => .error (.invalidView view)

def readDirection : Value → Except ShapeError Direction
  | .text s =>
    match s.toString?.bind Direction.ofName? with
    | some d => .ok d
    | none => .error (.invalidDirection (.text s))
  | direction => .error (.invalidDirection direction)

def readRatio : Option Value → Except ShapeError Ratio
  | none => .ok .even
  | some ratio =>
    match Ratio.ofValue? ratio with
    | some r => .ok r
    | none => .error (.invalidRatio ratio)

theorem sizeOf_lt_of_find? {entries : Assoc Text Value} {key : Text} {v : Value}
    (h : Assoc.find? key entries = some v) : sizeOf v < 1 + sizeOf entries := by
  induction entries with
  | nil => simp at h
  | cons entry rest ih =>
    obtain ⟨k, w⟩ := entry
    simp only [Assoc.find?] at h
    split at h
    · injection h with h; subst h; simp; omega
    · have := ih h; simp; omega

/-- Reads a layout; the first fault wins, and the first part comes before the second. -/
def ofValue : Value → Except ShapeError (Layout Ratio)
  | .table entries =>
    match Assoc.find? ("view" : Text) entries with
    -- A table with a view is a pane, whatever else it holds.
    | some view => do
      let view ← readView view
      return pane view (((Assoc.find? ("focused" : Text) entries).map Value.isSet).getD false)
    | none =>
      match Assoc.find? ("split" : Text) entries with
      | none => .error .noShape
      | some direction => do
        let direction ← readDirection direction
        let ratio ← readRatio (Assoc.find? ("ratio" : Text) entries)
        -- Both parts have to be there before either of them is read.
        match h₁ : Assoc.find? ("first" : Text) entries,
            h₂ : Assoc.find? ("second" : Text) entries with
        | some first, some second =>
          have := sizeOf_lt_of_find? h₁
          have := sizeOf_lt_of_find? h₂
          return split direction ratio (← ofValue first) (← ofValue second)
        | _, _ => .error .missingPart
  | other => .error (.notTable other)
termination_by v => sizeOf v

/-- The plain data of a layout. The mark is left out of a pane that does not have it. -/
def toValue : Layout Value → Value
  | pane view focused =>
    .table (("view", .text view.name) :: if focused then [("focused", .bool true)] else [])
  | split direction ratio first second =>
    .table [("split", .text direction.name), ("ratio", .list ratio.elements),
      ("first", first.toValue), ("second", second.toValue)]

end Layout

end SplitScreen
