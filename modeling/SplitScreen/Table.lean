import SplitScreen.Markup
import SplitScreen.Text.Characters
import SplitScreen.Text.Wrap

namespace SplitScreen

structure Column where
  heading : String
  alignment : Alignment
  entries : List Styled

structure Table where
  title : Styled
  columns : List Column

namespace Table

def padding : Nat := 2

def measure (entry : Styled) : Nat :=
  ((splitAt isLineEnd entry.chars).map Columns.ofText).foldl max 0

def cells (c : Column) : List Styled := Styled.ofString c.heading :: c.entries

def naturalWidth (available : Nat) (c : Column) : Nat :=
  min available (((cells c).map measure).foldl max 0 + padding)

def total : List Nat → Nat
  | [] => 0
  | w :: rest => w + total rest

/-- The quotient to the nearest whole number, a half to the even one. -/
def roundDiv (n d : Nat) : Nat :=
  let q := n / d
  let r := n % d
  if d < 2 * r ∨ (2 * r = d ∧ q % 2 = 1) then q + 1 else q

/-- Takes an excess off the columns of a width in equal shares, no share above a limit. The shares
are for a number of columns that are still to come. -/
def reduceShares (width limit : Nat) : Nat → Nat → List Nat → List Nat
  | _, _, [] => []
  | excess, count, w :: rest =>
    if w = width then
      let share := min limit (roundDiv excess count)
      -- What rounding takes too much or too little here is left to the columns after this one.
      (w - share) :: reduceShares width limit (excess - share) (count - 1) rest
    else w :: reduceShares width limit excess count rest

/-- Takes an excess off the widest columns, at most down to the next width. -/
def reduceWidest (excess : Nat) (widths : List Nat) : List Nat :=
  let widest := widths.foldl max 0
  let next := (widths.filter (· ≠ widest)).foldl max 0
  reduceShares widest (min excess (widest - next)) excess (widths.count widest) widths

theorem total_reduceShares_le (width limit excess count : Nat) (widths : List Nat) :
    total (reduceShares width limit excess count widths) ≤ total widths := by
  induction widths generalizing excess count with
  | nil => simp [reduceShares]
  | cons w rest ih =>
    by_cases h : w = width
    · have := ih (excess - min limit (roundDiv excess count)) (count - 1)
      simp only [reduceShares, if_pos h, total]; omega
    · have := ih excess count
      simp only [reduceShares, if_neg h, total]; omega

def fitWidths (available : Nat) (widths : List Nat) : List Nat :=
  if available < total widths then
    let reduced := reduceWidest (total widths - available) widths
    -- A reduction that takes nothing would take nothing again.
    if total reduced < total widths then fitWidths available reduced else reduced
  else widths
termination_by total widths

theorem total_fitWidths_le (available : Nat) (widths : List Nat) :
    total (fitWidths available widths) ≤ total widths := by
  fun_induction fitWidths available widths with
  | case1 widths _ reduced h ih => exact Nat.le_trans ih (Nat.le_of_lt h)
  | case2 widths _ reduced _ => exact total_reduceShares_le ..
  | case3 => exact Nat.le_refl _

/-- A line of the frame: its left end, what it is drawn with, its crossings and its right end. -/
structure Edge where
  left : Char
  line : Char
  cross : Char
  right : Char

def topEdge : Edge := ⟨'┏', '━', '┳', '┓'⟩

def headingEdge : Edge := ⟨'┡', '━', '╇', '┩'⟩

def bottomEdge : Edge := ⟨'└', '─', '┴', '┘'⟩

def headingBar : Char := '┃'

def rowBar : Char := '│'

def drawEdge (e : Edge) (widths : List Nat) : List Char :=
  e.left :: [e.cross].intercalate (widths.map fun w => List.replicate w e.line) ++ [e.right]

/-- The segments of a line in exactly some columns. Each one is measured on its own. -/
def fitSegments (width : Nat) (segments : List (List Char)) : List (List Char) :=
  Columns.cropSegments width segments ++ [Wrap.blanks (width - Columns.ofSegments segments)]

def entryLines (width : Nat) (alignment : Alignment) (entry : Styled) :
    Except Markup.Fault (List (List Char)) :=
  (Wrap.lines (width - padding) .ellipsis alignment false entry).mapM fun line => do
    let segments ← Markup.segments line
    let inner := fitSegments (width - padding) segments
    return (fitSegments width ([' '] :: inner ++ [[' ']])).flatten

def drawRow (bar : Char) (cells : List (Nat × Alignment × Styled)) :
    Except Markup.Fault (List (List Char)) := do
  let parts ← cells.mapM fun (width, alignment, entry) =>
    return (width, ← entryLines width alignment entry)
  let height := (parts.map fun part => part.2.length).foldl max 1
  return (List.range height).map fun i =>
    bar :: [bar].intercalate (parts.map fun (width, lines) =>
      lines[i]?.getD (Wrap.blanks width)) ++ [bar]

def drawTitle (width terminal : Nat) (title : Styled) : Except Markup.Fault (List (List Char)) :=
  (Wrap.lines width .fold .centre true title).mapM fun line =>
    return (Columns.cropSegments terminal (← Markup.segments line)).flatten

def draw (t : Table) (terminal : Nat) : Except Markup.Fault (List (List Char)) := do
  let available := terminal - (t.columns.length + 1)
  let widths := fitWidths available (t.columns.map (naturalWidth available))
  let row (bar : Char) (entry : Column → Styled) : Except Markup.Fault (List (List Char)) :=
    drawRow bar ((widths.zip t.columns).map fun (w, c) => (w, c.alignment, entry c))
  let height := (t.columns.map fun c => c.entries.length).foldl max 0
  let title ← drawTitle (total widths + t.columns.length + 1) terminal t.title
  let heading ← row headingBar fun c => Styled.ofString c.heading
  let rows ← (List.range height).mapM fun i => row rowBar fun c => c.entries[i]?.getD ⟨[], []⟩
  return title ++ [drawEdge topEdge widths] ++ heading ++ [drawEdge headingEdge widths]
    ++ rows.flatten ++ [drawEdge bottomEdge widths]

end Table

end SplitScreen
