import SplitScreen.Text.Columns

namespace SplitScreen

namespace Columns

def joiner : Char := '\u200d'

/-- Asks for the emoji form of the character before it. -/
def emojiMark : Char := '\ufe0f'

/-- The columns of a text after a character that may still widen. -/
def ofTextAfter (last : Option Char) : List Char → Nat
  | [] => 0
  | c :: rest =>
    if c = joiner then
      match rest with
      | [] => 0
      | _ :: more => ofTextAfter last more
    else if c = emojiMark then
      (if (last.map widens).getD false then 1 else 0) + ofTextAfter none rest
    else if ofChar c = 0 then ofTextAfter last rest
    else ofChar c + ofTextAfter (some c) rest

def ofText (cs : List Char) : Nat := ofTextAfter none cs

end Columns

structure Cluster where
  chars : List Char
  columns : Nat
  deriving DecidableEq, Repr

namespace Cluster

def extend (extra : List Char) (columns : Nat) : List Cluster → List Cluster
  | [] => [⟨extra, columns⟩]
  | c :: before => ⟨c.chars ++ extra, c.columns + columns⟩ :: before

def ofTextAfter (before : List Cluster) (last : Option Char) : List Char → List Cluster
  | [] => before.reverse
  | c :: rest =>
    if c = Columns.joiner then
      match rest with
      | [] => (extend [c] 0 before).reverse
      -- A joiner needs something before it; then what comes after it takes no columns.
      | joined :: more =>
        if before.isEmpty then ofTextAfter [⟨[c], 0⟩] last (joined :: more)
        else ofTextAfter (extend [c, joined] 0 before) last more
    else if c = Columns.emojiMark then
      if (last.map Columns.widens).getD false then ofTextAfter (extend [c] 1 before) none rest
      else ofTextAfter (extend [c] 0 before) last rest
    else if Columns.ofChar c = 0 then ofTextAfter (extend [c] 0 before) last rest
    else ofTextAfter (⟨[c], Columns.ofChar c⟩ :: before) (some c) rest

def ofText (cs : List Char) : List Cluster := ofTextAfter [] none cs

def flatten (clusters : List Cluster) : List Char := clusters.flatMap chars

theorem flatten_reverse_extend (extra : List Char) (columns : Nat) (before : List Cluster) :
    flatten (extend extra columns before).reverse = flatten before.reverse ++ extra := by
  cases before <;> simp [extend, flatten]

theorem flatten_ofTextAfter (cs : List Char) (before : List Cluster) (last : Option Char) :
    flatten (ofTextAfter before last cs) = flatten before.reverse ++ cs := by
  fun_induction ofTextAfter before last cs <;>
    simp_all [flatten_reverse_extend] <;> simp_all [flatten]

@[simp] theorem flatten_ofText (cs : List Char) : flatten (ofText cs) = cs :=
  flatten_ofTextAfter cs [] none

def crop (room : Nat) : List Cluster → List Char
  | [] => []
  | c :: rest =>
    if c.columns ≤ room then c.chars ++ crop (room - c.columns) rest
    else List.replicate room ' '

/-- Lines of clusters of at most some columns, after a line that has been started. -/
def chopAfter (width : Nat) (line : List Char) (filled : Nat) : List Cluster → List (List Char)
  | [] => [line]
  | c :: rest =>
    if filled + c.columns ≤ width then
      chopAfter width (line ++ c.chars) (filled + c.columns) rest
    else line :: chopAfter width c.chars c.columns rest

theorem flatten_chopAfter (width : Nat) (line : List Char) (filled : Nat) (cs : List Cluster) :
    (chopAfter width line filled cs).flatten = line ++ flatten cs := by
  induction cs generalizing line filled with
  | nil => simp [chopAfter, flatten]
  | cons c rest ih => by_cases h : filled + c.columns ≤ width <;> simp [chopAfter, h, ih, flatten]

end Cluster

namespace Columns

/-- The text in exactly some columns, with blanks at its end or cut. In no columns there is
nothing. -/
def fit (width : Nat) (cs : List Char) : List Char :=
  if width = 0 then []
  else if ofText cs ≤ width then cs ++ List.replicate (width - ofText cs) ' '
  else Cluster.crop width (Cluster.ofText cs)

def ofSegments (segments : List (List Char)) : Nat :=
  segments.foldr (fun s n => ofText s + n) 0

/-- The segments at the start of a line that leave some columns free, and of the next one as much as
fills them. -/
def cropFrom (room : Nat) : List (List Char) → List (List Char)
  | [] => []
  | s :: rest => if ofText s < room then s :: cropFrom (room - ofText s) rest else [fit room s]

def cropSegments (width : Nat) (segments : List (List Char)) : List (List Char) :=
  if ofSegments segments ≤ width then segments else cropFrom width segments

def chop (width : Nat) (cs : List Char) : List (List Char) :=
  Cluster.chopAfter width [] 0 (Cluster.ofText cs)

@[simp] theorem flatten_chop (width : Nat) (cs : List Char) : (chop width cs).flatten = cs := by
  simp [chop, Cluster.flatten_chopAfter]

end Columns

end SplitScreen
