namespace SplitScreen

def inRanges (ranges : List (Nat × Nat)) (c : Char) : Bool :=
  ranges.any fun range => range.1 ≤ c.toNat && c.toNat ≤ range.2

/-- The control characters that no text on the terminal holds: bell, backspace, vertical tab, form
feed and carriage return. -/
def isStripped (c : Char) : Bool :=
  c = '\x07' || c = '\x08' || c = '\x0b' || c = '\x0c' || c = '\r'

def strip (cs : List Char) : List Char := cs.filter (!isStripped ·)

def splitAt (isSeparator : Char → Bool) : List Char → List (List Char)
  | [] => [[]]
  | c :: rest =>
    if isSeparator c then [] :: splitAt isSeparator rest
    else
      match splitAt isSeparator rest with
      | [] => [[c]]
      | part :: parts => (c :: part) :: parts

theorem splitAt_ne_nil (isSeparator : Char → Bool) (cs : List Char) :
    splitAt isSeparator cs ≠ [] := by
  cases cs with
  | nil => simp [splitAt]
  | cons c rest => unfold splitAt; split <;> (try split) <;> simp

/-- The longest parts of a text whose characters are all of a kind, or all not. -/
def runs (isKind : Char → Bool) : List Char → List (List Char)
  | [] => []
  | c :: rest =>
    match runs isKind rest with
    | (d :: part) :: parts =>
      if isKind c = isKind d then (c :: d :: part) :: parts else [c] :: (d :: part) :: parts
    | parts => [c] :: parts

@[simp] theorem flatten_runs (isKind : Char → Bool) (cs : List Char) :
    (runs isKind cs).flatten = cs := by
  induction cs with
  | nil => rfl
  | cons c rest ih =>
    unfold runs
    split
    · next d part parts h => split <;> simp_all
    · simp_all

def isLineEnd (c : Char) : Bool :=
  ('\n' ≤ c && c ≤ '\r') || ('\x1c' ≤ c && c ≤ '\x1e') || c == '\x85'
    || c == '\u2028' || c == '\u2029'

def firstLine (s : String) : String := String.ofList (s.toList.takeWhile (!isLineEnd ·))

namespace Blank

/-- The code points of white space, as closed ranges: those of the Unicode property and the four
information separators. -/
def ranges : List (Nat × Nat) :=
  [(0x9, 0xd), (0x1c, 0x20), (0x85, 0x85), (0xa0, 0xa0), (0x1680, 0x1680), (0x2000, 0x200a),
   (0x2028, 0x2029), (0x202f, 0x202f), (0x205f, 0x205f), (0x3000, 0x3000)]

end Blank

def isBlank (c : Char) : Bool := inRanges Blank.ranges c

namespace Blank

def dropEnd (cs : List Char) : List Char := (cs.reverse.dropWhile isBlank).reverse

def trim (cs : List Char) : List Char := dropEnd (cs.dropWhile isBlank)

def words (cs : List Char) : List (List Char) :=
  (runs isBlank cs).filter fun run => run.any (!isBlank ·)

end Blank

end SplitScreen
