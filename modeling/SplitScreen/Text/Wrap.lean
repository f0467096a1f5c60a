import SplitScreen.Text.Characters
import SplitScreen.Text.Cluster
import SplitScreen.Text.Styled

namespace SplitScreen

/-- Where a line stands in its width. A natural line is left as it is. -/
inductive Alignment
  | natural
  | left
  | centre
  | right
  deriving DecidableEq, Repr

/-- What becomes of a word that is wider than a line. -/
inductive Overlong
  | fold
  /-- It is cut, with an ellipsis for what is lost. -/
  | ellipsis
  deriving DecidableEq, Repr

namespace Wrap

def tabWidth : Nat := 8

def blanks (n : Nat) : List Char := List.replicate n ' '

/-- The parts of a line that end with its tabs, from a place and a column on. A blank takes the
place of a tab, and more of them reach to the next column for tabs. Nothing after the last tab is no
part. -/
def tabParts (s : Styled) (start column : Nat) : List (List Char) → List Styled
  | [] => []
  | [last] => if last.isEmpty then [] else [s.slice start (start + last.length)]
  | part :: rest =>
    let stop := start + part.length + 1
    let reached := column + Columns.ofText (part ++ [' '])
    let filler := (tabWidth - reached % tabWidth) % tabWidth
    ((s.slice start stop).withChars (part ++ [' '])).extend filler
      :: tabParts s stop (reached + filler) rest

def expandTabs (ground : Bool) (s : Styled) : Styled :=
  match splitAt (· = '\t') s.chars with
  | [_] => s
  | found =>
    Styled.join ((tabParts s 0 0 found).map fun part =>
      if ground then { part with spans := ⟨0, part.chars.length, ""⟩ :: part.spans } else part)

def pairUp : List (List Char) → List (List Char)
  | word :: blank :: rest => (word ++ blank) :: pairUp rest
  | rest => rest

/-- The words of a line with the blanks after them; the first also has those before it. A line of
blanks has none. -/
def words (cs : List Char) : List (List Char) :=
  match runs isBlank cs with
  | [] => []
  | first :: rest =>
    if first.any isBlank then
      match rest with
      | [] => []
      | word :: more => pairUp ((first ++ word) :: more)
    else pairUp (first :: rest)

/-- Puts words on lines, after a line of which some columns are filled. -/
def place (width : Nat) (rule : Overlong) (line : List Char) (filled : Nat) :
    List (List Char) → List (List Char)
  | [] => [line]
  | word :: rest =>
    -- The blanks after a word may stand out at the end of a line.
    let needed := Columns.ofText (Blank.dropEnd word)
    if filled + needed ≤ width then
      place width rule (line ++ word) (filled + Columns.ofText word) rest
    else
      let before := if line.isEmpty then [] else [line]
      if width < needed ∧ rule = .fold then
        let pieces := Columns.chop width word
        -- The last piece of a folded word starts a line that other words go on with.
        let last := pieces.getLast?.getD []
        before ++ pieces.dropLast ++ place width rule last (Columns.ofText last) rest
      else before ++ place width rule word (Columns.ofText word) rest

def cut (width : Nat) (rule : Overlong) (cs : List Char) : List (List Char) :=
  match words cs with
  | [] => [cs]
  | found => place width rule [] 0 found

theorem flatten_pairUp (parts : List (List Char)) : (pairUp parts).flatten = parts.flatten := by
  fun_induction pairUp parts with
  | case1 word blank rest ih => simp [ih]
  | case2 => rfl

theorem flatten_words {cs : List Char} (h : words cs ≠ []) : (words cs).flatten = cs := by
  have hs := flatten_runs isBlank cs
  revert h
  unfold words
  generalize runs isBlank cs = found at hs ⊢
  cases found with
  | nil => simp
  | cons first rest =>
    dsimp only
    cases first.any isBlank with
    | false => intro _; simpa [flatten_pairUp] using hs
    | true =>
      cases rest with
      | nil => simp
      | cons word more => intro _; simpa [flatten_pairUp] using hs

theorem flatten_place (width : Nat) (rule : Overlong) (line : List Char) (filled : Nat)
    (found : List (List Char)) :
    (place width rule line filled found).flatten = line ++ found.flatten := by
  induction found generalizing line filled with
  | nil => simp [place]
  | cons word rest ih =>
    have hbefore : (if line.isEmpty then [] else [line]).flatten = line := by
      cases line <;> simp
    have hchop : (Columns.chop width word).dropLast.flatten
        ++ (Columns.chop width word).getLast?.getD [] = word := by
      have h := Columns.flatten_chop width word
      rcases List.eq_nil_or_concat (Columns.chop width word) with hn | ⟨init, last, hl⟩
      · rw [hn] at h ⊢; simpa using h
      · rw [hl] at h ⊢; simpa using h
    simp only [place]
    by_cases hfit : filled + Columns.ofText (Blank.dropEnd word) ≤ width
    · simp [hfit, ih]
    · by_cases hfold : width < Columns.ofText (Blank.dropEnd word) ∧ rule = .fold
      · rw [if_neg hfit, if_pos hfold, List.flatten_append, List.flatten_append, hbefore, ih,
          List.append_assoc, ← List.append_assoc (List.flatten _), hchop]
        simp
      · rw [if_neg hfit, if_neg hfold, List.flatten_append, hbefore, ih]
        simp

theorem flatten_cut (width : Nat) (rule : Overlong) (cs : List Char) :
    (cut width rule cs).flatten = cs := by
  unfold cut
  split
  · simp
  · next h => rw [flatten_place, flatten_words h]; simp

def trimEnd (width : Nat) (s : Styled) : Styled :=
  s.withChars (s.chars.take (max width (Blank.dropEnd s.chars).length))

def cutOff (width : Nat) (rule : Overlong) (cs : List Char) : List Char :=
  match rule with
  | .fold => Columns.fit width cs
  | .ellipsis => Columns.fit (width - 1) cs ++ ['…']

def truncate (width : Nat) (rule : Overlong) (s : Styled) : Styled :=
  if Columns.ofText s.chars ≤ width then s else s.withChars (cutOff width rule s.chars)

/-- The line without the blanks at its end, cut when it is too wide. -/
def bare (width : Nat) (rule : Overlong) (s : Styled) : Styled :=
  truncate width rule (s.withChars (Blank.dropEnd s.chars))

def free (width : Nat) (s : Styled) : Nat := width - Columns.ofText s.chars

def align (width : Nat) (rule : Overlong) (alignment : Alignment) (s : Styled) : Styled :=
  match alignment with
  | .natural => s
  | .left => (truncate width rule s).pad (free width s)
  | .centre =>
    let middle := bare width rule s
    let placed := middle.indent (free width middle / 2)
    placed.pad (free width placed)
  | .right =>
    let middle := bare width rule s
    middle.indent (free width middle)

/-- The lines of a text without its line feeds, from a place on. -/
def linesFrom (s : Styled) (start : Nat) : List (List Char) → List Styled
  | [] => []
  | line :: rest =>
    s.slice start (start + line.length) :: linesFrom s (start + line.length + 1) rest

def splitLines (s : Styled) : List Styled :=
  match splitAt (· = '\n') s.chars with
  | [_] => [s]
  | found => linesFrom s 0 found

/-- The lines of a text in a width. The text may have a style of its own, beside those on its parts.
-/
def lines (width : Nat) (rule : Overlong) (alignment : Alignment) (ground : Bool) (text : Styled) :
    List Styled :=
  (splitLines text).flatMap fun line =>
    let line := expandTabs ground line
    (line.divide ((cut width rule line.chars).map List.length)).map fun part =>
      truncate width rule (align width rule alignment (trimEnd width part))

end Wrap

end SplitScreen
