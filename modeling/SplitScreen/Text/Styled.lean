import SplitScreen.Text.Characters

namespace SplitScreen

structure Span where
  start : Nat
  stop : Nat
  style : String
  deriving DecidableEq, Repr

namespace Span

def shift (n : Nat) (s : Span) : Span := { s with start := s.start + n, stop := s.stop + n }

/-- What a span has of the part of a text between two places, counted from the first one. -/
def within? (start stop : Nat) (s : Span) : Option Span :=
  let first := s.start - start
  let last := min s.stop stop - start
  if first < last then some ⟨first, last, s.style⟩ else none

/-- A span in a text of a length; none of one that starts after its end. -/
def trim? (length : Nat) (s : Span) : Option Span :=
  if s.start < length then some { s with stop := min length s.stop } else none

/-- A span that goes on over blanks after a text of a length, when it reaches its end. -/
def extend (length blanks : Nat) (s : Span) : Span :=
  if length ≤ s.stop then { s with stop := s.stop + blanks } else s

end Span

structure Styled where
  chars : List Char
  spans : List Span
  deriving DecidableEq, Repr

namespace Styled

def ofString (s : String) : Styled := ⟨s.toList, []⟩

def append (s t : Styled) : Styled :=
  ⟨s.chars ++ t.chars, s.spans ++ t.spans.map (Span.shift s.chars.length)⟩

instance : Append Styled := ⟨append⟩

def join (parts : List Styled) : Styled := parts.foldl append ⟨[], []⟩

def slice (s : Styled) (start stop : Nat) : Styled :=
  ⟨(s.chars.drop start).take (stop - start), s.spans.filterMap (Span.within? start stop)⟩

def slices (s : Styled) (start : Nat) : List Nat → List Styled
  | [] => []
  | length :: rest => s.slice start (start + length) :: s.slices (start + length) rest

def divide (s : Styled) (lengths : List Nat) : List Styled :=
  if lengths.length ≤ 1 then [s] else s.slices 0 lengths

/-- The text with other characters. What is longer than they are is cut off. -/
def withChars (s : Styled) (cs : List Char) : Styled :=
  if cs.length < s.chars.length then ⟨cs, s.spans.filterMap (Span.trim? cs.length)⟩
  else { s with chars := cs }

def indent (s : Styled) (blanks : Nat) : Styled :=
  ⟨List.replicate blanks ' ' ++ s.chars, s.spans.map (Span.shift blanks)⟩

def pad (s : Styled) (blanks : Nat) : Styled :=
  { s with chars := s.chars ++ List.replicate blanks ' ' }

/-- The text before some blanks, with the styles at its end on them too. -/
def extend (s : Styled) (blanks : Nat) : Styled :=
  ⟨s.chars ++ List.replicate blanks ' ', s.spans.map (Span.extend s.chars.length blanks)⟩

/-- A text from a place on in parts, with a cut wherever some places are. -/
def cutAt (isCut : Nat → Bool) : Nat → List Char → List (List Char)
  | _, [] => []
  | i, c :: rest =>
    match cutAt isCut (i + 1) rest with
    | [] => [[c]]
    | part :: parts => if isCut (i + 1) then [c] :: part :: parts else (c :: part) :: parts

theorem flatten_cutAt (isCut : Nat → Bool) (i : Nat) (cs : List Char) :
    (cutAt isCut i cs).flatten = cs := by
  induction cs generalizing i with
  | nil => rfl
  | cons c rest ih =>
    have h := ih (i + 1)
    unfold cutAt
    split
    · next hs => rw [hs] at h; simpa using h
    · next part parts hs => rw [hs] at h; split <;> simpa using h

def segments (s : Styled) : List (List Char) :=
  cutAt (fun i => s.spans.any fun span => span.start == i || span.stop == i) 0 s.chars

@[simp] theorem flatten_segments (s : Styled) : s.segments.flatten = s.chars :=
  flatten_cutAt ..

end Styled

end SplitScreen
