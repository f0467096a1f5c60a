import Mathlib.Data.List.Forall2
import Mathlib.Data.List.TakeWhile
import SplitScreen.Text.Wrap

namespace SplitScreen

/-- Every character takes one column. So none is a line feed or a tab. -/
def OneColumn (cs : List Char) : Prop := ∀ c ∈ cs, Columns.ofChar c = 1

/-- The lines make up the text, but for blanks where a line ends. -/
def Wraps (cs : List Char) (lines : List (List Char)) : Prop :=
  ∃ parts, parts.flatten = cs ∧ List.Forall₂
    (fun part line => ∃ blanks, part = line ++ blanks ∧ ∀ c ∈ blanks, isBlank c = true) parts lines

theorem splitAt_eq_singleton {isSeparator : Char → Bool} {cs : List Char}
    (h : ∀ c ∈ cs, isSeparator c = false) : splitAt isSeparator cs = [cs] := by
  induction cs with
  | nil => rfl
  | cons c rest ih =>
      obtain ⟨hc, hrest⟩ := List.forall_mem_cons.mp h
      rw [splitAt, if_neg (by simp [hc]), ih hrest]

variable {cs : List Char}

namespace OneColumn

theorem append {ds : List Char} (hcs : OneColumn cs) (hds : OneColumn ds) : OneColumn (cs ++ ds) :=
  List.forall_mem_append.mpr ⟨hcs, hds⟩

theorem ne {c : Char} (h : Columns.ofChar c = 1) : c ≠ Columns.joiner ∧ c ≠ Columns.emojiMark := by
  constructor
  · rintro rfl
    exact absurd h (by decide)
  · rintro rfl
    exact absurd h (by decide)

theorem ofTextAfter_eq (h : OneColumn cs) (last : Option Char) :
    Columns.ofTextAfter last cs = cs.length := by
  induction cs generalizing last with
  | nil => rfl
  | cons c rest ih =>
      obtain ⟨hc, hrest⟩ := List.forall_mem_cons.mp h
      unfold Columns.ofTextAfter
      rw [if_neg (ne hc).1, if_neg (ne hc).2, hc, if_neg Nat.one_ne_zero, ih hrest,
        List.length_cons, Nat.add_comm]

theorem ofText_eq (h : OneColumn cs) : Columns.ofText cs = cs.length := h.ofTextAfter_eq none

theorem clusters_ofTextAfter (h : OneColumn cs) (before : List Cluster) (last : Option Char) :
    Cluster.ofTextAfter before last cs = before.reverse ++ cs.map fun c => ⟨[c], 1⟩ := by
  induction cs generalizing before last with
  | nil => rw [Cluster.ofTextAfter, List.map_nil, List.append_nil]
  | cons c rest ih =>
      obtain ⟨hc, hrest⟩ := List.forall_mem_cons.mp h
      unfold Cluster.ofTextAfter
      rw [if_neg (ne hc).1, if_neg (ne hc).2, hc, if_neg Nat.one_ne_zero, ih hrest,
        List.reverse_cons, List.append_assoc, List.map_cons]
      rfl

theorem ofSegments_eq {segments : List (List Char)} (h : OneColumn segments.flatten) :
    Columns.ofSegments segments = segments.flatten.length := by
  induction segments with
  | nil => rfl
  | cons first rest ih =>
      obtain ⟨hfirst, hrest⟩ := List.forall_mem_append.mp h
      have hcons : Columns.ofSegments (first :: rest) =
          Columns.ofText first + Columns.ofSegments rest := rfl
      rw [hcons, ofText_eq hfirst, ih hrest, List.flatten_cons, List.length_append]

theorem forall_length_chop {width : Nat} (hwidth : 1 ≤ width) (h : OneColumn cs) :
    ∀ piece ∈ Columns.chop width cs, piece.length ≤ width := by
  have hchop (line : List Char) (hline : line.length ≤ width) (rest : List Char) :
      ∀ piece ∈ Cluster.chopAfter width line line.length (rest.map fun c => ⟨[c], 1⟩),
        piece.length ≤ width := by
    induction rest generalizing line with
    | nil => exact List.forall_mem_singleton.mpr hline
    | cons c more ih =>
        rw [List.map_cons, Cluster.chopAfter]
        split
        · next hfits =>
            have hlength : (line ++ [c]).length = line.length + 1 := List.length_append
            have hmore := ih (line ++ [c]) (hlength.symm ▸ hfits)
            rwa [hlength] at hmore
        · exact List.forall_mem_cons.mpr ⟨hline, ih [c] hwidth⟩
  rw [Columns.chop, Cluster.ofText, h.clusters_ofTextAfter]
  exact hchop [] (Nat.zero_le _) cs

end OneColumn

namespace Blank

theorem exists_dropEnd (cs : List Char) :
    ∃ blanks, cs = dropEnd cs ++ blanks ∧ ∀ c ∈ blanks, isBlank c = true := by
  refine ⟨(cs.reverse.takeWhile isBlank).reverse, ?_, fun c hc => ?_⟩
  · rw [dropEnd, ← List.reverse_append, List.takeWhile_append_dropWhile, List.reverse_reverse]
  · exact List.mem_takeWhile_imp (List.mem_reverse.mp hc)

theorem length_dropEnd_le (cs : List Char) : (dropEnd cs).length ≤ cs.length := by
  obtain ⟨blanks, hcs, -⟩ := exists_dropEnd cs
  have hlength := congrArg List.length hcs
  rw [List.length_append] at hlength
  omega

theorem length_dropEnd_append_le (cs ds : List Char) :
    (dropEnd (cs ++ ds)).length ≤ cs.length + (dropEnd ds).length := by
  rw [dropEnd, dropEnd, List.reverse_append, List.dropWhile_append]
  split
  · have hcs := length_dropEnd_le cs
    rw [dropEnd] at hcs
    omega
  · rw [List.reverse_append, List.reverse_reverse, List.length_append]

end Blank

namespace Wrap

variable {width : Nat}

/-- A line fits a width when what is not blank at its end does. -/
def Fits (width : Nat) (cs : List Char) : Prop := (Blank.dropEnd cs).length ≤ width

theorem fits_of_length_le (h : cs.length ≤ width) : Fits width cs :=
  (Blank.length_dropEnd_le cs).trans h

/-- Words are put on lines that fit, and nothing is put before a line that has been started. -/
theorem forall_fits_place (hwidth : 1 ≤ width) {found : List (List Char)}
    (hfound : ∀ word ∈ found, OneColumn word) {line : List Char} (hline : OneColumn line)
    (hfits : Fits width line) :
    ∀ part ∈ place width .fold line line.length found, Fits width part := by
  induction found generalizing line with
  | nil => exact List.forall_mem_singleton.mpr hfits
  | cons word rest ih =>
      obtain ⟨hword, hrest⟩ := List.forall_mem_cons.mp hfound
      obtain ⟨blanks, heq, -⟩ := Blank.exists_dropEnd word
      have hneeded : Columns.ofText (Blank.dropEnd word) = (Blank.dropEnd word).length :=
        OneColumn.ofText_eq (List.forall_mem_append.mp (heq ▸ hword)).1
      have hbefore : ∀ part ∈ if line.isEmpty then [] else [line], Fits width part := by
        split
        · exact List.forall_mem_nil _
        · exact List.forall_mem_singleton.mpr hfits
      rw [place, hneeded]
      simp only
      split
      · next hroom =>
          have hmore := ih hrest (hline.append hword)
            ((Blank.length_dropEnd_append_le line word).trans hroom)
          rwa [List.length_append, ← hword.ofText_eq] at hmore
      · split
        · have hlength := hword.forall_length_chop hwidth
          have hmem : ∀ piece ∈ Columns.chop width word, OneColumn piece := by
            intro piece hpiece c hc
            apply hword
            rw [← Columns.flatten_chop width word]
            exact List.mem_flatten.mpr ⟨piece, hpiece, hc⟩
          have hlast : OneColumn ((Columns.chop width word).getLast?.getD []) ∧
              ((Columns.chop width word).getLast?.getD []).length ≤ width := by
            cases hpieces : (Columns.chop width word).getLast? with
            | none => exact ⟨List.forall_mem_nil _, Nat.zero_le _⟩
            | some last =>
                have hlast := List.mem_of_getLast? hpieces
                exact ⟨hmem last hlast, hlength last hlast⟩
          refine List.forall_mem_append.mpr ⟨List.forall_mem_append.mpr ⟨hbefore, ?_⟩, ?_⟩
          · exact fun part hpart =>
              fits_of_length_le (hlength part (List.dropLast_subset _ hpart))
          · rw [hlast.1.ofText_eq]
            exact ih hrest hlast.1 (fits_of_length_le hlast.2)
        · next hfold =>
            refine List.forall_mem_append.mpr ⟨hbefore, ?_⟩
            rw [hword.ofText_eq]
            exact ih hrest hword (Nat.not_lt.mp fun hlt => hfold ⟨hlt, trivial⟩)

theorem exists_place {line : List Char} (hline : line ≠ []) (width : Nat) (rule : Overlong)
    (filled : Nat) (found : List (List Char)) :
    ∃ more parts, place width rule line filled found = (line ++ more) :: parts := by
  have hbefore : (if line.isEmpty then [] else [line]) = [line] := by simp [hline]
  induction found generalizing line filled with
  | nil => exact ⟨[], [], by rw [place, List.append_nil]⟩
  | cons word rest ih =>
      rw [place]
      simp only
      split
      · have happend : line ++ word ≠ [] := by simp [hline]
        obtain ⟨more, parts, hplace⟩ := ih happend (filled + Columns.ofText word) (by simp [hline])
        exact ⟨word ++ more, parts, by rw [hplace, List.append_assoc]⟩
      · rw [hbefore]
        split
        · exact ⟨[], _, by rw [List.append_nil, List.append_assoc]; rfl⟩
        · exact ⟨[], _, by rw [List.append_nil]; rfl⟩

theorem eq_of_mem_runs {isKind : Char → Bool} {run : List Char} (hrun : run ∈ runs isKind cs) :
    ∀ c ∈ run, ∀ d ∈ run, isKind c = isKind d := by
  have hsingle (e : Char) : ∀ c ∈ [e], ∀ d ∈ [e], isKind c = isKind d := by
    intro c hc d hd
    rw [List.mem_singleton.mp hc, List.mem_singleton.mp hd]
  induction cs generalizing run with
  | nil => cases hrun
  | cons e rest ih =>
      rw [runs] at hrun
      split at hrun
      · next first part parts heq =>
          rw [heq] at ih
          split at hrun
          · next hkind =>
              rcases List.mem_cons.mp hrun with rfl | hrun
              · have hsame : ∀ c ∈ e :: first :: part, isKind c = isKind first :=
                  List.forall_mem_cons.mpr
                    ⟨hkind, fun c hc => ih List.mem_cons_self c hc first List.mem_cons_self⟩
                exact fun c hc d hd => (hsame c hc).trans (hsame d hd).symm
              · exact ih (List.mem_cons_of_mem _ hrun)
          · rcases List.mem_cons.mp hrun with rfl | hrun
            · exact hsingle e
            · exact ih hrun
      · rcases List.mem_cons.mp hrun with rfl | hrun
        · exact hsingle e
        · exact ih hrun

theorem dropEnd_of_words_eq_nil (h : words cs = []) : Blank.dropEnd cs = [] := by
  have hblank : ∀ c ∈ cs, isBlank c = true := by
    have hpairUp (part : List Char) (parts : List (List Char)) : pairUp (part :: parts) ≠ [] := by
      cases parts <;> exact nofun
    rw [← flatten_runs isBlank cs]
    unfold words at h
    split at h
    · next heq =>
        rw [heq]
        nofun
    · next first rest heq =>
        split at h
        · next hany =>
            cases rest with
            | nil =>
                obtain ⟨d, hd, hblank⟩ := List.any_eq_true.mp hany
                rw [heq, List.flatten_singleton]
                intro c hc
                have hrun : first ∈ runs isBlank cs := heq ▸ List.mem_cons_self
                exact (eq_of_mem_runs hrun c hc d hd).trans hblank
            | cons word more => exact absurd h (hpairUp _ _)
        · exact absurd h (hpairUp _ _)
  rw [Blank.dropEnd, List.dropWhile_eq_nil_iff.mpr fun c hc => hblank c (List.mem_reverse.mp hc)]
  rfl

theorem forall_fits_cut (hwidth : 1 ≤ width) (h : OneColumn cs) :
    ∀ part ∈ cut width .fold cs, Fits width part := by
  unfold cut
  split
  · next hwords =>
      have hfits : Fits width cs := by
        rw [Fits, dropEnd_of_words_eq_nil hwords]
        exact Nat.zero_le _
      exact List.forall_mem_singleton.mpr hfits
  · next hwords =>
      refine forall_fits_place hwidth (fun word hword c hc => h c ?_) nofun (Nat.zero_le _)
      rw [← flatten_words hwords]
      exact List.mem_flatten.mpr ⟨word, hword, hc⟩

theorem map_chars_slices {s : Styled} {start : Nat} {parts : List (List Char)}
    (h : s.chars.drop start = parts.flatten) :
    (s.slices start (parts.map List.length)).map Styled.chars = parts := by
  induction parts generalizing start with
  | nil => rfl
  | cons part rest ih =>
      rw [List.map_cons, Styled.slices, List.map_cons, ih]
      · rw [Styled.slice, h, Nat.add_sub_cancel_left, List.flatten_cons, List.take_left]
      · rw [← List.drop_drop, h, List.flatten_cons, List.drop_left]

theorem map_chars_divide {s : Styled} {parts : List (List Char)} (h : s.chars = parts.flatten)
    (hparts : parts ≠ []) : (s.divide (parts.map List.length)).map Styled.chars = parts := by
  rw [Styled.divide, List.length_map]
  split
  · next hlength =>
      cases parts with
      | nil => exact absurd rfl hparts
      | cons part rest =>
          obtain rfl : rest = [] := by simpa using hlength
          rw [List.map_singleton, h, List.flatten_singleton]
  · exact map_chars_slices h

@[simp] theorem chars_withChars (s : Styled) (cs : List Char) : (s.withChars cs).chars = cs := by
  rw [Styled.withChars]
  split <;> rfl

/-- A part that fits is drawn as it is, without the blanks past the width. -/
theorem drawn_of_fits {part : Styled} (h : OneColumn part.chars) (hfits : Fits width part.chars) :
    (Columns.cropSegments width (truncate width .fold (align width .fold .natural
      (trimEnd width part))).segments).flatten = part.chars.take width := by
  have hchars : (trimEnd width part).chars = part.chars.take width := by
    rw [trimEnd, chars_withChars, Nat.max_eq_left hfits]
  have hcolumns : OneColumn (trimEnd width part).chars :=
    hchars ▸ fun c hc => h c (List.mem_of_mem_take hc)
  have hlength : (trimEnd width part).chars.length ≤ width := by
    rw [hchars, List.length_take]
    exact Nat.min_le_left _ _
  rw [align, truncate, if_pos (hcolumns.ofText_eq ▸ hlength), Columns.cropSegments, if_pos,
    Styled.flatten_segments, hchars]
  rw [OneColumn.ofSegments_eq] <;> rwa [Styled.flatten_segments]

theorem drawn_eq (hwidth : 1 ≤ width) (h : OneColumn cs) (spans : List Span) :
    (lines width .fold .natural false ⟨cs, spans⟩).map (fun line =>
        (Columns.cropSegments width line.segments).flatten) =
      (cut width .fold cs).map (List.take width) := by
  have hother {d : Char} (hd : Columns.ofChar d ≠ 1) : ∀ c ∈ cs, decide (c = d) = false := by
    intro c hc
    apply decide_eq_false
    rintro rfl
    exact hd (h c hc)
  have hfeed : splitLines ⟨cs, spans⟩ = [⟨cs, spans⟩] := by
    rw [splitLines, splitAt_eq_singleton (hother (by decide))]
  have htabs : expandTabs false ⟨cs, spans⟩ = ⟨cs, spans⟩ := by
    rw [expandTabs, splitAt_eq_singleton (hother (by decide))]
  have hne : cut width .fold cs ≠ [] := by
    intro hnil
    have hcs := flatten_cut width .fold cs
    rw [hnil] at hcs
    subst hcs
    cases hnil
  have hdivide := @map_chars_divide ⟨cs, spans⟩ _ (flatten_cut width .fold cs).symm hne
  rw [lines, hfeed, List.flatMap_singleton]
  simp only [htabs]
  rw [List.map_map]
  conv_rhs => rw [← hdivide, List.map_map]
  apply List.map_congr_left
  intro part hpart
  have hcut : part.chars ∈ cut width .fold cs := hdivide ▸ List.mem_map_of_mem hpart
  refine drawn_of_fits (fun c hc => h c ?_) (forall_fits_cut hwidth h _ hcut)
  rw [← flatten_cut width .fold cs]
  exact List.mem_flatten.mpr ⟨_, hcut, hc⟩

theorem isBlank_of_mem_drop {part : List Char} (h : Fits width part) :
    ∀ c ∈ part.drop width, isBlank c = true := by
  obtain ⟨blanks, hpart, hblanks⟩ := Blank.exists_dropEnd part
  rw [hpart, List.drop_append, List.drop_eq_nil_of_le h, List.nil_append]
  exact fun c hc => hblanks c (List.mem_of_mem_drop hc)

/-- The lines of a text make it up, but for blanks where a line ends, and are not wider than the
width. -/
theorem wraps_lines (hwidth : 1 ≤ width) (h : OneColumn cs) (spans : List Span) :
    let drawn := (lines width .fold .natural false ⟨cs, spans⟩).map fun line =>
      (Columns.cropSegments width line.segments).flatten
    Wraps cs drawn ∧ ∀ line ∈ drawn, line.length ≤ width := by
  intro drawn
  have hdrawn : drawn = (cut width .fold cs).map (List.take width) := drawn_eq hwidth h spans
  rw [hdrawn]
  refine ⟨⟨_, flatten_cut width .fold cs, ?_⟩, fun line hline => ?_⟩
  · rw [List.forall₂_map_right_iff, List.forall₂_same]
    intro part hpart
    exact ⟨part.drop width, (List.take_append_drop width part).symm,
      isBlank_of_mem_drop (forall_fits_cut hwidth h part hpart)⟩
  · obtain ⟨part, -, rfl⟩ := List.mem_map.mp hline
    rw [List.length_take]
    exact Nat.min_le_left _ _

theorem runs_append {isKind : Char → Bool} {run rest : List Char} {c : Char} (hrun : run ≠ [])
    (hkind : ∀ d ∈ run, isKind d ≠ isKind c) :
    runs isKind (run ++ c :: rest) = run :: runs isKind (c :: rest) := by
  obtain ⟨part, parts, hrest⟩ : ∃ part parts, runs isKind (c :: rest) = (c :: part) :: parts := by
    rw [runs]
    split
    · split
      · exact ⟨_, _, rfl⟩
      · exact ⟨_, _, rfl⟩
    · exact ⟨_, _, rfl⟩
  induction run with
  | nil => exact absurd rfl hrun
  | cons d more ih =>
      obtain ⟨hd, hmore⟩ := List.forall_mem_cons.mp hkind
      cases more with
      | nil =>
          rw [List.singleton_append, runs, hrest]
          simp only
          rw [if_neg hd]
      | cons e others =>
          have hsame : isKind d = isKind e := by
            have he := hmore e List.mem_cons_self
            revert hd he
            cases isKind d <;> cases isKind e <;> cases isKind c <;> decide
          rw [List.cons_append, runs, ih (List.cons_ne_nil e others) hmore]
          simp only
          rw [if_pos hsame]

theorem words_of_word {word rest : List Char} {c : Char} (hword : word ≠ [])
    (hblank : ∀ d ∈ word, isBlank d = false) (hc : isBlank c = false) :
    words (word ++ ' ' :: c :: rest) = (word ++ [' ']) :: pairUp (runs isBlank (c :: rest)) := by
  have hspace : isBlank ' ' = true := by decide
  have hruns : runs isBlank (word ++ ' ' :: c :: rest) =
      word :: [' '] :: runs isBlank (c :: rest) := by
    have hnext := @runs_append isBlank [' '] rest c nofun (by simp [hspace, hc])
    rw [runs_append hword fun d hd => by rw [hblank d hd, hspace]; decide]
    exact congrArg (word :: ·) hnext
  have hany : word.any isBlank = false := by
    rw [List.any_eq_false]
    exact fun d hd => by simp [hblank d hd]
  rw [words, hruns]
  simp only
  rw [if_neg (by simp [hany]), pairUp]

theorem dropEnd_word {word : List Char} (hblank : ∀ d ∈ word, isBlank d = false) :
    Blank.dropEnd (word ++ [' ']) = word := by
  have hspace : isBlank ' ' = true := by decide
  have hself : word.reverse.dropWhile isBlank = word.reverse := by
    rw [List.dropWhile_eq_self_iff]
    intro hlength
    exact Bool.not_eq_true _ ▸ hblank _ (List.mem_reverse.mp (List.getElem_mem hlength))
  rw [Blank.dropEnd, List.reverse_append, List.reverse_singleton, List.singleton_append,
    List.dropWhile_cons_of_pos hspace, hself, List.reverse_reverse]

/-- A first word that fits is at the start of the first line. -/
theorem exists_lines_of_word {word rest : List Char} {c : Char}
    (h : OneColumn (word ++ ' ' :: c :: rest)) (hword : word ≠ [])
    (hblank : ∀ d ∈ word, isBlank d = false) (hc : isBlank c = false) (hfits : word.length ≤ width)
    (spans : List Span) :
    ∃ more others, (lines width .fold .natural false ⟨word ++ ' ' :: c :: rest, spans⟩).map
      (fun line => (Columns.cropSegments width line.segments).flatten) =
        (word ++ more) :: others := by
  have hwidth : 1 ≤ width := (List.length_pos_iff.mpr hword).trans_le hfits
  have hcolumns : OneColumn word := (List.forall_mem_append.mp h).1
  have hneeded : 0 + Columns.ofText (Blank.dropEnd (word ++ [' '])) ≤ width := by
    rwa [dropEnd_word hblank, hcolumns.ofText_eq, Nat.zero_add]
  have hcut : cut width .fold (word ++ ' ' :: c :: rest) =
      place width .fold (word ++ [' ']) (0 + Columns.ofText (word ++ [' ']))
        (pairUp (runs isBlank (c :: rest))) := by
    rw [cut, words_of_word hword hblank hc]
    simp only
    rw [place, if_pos hneeded, List.nil_append]
  obtain ⟨more, parts, hplace⟩ := @exists_place (word ++ [' ']) (by simp) width .fold
    (0 + Columns.ofText (word ++ [' '])) (pairUp (runs isBlank (c :: rest)))
  rw [drawn_eq hwidth h, hcut, hplace, List.map_cons, List.append_assoc, List.take_append,
    List.take_of_length_le hfits]
  exact ⟨_, _, rfl⟩

end Wrap

end SplitScreen
