import SplitScreen.Markup
import SplitScreen.Text.Wrap

namespace SplitScreen

theorem mem_of_mem_splitAt {isSeparator : Char → Bool} {cs part : List Char} {c : Char}
    (hpart : part ∈ splitAt isSeparator cs) (hc : c ∈ part) : c ∈ cs := by
  induction cs generalizing part with
  | nil =>
      rw [splitAt, List.mem_singleton] at hpart
      rwa [hpart] at hc
  | cons d rest ih =>
      rw [splitAt] at hpart
      split at hpart
      · rcases List.mem_cons.mp hpart with rfl | hpart
        · cases hc
        · exact List.mem_cons_of_mem _ (ih hpart hc)
      · cases hsplit : splitAt isSeparator rest with
        | nil => exact absurd hsplit (splitAt_ne_nil isSeparator rest)
        | cons first more =>
            rw [hsplit] at hpart ih
            rcases List.mem_cons.mp hpart with rfl | hpart
            · rcases List.mem_cons.mp hc with rfl | hc
              · exact List.mem_cons_self
              · exact List.mem_cons_of_mem _ (ih List.mem_cons_self hc)
            · exact List.mem_cons_of_mem _ (ih (List.mem_cons_of_mem _ hpart) hc)

variable {P : Char → Prop} {Q : String → Prop}

theorem Cluster.forall_crop (hblank : P ' ') {clusters : List Cluster}
    (h : ∀ c ∈ flatten clusters, P c) (room : Nat) : ∀ c ∈ crop room clusters, P c := by
  induction clusters generalizing room with
  | nil => nofun
  | cons first rest ih =>
      obtain ⟨hfirst, hrest⟩ := List.forall_mem_append.mp h
      rw [crop]
      split
      · exact List.forall_mem_append.mpr ⟨hfirst, ih hrest _⟩
      · intro c hc
        rwa [List.eq_of_mem_replicate hc]

namespace Columns

theorem forall_fit (hblank : P ' ') {cs : List Char} (h : ∀ c ∈ cs, P c) (width : Nat) :
    ∀ c ∈ fit width cs, P c := by
  rw [fit]
  split
  · nofun
  · split
    · refine List.forall_mem_append.mpr ⟨h, fun c hc => ?_⟩
      rwa [List.eq_of_mem_replicate hc]
    · apply Cluster.forall_crop hblank
      rwa [Cluster.flatten_ofText]

theorem forall_cropFrom (hblank : P ' ') {segments : List (List Char)}
    (h : ∀ c ∈ segments.flatten, P c) (room : Nat) :
    ∀ c ∈ (cropFrom room segments).flatten, P c := by
  induction segments generalizing room with
  | nil => nofun
  | cons first rest ih =>
      obtain ⟨hfirst, hrest⟩ := List.forall_mem_append.mp h
      rw [cropFrom]
      split
      · exact List.forall_mem_append.mpr ⟨hfirst, ih hrest _⟩
      · rw [List.flatten_singleton]
        exact forall_fit hblank hfirst room

theorem forall_cropSegments (hblank : P ' ') {segments : List (List Char)}
    (h : ∀ c ∈ segments.flatten, P c) (width : Nat) :
    ∀ c ∈ (cropSegments width segments).flatten, P c := by
  rw [cropSegments]
  split
  · exact h
  · exact forall_cropFrom hblank h width

end Columns

namespace Styled

/-- The characters and the styles of a text are of some kinds. -/
structure Within (P : Char → Prop) (Q : String → Prop) (s : Styled) : Prop where
  char : ∀ c ∈ s.chars, P c
  style : ∀ span ∈ s.spans, Q span.style

variable {s t : Styled}

theorem within_empty : (⟨[], []⟩ : Styled).Within P Q := ⟨nofun, nofun⟩

theorem Within.filterMap {f : Span → Option Span} (h : s.Within P Q)
    (hf : ∀ span cut, f span = some cut → cut.style = span.style) :
    ∀ span ∈ s.spans.filterMap f, Q span.style := by
  intro cut hcut
  obtain ⟨span, hspan, hf'⟩ := List.mem_filterMap.mp hcut
  rw [hf span cut hf']
  exact h.style span hspan

theorem Within.append (hs : s.Within P Q) (ht : t.Within P Q) : (s.append t).Within P Q := by
  constructor
  · exact List.forall_mem_append.mpr ⟨hs.char, ht.char⟩
  · refine List.forall_mem_append.mpr ⟨hs.style, fun span hspan => ?_⟩
    obtain ⟨before, hbefore, rfl⟩ := List.mem_map.mp hspan
    exact ht.style before hbefore

theorem within_join {parts : List Styled} (h : ∀ part ∈ parts, part.Within P Q) :
    (join parts).Within P Q := by
  have hfold {before : Styled} (hbefore : before.Within P Q) :
      (parts.foldl Styled.append before).Within P Q := by
    induction parts generalizing before with
    | nil => exact hbefore
    | cons part rest ih =>
        obtain ⟨hpart, hrest⟩ := List.forall_mem_cons.mp h
        exact ih hrest (hbefore.append hpart)
  exact hfold within_empty

theorem Within.slice (h : s.Within P Q) (start stop : Nat) : (s.slice start stop).Within P Q := by
  constructor
  · intro c hc
    exact h.char c (List.mem_of_mem_drop (List.mem_of_mem_take hc))
  · apply h.filterMap
    intro span cut hcut
    simp only [Span.within?] at hcut
    split at hcut
    · cases hcut
      rfl
    · cases hcut

theorem Within.slices (h : s.Within P Q) (start : Nat) (lengths : List Nat) :
    ∀ part ∈ s.slices start lengths, part.Within P Q := by
  induction lengths generalizing start with
  | nil => nofun
  | cons length rest ih => exact List.forall_mem_cons.mpr ⟨h.slice _ _, ih _⟩

theorem Within.divide (h : s.Within P Q) (lengths : List Nat) :
    ∀ part ∈ s.divide lengths, part.Within P Q := by
  rw [Styled.divide]
  split
  · exact List.forall_mem_singleton.mpr h
  · exact h.slices 0 lengths

theorem Within.withChars (h : s.Within P Q) {cs : List Char} (hcs : ∀ c ∈ cs, P c) :
    (s.withChars cs).Within P Q := by
  rw [Styled.withChars]
  split
  · refine ⟨hcs, h.filterMap ?_⟩
    intro span cut hcut
    unfold Span.trim? at hcut
    split at hcut
    · cases hcut
      rfl
    · cases hcut
  · exact ⟨hcs, h.style⟩

theorem forall_mem_blanks (hblank : P ' ') (blanks : Nat) :
    ∀ c ∈ List.replicate blanks ' ', P c := by
  intro c hc
  rwa [List.eq_of_mem_replicate hc]

theorem Within.extend (hblank : P ' ') (h : s.Within P Q) (blanks : Nat) :
    (s.extend blanks).Within P Q := by
  constructor
  · exact List.forall_mem_append.mpr ⟨h.char, forall_mem_blanks hblank blanks⟩
  · intro span hspan
    obtain ⟨before, hbefore, rfl⟩ := List.mem_map.mp hspan
    have hstyle : (before.extend s.chars.length blanks).style = before.style := by
      unfold Span.extend
      split <;> rfl
    rw [hstyle]
    exact h.style before hbefore

theorem Within.pad (hblank : P ' ') (h : s.Within P Q) (blanks : Nat) :
    (s.pad blanks).Within P Q :=
  ⟨List.forall_mem_append.mpr ⟨h.char, forall_mem_blanks hblank blanks⟩, h.style⟩

theorem Within.indent (hblank : P ' ') (h : s.Within P Q) (blanks : Nat) :
    (s.indent blanks).Within P Q := by
  refine ⟨List.forall_mem_append.mpr ⟨forall_mem_blanks hblank blanks, h.char⟩, ?_⟩
  intro span hspan
  obtain ⟨before, hbefore, rfl⟩ := List.mem_map.mp hspan
  exact h.style before hbefore

end Styled

namespace Wrap

variable {s : Styled}

theorem within_tabParts (hblank : P ' ') (h : s.Within P Q) {parts : List (List Char)}
    (hparts : ∀ part ∈ parts, ∀ c ∈ part, P c) (start column : Nat) :
    ∀ part ∈ tabParts s start column parts, part.Within P Q := by
  induction parts generalizing start column with
  | nil => nofun
  | cons part rest ih =>
      obtain ⟨hpart, hrest⟩ := List.forall_mem_cons.mp hparts
      cases rest with
      | nil =>
          rw [tabParts]
          split
          · nofun
          · exact List.forall_mem_singleton.mpr (h.slice _ _)
      | cons next more =>
          have hchars : ∀ c ∈ part ++ [' '], P c :=
            List.forall_mem_append.mpr ⟨hpart, List.forall_mem_singleton.mpr hblank⟩
          exact List.forall_mem_cons.mpr
            ⟨((h.slice _ _).withChars hchars).extend hblank _, ih hrest _ _⟩

theorem within_expandTabs (hblank : P ' ') (hempty : Q "") (h : s.Within P Q) (ground : Bool) :
    (expandTabs ground s).Within P Q := by
  have hparts : ∀ part ∈ splitAt (· = '\t') s.chars, ∀ c ∈ part, P c :=
    fun part hpart c hc => h.char c (mem_of_mem_splitAt hpart hc)
  unfold expandTabs
  split
  · exact h
  · apply Styled.within_join
    intro part hpart
    obtain ⟨before, hbefore, rfl⟩ := List.mem_map.mp hpart
    have hwithin := within_tabParts hblank h hparts 0 0 before hbefore
    split
    · exact ⟨hwithin.char, List.forall_mem_cons.mpr ⟨hempty, hwithin.style⟩⟩
    · exact hwithin

theorem within_linesFrom (h : s.Within P Q) (start : Nat) (parts : List (List Char)) :
    ∀ line ∈ linesFrom s start parts, line.Within P Q := by
  induction parts generalizing start with
  | nil => nofun
  | cons part rest ih => exact List.forall_mem_cons.mpr ⟨h.slice _ _, ih _⟩

theorem within_splitLines (h : s.Within P Q) : ∀ line ∈ splitLines s, line.Within P Q := by
  unfold splitLines
  split
  · exact List.forall_mem_singleton.mpr h
  · exact within_linesFrom h 0 _

theorem within_trimEnd (h : s.Within P Q) (width : Nat) : (trimEnd width s).Within P Q :=
  h.withChars fun c hc => h.char c (List.mem_of_mem_take hc)

/-- What a line is cut with: an ellipsis comes in the place of what is lost. -/
def Allows (P : Char → Prop) (rule : Overlong) : Prop := rule = .ellipsis → P '…'

theorem within_truncate (hblank : P ' ') {rule : Overlong} (hrule : Allows P rule)
    (h : s.Within P Q) (width : Nat) : (truncate width rule s).Within P Q := by
  unfold truncate
  split
  · exact h
  · apply h.withChars
    cases rule with
    | fold => exact Columns.forall_fit hblank h.char width
    | ellipsis =>
        exact List.forall_mem_append.mpr ⟨Columns.forall_fit hblank h.char (width - 1),
          List.forall_mem_singleton.mpr (hrule rfl)⟩

theorem within_bare (hblank : P ' ') {rule : Overlong} (hrule : Allows P rule)
    (h : s.Within P Q) (width : Nat) : (bare width rule s).Within P Q := by
  refine within_truncate hblank hrule (h.withChars fun c hc => h.char c ?_) width
  rw [Blank.dropEnd, List.mem_reverse] at hc
  exact List.mem_reverse.mp ((List.dropWhile_sublist _).subset hc)

theorem within_align (hblank : P ' ') {rule : Overlong} (hrule : Allows P rule)
    (h : s.Within P Q) (width : Nat) (alignment : Alignment) :
    (align width rule alignment s).Within P Q := by
  have hbare := within_bare hblank hrule h width
  cases alignment with
  | natural => exact h
  | left => exact (within_truncate hblank hrule h width).pad hblank _
  | centre => exact (hbare.indent hblank _).pad hblank _
  | right => exact hbare.indent hblank _

/-- The lines of a text have its characters, blanks and what they are cut with, and its styles. -/
theorem within_lines (hblank : P ' ') {rule : Overlong} (hrule : Allows P rule) (hempty : Q "")
    (h : s.Within P Q) (width : Nat) (alignment : Alignment) (ground : Bool) :
    ∀ line ∈ lines width rule alignment ground s, line.Within P Q := by
  intro line hline
  obtain ⟨whole, hwhole, hline⟩ := List.mem_flatMap.mp hline
  obtain ⟨part, hpart, rfl⟩ := List.mem_map.mp hline
  have hexpanded := within_expandTabs hblank hempty (within_splitLines h whole hwhole) ground
  have htrimmed := within_trimEnd (hexpanded.divide _ part hpart) width
  exact within_truncate hblank hrule (within_align hblank hrule htrimmed width alignment) width

end Wrap

/-- A text with markup is drawn when no character of it stands for a half, and its styles have all
their numbers. -/
def Styled.IsDrawable (s : Styled) : Prop :=
  s.Within (fun c => c.toNat < 0xf0000) (fun style => Style.isDrawable style = true)

theorem Markup.within_highlight {s : Styled} (hempty : Q "") (h : s.Within P Q) :
    (highlight s).Within P Q := by
  refine ⟨h.char, List.forall_mem_append.mpr ⟨fun span hspan => ?_, h.style⟩⟩
  obtain ⟨stretch, -, rfl⟩ := List.mem_map.mp hspan
  exact hempty

end SplitScreen
