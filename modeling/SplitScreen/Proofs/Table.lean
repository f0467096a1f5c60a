import SplitScreen.Proofs.Printing

namespace SplitScreen

theorem exists_mapM_eq_ok {ε α β : Type} {f : α → Except ε β} {Q : β → Prop} {items : List α}
    (h : ∀ a ∈ items, ∃ b, f a = .ok b ∧ Q b) :
    ∃ bs, items.mapM f = .ok bs ∧ ∀ b ∈ bs, Q b := by
  induction items with
  | nil => exact ⟨[], rfl, nofun⟩
  | cons a rest ih =>
      obtain ⟨⟨b, hb, hQ⟩, hrest⟩ := List.forall_mem_cons.mp h
      obtain ⟨bs, hbs, hQs⟩ := ih hrest
      refine ⟨b :: bs, ?_, List.forall_mem_cons.mpr ⟨hQ, hQs⟩⟩
      rw [List.mapM_cons, hb, hbs]
      rfl

theorem forall_mem_intercalate {α : Type} {P : α → Prop} {sep : List α} {parts : List (List α)}
    (hsep : ∀ a ∈ sep, P a) (hparts : ∀ part ∈ parts, ∀ a ∈ part, P a) :
    ∀ a ∈ sep.intercalate parts, P a := by
  induction parts with
  | nil => nofun
  | cons first rest ih =>
      obtain ⟨hfirst, hrest⟩ := List.forall_mem_cons.mp hparts
      cases rest with
      | nil => simpa using hfirst
      | cons next more =>
          rw [List.intercalate_cons_cons]
          exact List.forall_mem_append.mpr
            ⟨List.forall_mem_append.mpr ⟨hfirst, hsep⟩, ih hrest⟩

namespace Table

/-- No character stands for a half. -/
def Own (cs : List Char) : Prop := ∀ c ∈ cs, c.toNat < 0xf0000

theorem own_append {cs ds : List Char} (hcs : Own cs) (hds : Own ds) : Own (cs ++ ds) :=
  List.forall_mem_append.mpr ⟨hcs, hds⟩

theorem own_blanks (count : Nat) : Own (Wrap.blanks count) :=
  Styled.forall_mem_blanks (by decide) count

theorem own_between {bar left right : Char} {parts : List (List Char)} (hbar : bar.toNat < 0xf0000)
    (hleft : left.toNat < 0xf0000) (hright : right.toNat < 0xf0000)
    (hparts : ∀ part ∈ parts, Own part) :
    Own (left :: [bar].intercalate parts ++ [right]) := by
  refine own_append (List.forall_mem_cons.mpr ⟨hleft, ?_⟩) (List.forall_mem_singleton.mpr hright)
  exact forall_mem_intercalate (List.forall_mem_singleton.mpr hbar) hparts

theorem own_drawEdge {e : Edge}
    (h : [e.left, e.line, e.cross, e.right].all (fun c => decide (c.toNat < 0xf0000)) = true)
    (widths : List Nat) :
    Own (drawEdge e widths) := by
  obtain ⟨hleft, hline, hcross, hright⟩ : e.left.toNat < 0xf0000 ∧ e.line.toNat < 0xf0000 ∧
      e.cross.toNat < 0xf0000 ∧ e.right.toNat < 0xf0000 := by
    simpa using h
  refine own_between hcross hleft hright fun part hpart c hc => ?_
  obtain ⟨width, -, rfl⟩ := List.mem_map.mp hpart
  rwa [List.eq_of_mem_replicate hc]

theorem own_fitSegments {segments : List (List Char)} (h : Own segments.flatten) (width : Nat) :
    Own (fitSegments width segments).flatten := by
  rw [fitSegments, List.flatten_append, List.flatten_singleton]
  exact own_append (Columns.forall_cropSegments (by decide) h width) (own_blanks _)

theorem segments_of_mem_lines {text line : Styled} (h : text.IsDrawable) {width : Nat}
    {rule : Overlong} {alignment : Alignment} {ground : Bool}
    (hline : line ∈ Wrap.lines width rule alignment ground text) :
    Markup.segments line = .ok line.segments ∧ Own line.segments.flatten := by
  have hcut : Wrap.Allows (fun c => c.toNat < 0xf0000) rule := fun _ => by decide
  have hwithin := Wrap.within_lines (by decide) hcut (by rfl) h width alignment ground line hline
  rw [Markup.segments, if_pos (List.all_eq_true.mpr hwithin.style), Styled.flatten_segments]
  exact ⟨rfl, hwithin.char⟩

theorem exists_entryLines {entry : Styled} (h : entry.IsDrawable) (width : Nat)
    (alignment : Alignment) :
    ∃ lines, entryLines width alignment entry = .ok lines ∧ ∀ line ∈ lines, Own line := by
  apply exists_mapM_eq_ok
  intro line hline
  obtain ⟨hsegments, hown⟩ := segments_of_mem_lines h hline
  rw [hsegments]
  refine ⟨_, rfl, own_fitSegments ?_ width⟩
  have hblank : Own [' '] := own_blanks 1
  simpa using own_append hblank (own_append (own_fitSegments hown _) hblank)

theorem exists_drawTitle {title : Styled} (h : title.IsDrawable) (width terminal : Nat) :
    ∃ lines, drawTitle width terminal title = .ok lines ∧ ∀ line ∈ lines, Own line := by
  apply exists_mapM_eq_ok
  intro line hline
  obtain ⟨hsegments, hown⟩ := segments_of_mem_lines h hline
  rw [hsegments]
  exact ⟨_, rfl, Columns.forall_cropSegments (by decide) hown terminal⟩

theorem exists_parts {cells : List (Nat × Alignment × Styled)}
    (h : ∀ cell ∈ cells, cell.2.2.IsDrawable) :
    ∃ parts, (cells.mapM fun (width, alignment, entry) =>
      return (width, ← entryLines width alignment entry)) = .ok parts ∧
        ∀ part ∈ parts, ∀ line ∈ part.2, Own line := by
  apply exists_mapM_eq_ok
  rintro ⟨width, alignment, entry⟩ hcell
  obtain ⟨lines, hlines, hown⟩ := exists_entryLines (h _ hcell) width alignment
  refine ⟨(width, lines), ?_, hown⟩
  simp only [hlines]
  rfl

theorem exists_drawRow {bar : Char} {cells : List (Nat × Alignment × Styled)}
    (hbar : bar.toNat < 0xf0000) (h : ∀ cell ∈ cells, cell.2.2.IsDrawable) :
    ∃ lines, drawRow bar cells = .ok lines ∧ ∀ line ∈ lines, Own line := by
  obtain ⟨parts, heq, hown⟩ := exists_parts h
  rw [drawRow, heq]
  refine ⟨_, rfl, fun line hline => ?_⟩
  obtain ⟨i, -, rfl⟩ := List.mem_map.mp hline
  refine own_between hbar hbar hbar fun cell hcell => ?_
  obtain ⟨⟨width, lines⟩, hpart, rfl⟩ := List.mem_map.mp hcell
  simp only
  cases hline : lines[i]? with
  | none => exact own_blanks width
  | some line => exact hown _ hpart line (List.mem_of_getElem? hline)

/-- A row of a table, with an entry of each column. -/
theorem exists_drawRow_zip {columns : List Column} {bar : Char} {entry : Column → Styled}
    (hbar : bar.toNat < 0xf0000) (h : ∀ c ∈ columns, (entry c).IsDrawable) (widths : List Nat) :
    ∃ lines, drawRow bar ((widths.zip columns).map fun (w, c) => (w, c.alignment, entry c)) =
      .ok lines ∧ ∀ line ∈ lines, Own line := by
  apply exists_drawRow hbar
  intro cell hcell
  obtain ⟨⟨w, c⟩, hc, rfl⟩ := List.mem_map.mp hcell
  exact h c (List.of_mem_zip hc).2

theorem isDrawable_ofString {s : String} (h : Own s.toList) : (Styled.ofString s).IsDrawable :=
  ⟨h, nofun⟩

/-- A table can be drawn if its title and its entries can. -/
theorem exists_draw {t : Table} (htitle : t.title.IsDrawable)
    (hheadings : ∀ c ∈ t.columns, Own c.heading.toList)
    (hentries : ∀ c ∈ t.columns, ∀ entry ∈ c.entries, entry.IsDrawable) (terminal : Nat) :
    ∃ lines, t.draw terminal = .ok lines ∧ ∀ line ∈ lines, Own line := by
  have hentry (i : Nat) : ∀ c ∈ t.columns, (c.entries[i]?.getD ⟨[], []⟩).IsDrawable := by
    intro c hc
    cases hi : c.entries[i]? with
    | none => exact Styled.within_empty
    | some entry => exact hentries c hc entry (List.mem_of_getElem? hi)
  unfold draw
  simp only
  generalize fitWidths _ _ = widths
  obtain ⟨title, htitle, hownTitle⟩ :=
    exists_drawTitle htitle (total widths + t.columns.length + 1) terminal
  have hheadingBar : headingBar.toNat < 0xf0000 := by decide
  have hrowBar : rowBar.toNat < 0xf0000 := by decide
  obtain ⟨heading, hheading, hownHeading⟩ := exists_drawRow_zip hheadingBar
    (fun c hc => isDrawable_ofString (hheadings c hc)) widths
  obtain ⟨rows, hrows, hownRows⟩ := exists_mapM_eq_ok fun i (_ : i ∈ List.range _) =>
    exists_drawRow_zip hrowBar (hentry i) widths
  rw [htitle, hheading, hrows]
  refine ⟨_, rfl, ?_⟩
  simp only [List.forall_mem_append, List.forall_mem_singleton, List.forall_mem_flatten]
  exact ⟨⟨⟨⟨⟨hownTitle, own_drawEdge (by decide) widths⟩, hownHeading⟩,
    own_drawEdge (by decide) widths⟩, hownRows⟩, own_drawEdge (by decide) widths⟩

end Table

end SplitScreen
