import Mathlib.Data.Bool.AllAny
import SplitScreen.Proofs.Printing
import SplitScreen.Proofs.Untagged
import SplitScreen.Proofs.Wrap

namespace SplitScreen

namespace Program

open Markup

variable {cs : List Char} {isStandIn : Char → Bool}

theorem exists_styled_error {message : String} (h : IsUntagged message.toList)
    (isStandIn : Char → Bool) :
    ∃ text, styled isStandIn ("[red]Error:[/red] " ++ message) = .ok text ∧ text.IsDrawable ∧
      text.chars = "Error: ".toList ++ shown message.toList := by
  obtain ⟨hblank, hshown⟩ := h.append_left (show [' '].all isLiteral = true by decide)
  have hword : shown "Error:".toList = "Error:".toList := by
    rw [shown_of_notMem (by decide), replace_eq_self (by decide)]
    rfl
  obtain ⟨closed, hclosed, -, hplain⟩ := (Renders.of_untagged hblank.noTag []).exists_closing
    isStyleTag_red (show '[' ∉ "Error:".toList by decide)
  rw [hplain (by decide), hword, hshown] at hclosed
  have hopened := Renders.opening isStyleTag_red (List.forall_mem_nil _) hclosed
  rw [shown_nil, List.nil_append, List.nil_append] at hopened
  have htext : ("[red]Error:[/red] " ++ message).toList =
      '[' :: ("red".toList ++ ']' :: ("Error:".toList ++
        '[' :: ('/' :: "red".toList ++ ']' :: ([' '] ++ message.toList)))) := by
    rw [String.toList_append]
    rfl
  rw [← htext] at hopened
  have hchars : ∀ c ∈ "Error:".toList ++ ([' '] ++ shown message.toList), c.toNat < 0xf0000 :=
    List.forall_mem_append.mpr ⟨List.all_iff_forall_prop.mp (by decide), hshown ▸ hblank.noStandIn⟩
  obtain ⟨text, hstyled, hchars, hdrawable⟩ := hopened.exists_styled hchars isStandIn
  exact ⟨text, hstyled, hdrawable, hchars⟩

/-- The line about an error cannot be rendered when its message closes a style, as none is open. -/
theorem styled_error_unopened {before other : String} (hbefore : IsPlain before)
    (hother : IsStyleTag other) (after : String) (isStandIn : Char → Bool) :
    styled isStandIn ("[red]Error:[/red] " ++ (before ++ ("[/" ++ other ++ "]") ++ after)) =
      .error .unopened := by
  have htext : ("[red]Error:[/red] " ++ (before ++ ("[/" ++ other ++ "]") ++ after)).toList =
      [] ++ '[' :: ("red".toList ++ ']' :: ("Error:".toList ++
        '[' :: ('/' :: "red".toList ++ ']' :: (" ".toList ++ (before.toList ++
          '[' :: ('/' :: other.toList ++ ']' :: after.toList)))))) := by
    simp
  have hnone : ∀ c ∈ ([] : List Char), c ≠ '[' ∧ c ≠ '\\' := nofun
  have hword : ∀ c ∈ "Error:".toList, c ≠ '[' ∧ c ≠ '\\' :=
    List.all_iff_forall_prop.mp (by decide)
  have hblank : ∀ c ∈ " ".toList, c ≠ '[' ∧ c ≠ '\\' :=
    List.all_iff_forall_prop.mp (by decide)
  rw [styled, pieces, htext, piecesAfter_append hnone, isStyleTag_red.piecesAfter_opening,
    piecesAfter_append hword, isStyleTag_red.piecesAfter_closing, piecesAfter_append hblank,
    piecesAfter_append hbefore.noTag, hother.piecesAfter_closing,
    render_piece, isStyleTag_red.render_open, render_piece, isStyleTag_red.render_close,
    render_piece]
  exact hother.render_other isStandIn (List.forall_mem_nil _) _ _

def counted (count : Nat) : String :=
  let plural := if count = 1 then "" else "s"
  s!" {count} pane{plural}"

def defaultMark (isDefault : Bool) : String := if isDefault then " [dim](default)[/dim]" else ""

def entry (padded : String) (count : Nat) (isDefault : Bool) : String :=
  "  [cyan]" ++ padded ++ ("[/cyan]" ++ counted count ++ defaultMark isDefault)

/-- The entry of a profile without its tags. -/
def entryShown (padded : String) (count : Nat) (isDefault : Bool) : List Char :=
  "  ".toList ++ (shown padded.toList ++
    ((counted count).toList ++ if isDefault then " (default)".toList else []))

theorem isLiteral_counted (count : Nat) : (counted count).toList.all isLiteral = true := by
  have htext : counted count =
      " " ++ count.repr ++ " pane" ++ (if count = 1 then "" else "s") := rfl
  rw [htext, String.toList_append, String.toList_append, String.toList_append, List.all_append,
    List.all_append, List.all_append, isLiteral_repr]
  split <;> decide

theorem renders_defaultMark (h : cs.all isLiteral = true) (isDefault : Bool) :
    Renders [] (piecesAfter [] (cs ++ (defaultMark isDefault).toList))
      (cs ++ if isDefault then " (default)".toList else []) := by
  cases isDefault with
  | false =>
      obtain ⟨huntagged, hshown⟩ := isUntagged_of_isLiteral h
      have hrenders := Renders.of_untagged huntagged.noTag []
      rw [hshown] at hrenders
      simpa [defaultMark] using hrenders
  | true =>
      have hpart : (cs ++ [' ']).all isLiteral = true := by
        rw [List.all_append, h]
        decide
      obtain ⟨-, hshown⟩ := isUntagged_of_isLiteral hpart
      obtain ⟨hmark, hmarkShown⟩ :=
        isUntagged_of_isLiteral (show "(default)".toList.all isLiteral = true by decide)
      obtain ⟨closed, hclosed, -, hplain⟩ :=
        (Renders.of_untagged List.not_mem_nil []).exists_closing isStyleTag_dim hmark.noTag
      rw [hplain (by decide), hmarkShown, shown_nil, List.append_nil] at hclosed
      have hmarks : ∀ c ∈ cs ++ [' '], c ≠ '[' ∧ c ≠ '\\' :=
        fun c hc => (isLiteral_iff.mp (List.all_eq_true.mp hpart c hc)).1.1
      have hopened := Renders.opening isStyleTag_dim hmarks hclosed
      rw [hshown] at hopened
      simpa [defaultMark] using hopened

/-- The entry of a profile whose name has no tags can be rendered, and shows the name, unless a
backslash at the end of the name makes a closing tag text. -/
theorem exists_styled_entry {padded : String} (h : IsUntagged padded.toList) (count : Nat)
    (isDefault : Bool) (isStandIn : Char → Bool) :
    ∃ text, styled isStandIn (entry padded count isDefault) = .ok text ∧ text.IsDrawable ∧
      (padded.toList.getLast? ≠ some '\\' → text.chars = entryShown padded count isDefault) := by
  obtain ⟨closed, hclosed, hmem, hplain⟩ :=
    (renders_defaultMark (isLiteral_counted count) isDefault).exists_closing isStyleTag_cyan h.noTag
  have hmarks : ∀ c ∈ "  ".toList, c ≠ '[' ∧ c ≠ '\\' :=
    List.all_iff_forall_prop.mp (by decide)
  have hopened := Renders.opening isStyleTag_cyan hmarks hclosed
  have htext : (entry padded count isDefault).toList =
      "  ".toList ++ '[' :: ("cyan".toList ++ ']' :: (padded.toList ++
        '[' :: ('/' :: "cyan".toList ++ ']' ::
          ((counted count).toList ++ (defaultMark isDefault).toList)))) := by
    simp [entry]
  rw [← htext] at hopened
  have hindent : shown "  ".toList = "  ".toList :=
    (isUntagged_of_isLiteral (show "  ".toList.all isLiteral = true by decide)).2
  have hbracket : ∀ c ∈ shown ('[' :: '/' :: "cyan".toList ++ [']']), c.toNat < 0xf0000 := by
    rw [shown, unescape_eq_self (List.all_iff_forall_prop.mp (by decide)),
      replace_eq_self (by decide)]
    exact List.all_iff_forall_prop.mp (by decide)
  have hclosedChars : ∀ c ∈ closed, c.toNat < 0xf0000 := by
    intro c hc
    rcases hmem c hc with hc | rfl | hc
    · exact h.noStandIn c hc
    · decide
    · exact hbracket c hc
  have hend : ∀ c ∈ (counted count).toList ++ if isDefault then " (default)".toList else [],
      c.toNat < 0xf0000 := by
    refine List.forall_mem_append.mpr ⟨fun c hc => ?_, ?_⟩
    · exact (isLiteral_iff.mp (List.all_eq_true.mp (isLiteral_counted count) c hc)).2.2
    · cases isDefault <;> exact List.all_iff_forall_prop.mp (by decide)
  rw [hindent] at hopened
  obtain ⟨text, hstyled, hchars, hdrawable⟩ := hopened.exists_styled (List.forall_mem_append.mpr
    ⟨List.all_iff_forall_prop.mp (by decide),
      List.forall_mem_append.mpr ⟨hclosedChars, hend⟩⟩) isStandIn
  refine ⟨text, hstyled, hdrawable, fun hlast => ?_⟩
  rw [hchars, hplain hlast, entryShown]

end Program

end SplitScreen
