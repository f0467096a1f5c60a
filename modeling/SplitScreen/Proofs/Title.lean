import SplitScreen.FrontEnd
import SplitScreen.Proofs.Untagged

namespace SplitScreen

namespace Text

/-- No symbol of the text is an opening bracket. -/
def IsPlain (t : Text) : Prop := Symbol.char '[' ∉ t.symbols

variable {s t : Text}

theorem IsPlain.append (hs : s.IsPlain) (ht : t.IsPlain) : (s ++ t).IsPlain := by
  intro hmem
  rcases List.mem_append.mp hmem with hmem | hmem
  · exact hs hmem
  · exact ht hmem

theorem IsPlain.joined {separator : String} (hseparator : (separator : Text).IsPlain)
    {parts : List Text} (hparts : ∀ part ∈ parts, part.IsPlain) :
    (Text.joined separator parts).IsPlain := by
  induction parts with
  | nil => exact List.not_mem_nil
  | cons part rest ih =>
      obtain ⟨hpart, hrest⟩ := List.forall_mem_cons.mp hparts
      cases rest with
      | nil => exact hpart
      | cons next more => exact (hpart.append hseparator).append (ih hrest)

theorem isPlain_ofString_iff {r : String} : (ofString r).IsPlain ↔ '[' ∉ r.toList := by
  simp [IsPlain, ofString, ofList]

/-- The characters that stand in for halves are no brackets. -/
theorem IsPlain.notMem_veil (h : t.IsPlain) {block : Nat} (hblock : block ∈ StandIn.blocks) :
    '[' ∉ StandIn.veil block t := by
  intro hmem
  obtain ⟨symbol, hsymbol, hveil⟩ := List.mem_map.mp hmem
  cases symbol with
  | char c =>
      obtain rfl : c = '[' := hveil
      exact h hsymbol
  | half place =>
      have hcode := StandIn.toNat_veilSymbol_half hblock place
      rw [hveil] at hcode
      obtain ⟨hlow, -⟩ := StandIn.mem_blocks_iff.mp hblock
      have hbracket : '['.toNat = 91 := rfl
      simp only [StandIn.size] at hcode
      omega

theorem IsPlain.isSome_title? (h : t.IsPlain) : t.title?.isSome := by
  have hveil := h.notMem_veil (StandIn.block_mem_blocks [t])
  have hstrip : '[' ∉ strip (StandIn.veil (StandIn.block [t]) t) :=
    fun hmem => hveil (List.mem_filter.mp hmem).1
  simp [title?, Title.line?, hstrip]

end Text

def View.IsPlain (v : View) : Prop := v.name.IsPlain

theorem View.isPlain_kind (k : ContentKind) : (View.kind k).IsPlain := by
  cases k <;> exact Text.isPlain_ofString_iff.mpr (by decide)

theorem FrontEnd.isSome_title? {t : Tile} (h : t.view.IsPlain) : (title? t).isSome := by
  apply Text.IsPlain.isSome_title?
  apply Text.IsPlain.append _ h
  rw [Text.isPlain_ofString_iff, String.toList_append, List.mem_append]
  rintro (hmem | hmem)
  · exact (Markup.notMem_of_isLiteral (Markup.isLiteral_toString t.id)).1 hmem
  · revert hmem
    decide

theorem FrontEnd.isSome_barText {s : Screen} (h : s.current.IsPlain) :
    (barText s).title?.isSome := by
  have hseparator : ((" | " : String) : Text).IsPlain := Text.isPlain_ofString_iff.mpr (by decide)
  have hprefix : (("profile: " : String) : Text).IsPlain :=
    Text.isPlain_ofString_iff.mpr (by decide)
  have hmodes : ∀ full captured : Bool, ∀ mode ∈ (if full then ["full screen"] else [])
      ++ if captured then ["input: pane (esc to release)"] else [], '[' ∉ mode.toList := by
    decide
  apply Text.IsPlain.isSome_title?
  apply Text.IsPlain.joined hseparator
  intro part hpart
  rcases List.mem_cons.mp hpart with rfl | hpart
  · exact hprefix.append h
  · obtain ⟨mode, hmode, rfl⟩ := List.mem_map.mp hpart
    exact Text.isPlain_ofString_iff.mpr (hmodes _ _ mode hmode)

end SplitScreen
