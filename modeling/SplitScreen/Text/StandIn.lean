import SplitScreen.Text

/-!
Stand-ins for lone halves. In place of the halves of a text come characters for private use, so that
the text can be taken apart as characters and get its halves back afterwards. The characters of a
block stand in for the halves, a block that has no character in the text.
-/

namespace SplitScreen

namespace StandIn

def size : Nat := 2048

/-- The blocks of the two last planes, which are for private use. -/
def blocks : List Nat := List.range' 480 64

def isIn (block : Nat) (c : Char) : Bool := c.toNat / size == block

def isFree (block : Nat) (t : Text) : Bool := t.symbols.all (!·.isOf (isIn block))

/-- A block that is free in some texts; the first one of all where none is. -/
def block (texts : List Text) : Nat :=
  (blocks.find? fun block => texts.all (isFree block)).getD 480

def veilSymbol (block : Nat) : Symbol → Char
  | .char c => c
  | .half place => Char.ofNat (block * size + place.val)

def unveilChar (block : Nat) (c : Char) : Symbol :=
  if isIn block c then .ofPlace c.toNat else .char c

/-- The text with characters of a block in place of its halves. -/
def veil (block : Nat) (t : Text) : List Char := t.symbols.map (veilSymbol block)

def unveil (block : Nat) (cs : List Char) : Text := ⟨cs.map (unveilChar block)⟩

theorem mem_blocks_iff {block : Nat} : block ∈ blocks ↔ 480 ≤ block ∧ block < 544 := by
  simp only [blocks, List.mem_range'_1]

theorem block_mem_blocks (texts : List Text) : block texts ∈ blocks := by
  unfold block
  cases h : blocks.find? fun block => texts.all (isFree block) with
  | none => exact mem_blocks_iff.mpr (by decide)
  | some b => exact List.mem_of_find?_eq_some h

theorem toNat_veilSymbol_half {block : Nat} (h : block ∈ blocks) (place : Fin 2048) :
    (veilSymbol block (.half place)).toNat = block * size + place.val := by
  obtain ⟨hlow, hhigh⟩ := mem_blocks_iff.mp h
  have hp := place.isLt
  have hv : (block * size + place.val).isValidChar := by
    simp only [Nat.isValidChar, size]
    omega
  rw [veilSymbol, Char.ofNat, dif_pos hv]
  rfl

end StandIn

end SplitScreen
