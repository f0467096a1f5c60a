import Mathlib.Algebra.Ring.Int.Defs
import SplitScreen.Proofs.Tree

namespace SplitScreen

namespace Rect

def IsProper (r : Rect) : Prop := 0 ≤ r.width ∧ 0 ≤ r.height

def Inside (r area : Rect) : Prop :=
  (area.x ≤ r.x ∧ r.x + r.width ≤ area.x + area.width) ∧
    area.y ≤ r.y ∧ r.y + r.height ≤ area.y + area.height

/-- The rectangles cover the area without overlap. -/
structure Tiles (area : Rect) (rects : List Rect) : Prop where
  proper {r : Rect} (h : r ∈ rects) : r.IsProper
  inside {r : Rect} (h : r ∈ rects) : r.Inside area
  /-- A cell is in one of the rectangles when it is in the area, and in none otherwise. -/
  countP_contains (p : Point) :
    rects.countP (·.contains p) = if area.contains p then 1 else 0
  area_eq : (rects.map Rect.area).sum = area.area

variable {r s area : Rect} {rects more : List Rect}

theorem Inside.trans (h : r.Inside s) (h' : s.Inside area) : r.Inside area := by
  obtain ⟨⟨hx, hx'⟩, hy, hy'⟩ := h
  obtain ⟨⟨hsx, hsx'⟩, hsy, hsy'⟩ := h'
  exact ⟨⟨Int.le_trans hsx hx, Int.le_trans hx' hsx'⟩, Int.le_trans hsy hy,
    Int.le_trans hy' hsy'⟩

theorem tiles_singleton (h : area.IsProper) : area.Tiles [area] where
  proper hr := by
    obtain rfl := List.mem_singleton.mp hr
    exact h
  inside hr := by
    obtain rfl := List.mem_singleton.mp hr
    exact ⟨⟨Int.le_refl _, Int.le_refl _⟩, Int.le_refl _, Int.le_refl _⟩
  countP_contains p := by simp [List.countP_singleton]
  area_eq := by simp

theorem Tiles.append (h : area.Tiles [r, s]) (hr : r.Tiles rects) (hs : s.Tiles more) :
    area.Tiles (rects ++ more) where
  proper ht := by
    rcases List.mem_append.mp ht with ht | ht
    · exact hr.proper ht
    · exact hs.proper ht
  inside ht := by
    rcases List.mem_append.mp ht with ht | ht
    · exact (hr.inside ht).trans (h.inside (by simp))
    · exact (hs.inside ht).trans (h.inside (by simp))
  countP_contains p := by
    have hparts := h.countP_contains p
    rw [List.countP_cons, List.countP_singleton] at hparts
    rw [List.countP_append, hr.countP_contains, hs.countP_contains, Nat.add_comm]
    exact hparts
  area_eq := by
    have hparts := h.area_eq
    simp only [List.map_cons, List.map_nil, List.sum_cons, List.sum_nil, Int.add_zero] at hparts
    rw [List.map_append, List.sum_append, hr.area_eq, hs.area_eq, hparts]

/-- A rectangle is tiled by the two parts of any cut within it. -/
theorem tiles_cut (h : r.IsProper) (d : Direction) {k : Int} (hk : 0 ≤ k) (hk' : k ≤ r.extent d) :
    r.Tiles [(r.cut d k).1, (r.cut d k).2] := by
  obtain ⟨x, y, width, height⟩ := r
  obtain ⟨hwidth, hheight⟩ := h
  cases d with
  | horizontal | vertical =>
      simp only [extent] at hwidth hheight hk'
      exact {
        proper := by simp only [cut, IsProper, List.mem_cons, List.not_mem_nil]; grind
        inside := by simp only [cut, Inside, List.mem_cons, List.not_mem_nil]; grind
        countP_contains := by
          intro p
          simp only [cut, List.countP_cons, List.countP_nil, contains_iff]
          grind
        area_eq := by
          simp only [cut, area, List.map_cons, List.map_nil, List.sum_cons, List.sum_nil]
          grind }

theorem share_bounds (ratio : Ratio) {extent : Int} (h : 0 ≤ extent) :
    0 ≤ (extent * ratio.first).fdiv (ratio.first + ratio.second) ∧
      (extent * ratio.first).fdiv (ratio.first + ratio.second) ≤ extent := by
  have hfirst := ratio.first_pos
  have hsecond := ratio.second_pos
  rw [Int.fdiv_eq_ediv_of_nonneg _ (Int.le_of_lt ratio.sum_pos)]
  constructor
  · exact Int.ediv_nonneg (Int.mul_nonneg h (Int.le_of_lt hfirst)) (Int.le_of_lt ratio.sum_pos)
  · refine Int.ediv_le_of_le_mul ratio.sum_pos (Int.mul_le_mul_of_nonneg_left ?_ h)
    exact Int.le_add_of_nonneg_right (Int.le_of_lt hsecond)

theorem tiles_split (h : r.IsProper) (d : Direction) (ratio : Ratio) :
    r.Tiles [(r.split d ratio).1, (r.split d ratio).2] := by
  have hextent : 0 ≤ r.extent d := by
    cases d with
    | horizontal => exact h.1
    | vertical => exact h.2
  obtain ⟨hk, hk'⟩ := share_bounds ratio hextent
  exact tiles_cut h d hk hk'

end Rect

theorem Tree.Occupies.isProper {α : Type} {s t : Tree α} {rect area : Rect}
    (h : s.Occupies rect t area) (harea : area.IsProper) : rect.IsProper := by
  induction h with
  | here => exact harea
  | @first direction ratio t u area _ ih =>
      exact ih ((Rect.tiles_split harea direction ratio).proper (by simp))
  | @second direction ratio t u area _ ih =>
      exact ih ((Rect.tiles_split harea direction ratio).proper (by simp))

theorem Tree.tiles_place {α : Type} (t : Tree α) {area : Rect} (h : area.IsProper) :
    area.Tiles ((t.place area).map Prod.snd) := by
  induction t generalizing area with
  | leaf content => exact Rect.tiles_singleton h
  | split direction ratio first second ih₁ ih₂ =>
      have hparts := Rect.tiles_split h direction ratio
      rw [Tree.place, List.map_append]
      exact hparts.append (ih₁ (hparts.proper (by simp))) (ih₂ (hparts.proper (by simp)))

end SplitScreen
