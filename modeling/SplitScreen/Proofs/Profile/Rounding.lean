import Mathlib.Data.List.Forall2
import Mathlib.Data.Rat.Floor
import Mathlib.Tactic.FieldSimp
import Mathlib.Tactic.Linarith
import SplitScreen.Proofs.Route

namespace SplitScreen

namespace Ratio

variable (r : Ratio)

theorem cast_first_nonneg : (0 : ℚ) ≤ r.first := by exact_mod_cast r.first_pos.le

theorem cast_second_nonneg : (0 : ℚ) ≤ r.second := by exact_mod_cast r.second_pos.le

theorem cast_sum_pos : (0 : ℚ) < r.first + r.second := by exact_mod_cast r.sum_pos

theorem fdiv_eq_floor (n : Int) :
    (n * r.first).fdiv (r.first + r.second) =
      ⌊(r.first / (r.first + r.second) * n : ℚ)⌋ := by
  obtain ⟨total, htotal⟩ := Int.eq_ofNat_of_zero_le r.sum_pos.le
  have hcast : (r.first + r.second : ℚ) = (total : ℚ) := by exact_mod_cast htotal
  have hexact : (r.first / (r.first + r.second) * n : ℚ) = (n * r.first : Int) / (total : ℚ) := by
    rw [hcast]
    push_cast
    ring
  rw [Int.fdiv_eq_ediv_of_nonneg _ r.sum_pos.le, hexact, Rat.floor_intCast_div_natCast, htotal]

end Ratio

namespace Turn

/-- The part of an extent that is entered, before it is rounded. -/
def share (t : Turn) : ℚ :=
  if t.isFirst then t.ratio.first / (t.ratio.first + t.ratio.second)
  else t.ratio.second / (t.ratio.first + t.ratio.second)

variable (t : Turn)

theorem share_nonneg : 0 ≤ t.share := by
  unfold share
  split
  · exact div_nonneg t.ratio.cast_first_nonneg t.ratio.cast_sum_pos.le
  · exact div_nonneg t.ratio.cast_second_nonneg t.ratio.cast_sum_pos.le

theorem share_le_one : t.share ≤ 1 := by
  unfold share
  split
  · apply div_le_one_of_le₀ _ t.ratio.cast_sum_pos.le
    exact le_add_of_nonneg_right t.ratio.cast_second_nonneg
  · apply div_le_one_of_le₀ _ t.ratio.cast_sum_pos.le
    exact le_add_of_nonneg_left t.ratio.cast_first_nonneg

/-- A turn is off by less than a cell: too little in the first part, and too much in the second. -/
theorem abs_of_sub_lt (n : Int) : |(t.of n : ℚ) - t.share * n| < 1 := by
  have hsum := t.ratio.cast_sum_pos
  unfold of share
  rw [t.ratio.fdiv_eq_floor]
  split
  · rw [abs_sub_comm, Int.self_sub_floor, Int.abs_fract]
    exact Int.fract_lt_one _
  · have hrest : (t.ratio.second / (t.ratio.first + t.ratio.second) * n : ℚ) =
        n - t.ratio.first / (t.ratio.first + t.ratio.second) * n := by
      field_simp
      ring
    rw [hrest, Int.cast_sub, sub_sub_sub_cancel_left, Int.self_sub_floor, Int.abs_fract]
    exact Int.fract_lt_one _

end Turn

namespace Route

/-- The exact part of an extent that is left after turns that all divide it. -/
def share (route : Route) : ℚ := (route.map Turn.share).prod

/-- What turns that all divide an extent may leave of it: all when there are none, and otherwise
what is off the exact share by less than a cell for each of them. -/
structure Rounds (turns : Route) (whole part : Int) : Prop where
  eq (h : turns.length = 0) : part = whole
  abs_sub_lt (h : turns.length ≠ 0) : |(part : ℚ) - turns.share * whole| < turns.length

variable {route : Route}

theorem share_nonneg (route : Route) : 0 ≤ route.share := by
  induction route with
  | nil => exact zero_le_one
  | cons t route ih =>
      rw [share, List.map_cons, List.prod_cons]
      exact mul_nonneg t.share_nonneg ih

theorem share_le_one (route : Route) : route.share ≤ 1 := by
  induction route with
  | nil => exact le_rfl
  | cons t route ih =>
      rw [share, List.map_cons, List.prod_cons]
      exact mul_le_one₀ t.share_le_one (share_nonneg route) ih

theorem Rounds.abs_sub_le {whole part : Int} (h : route.Rounds whole part) :
    |(part : ℚ) - route.share * whole| ≤ route.length := by
  cases route with
  | nil => simp [h.eq rfl, share]
  | cons t route => exact (h.abs_sub_lt (by simp)).le

/-- The share that is still to come takes its part of the rounding of a turn. -/
theorem rounds_cons {t : Turn} {n part : Int} (h : route.Rounds (t.of n) part) :
    Rounds (t :: route) n part where
  eq hnone := by cases hnone
  abs_sub_lt _ := by
    have hturn := t.abs_of_sub_lt n
    -- What the rest is off by on its own, and its share of what the turn is off by.
    have hsplit : (part : ℚ) - share (t :: route) * n =
        (part - route.share * t.of n) + route.share * (t.of n - t.share * n) := by
      rw [share, List.map_cons, List.prod_cons, ← share]
      ring
    calc |(part : ℚ) - share (t :: route) * n|
        = |(part - route.share * t.of n) + route.share * (t.of n - t.share * n)| := by rw [hsplit]
      _ ≤ |(part : ℚ) - route.share * t.of n| + |route.share * (t.of n - t.share * n)| :=
          abs_add_le _ _
      _ = |(part : ℚ) - route.share * t.of n| + route.share * |(t.of n : ℚ) - t.share * n| := by
          rw [abs_mul, abs_of_nonneg route.share_nonneg]
      _ ≤ route.length + |(t.of n : ℚ) - t.share * n| :=
          add_le_add h.abs_sub_le (mul_le_of_le_one_left (abs_nonneg _) route.share_le_one)
      _ < (t :: route).length := by
          push_cast [List.length_cons]
          linarith

theorem rounds_of (route : Route) (n : Int) : route.Rounds n (route.of n) := by
  induction route generalizing n with
  | nil => exact ⟨fun _ => rfl, fun h => absurd rfl h⟩
  | cons t route ih => exact rounds_cons (ih (t.of n))

end Route

namespace Profile

variable {p : Profile}

/-- In every area each pane has, along each axis, its exact share of the extent up to less than a
cell for every split on its way that divides the extent, and all of it when there is none. -/
theorem flatten_rounds (hp : p.Reachable) :
    ∃ t, p.arena.tree? = some t ∧ t.routes.map Prod.fst = p.panes ∧ ∀ area : Rect,
      List.Forall₂
        (fun tile r => tile.id = r.1.id ∧
          ∀ d, (r.2.along d).Rounds (area.extent d) (tile.rect.extent d))
        (p.flatten area) t.routes := by
  obtain ⟨t, ht⟩ := hp.exists_holds
  refine ⟨t.tree, ht.tree?_eq, ?_, ?_⟩
  · rw [panes, ht.panes_eq, Tree.map_fst_routes]
  · intro area
    rw [flatten_eq_routes ht, List.forall₂_map_left_iff, List.forall₂_same]
    intro r _
    refine ⟨rfl, ?_⟩
    intro d
    show (r.2.along d).Rounds _ ((area.follow r.2).extent d)
    rw [Rect.extent_follow]
    exact (r.2.along d).rounds_of _

/-- Two splits leave the first of three panes eight of ten cells, where its exact share is 9.801. -/
theorem flatten_rounds_thin :
    let thin : Ratio := ⟨99, 1, by decide, by decide⟩
    let p := ofLayout (.split .horizontal thin
      (.split .horizontal thin (.pane (.kind .source) false) (.pane (.kind .trace) false))
      (.pane (.kind .terminal) false))
    let route : Route := [⟨.horizontal, thin, true⟩, ⟨.horizontal, thin, true⟩]
    p.Reachable ∧ (p.flatten ⟨0, 0, 10, 4⟩).map (fun tile => tile.rect.width) = [8, 1, 1] ∧
      route.Rounds 10 8 ∧ route.share = 9801 / 10000 := by
  intro thin p route
  have hp : p.Reachable := reachable_ofLayout _ _
  have htree : p.arena.tree? = some (.split .horizontal thin
      (.split .horizontal thin (.leaf ⟨0, .kind .source⟩) (.leaf ⟨1, .kind .trace⟩))
      (.leaf ⟨2, .kind .terminal⟩)) := by decide
  obtain ⟨t, ht, -, htiles⟩ := flatten_rounds hp
  obtain rfl := Option.some.inj (htree.symm.trans ht)
  have hwidths : (p.flatten ⟨0, 0, 10, 4⟩).map (fun tile => tile.rect.width) = [8, 1, 1] := by
    decide
  refine ⟨hp, hwidths, ?_, by norm_num [route, Route.share, Turn.share, thin]⟩
  obtain ⟨tile, rest, ⟨-, hrounds⟩, -, htile⟩ :=
    List.forall₂_cons_right_iff.mp (htiles ⟨0, 0, 10, 4⟩)
  rw [htile, List.map_cons, List.cons.injEq] at hwidths
  have hwidth : route.Rounds 10 tile.rect.width := hrounds .horizontal
  rwa [hwidths.1] at hwidth

end Profile

end SplitScreen
