import SplitScreen.Proofs.Double.Difference
import SplitScreen.Proofs.Profile.Nearest

namespace SplitScreen

namespace Side

/-- A centre lies on a side of another: above or below it, left or right of it. -/
def Lies (origin target : Centre) : Side → Prop
  | up => target.y < origin.y
  | down => origin.y < target.y
  | left => target.x < origin.x
  | right => origin.x < target.x

instance (origin target : Centre) : (side : Side) → Decidable (side.Lies origin target)
  | up => inferInstanceAs (Decidable (target.y < origin.y))
  | down => inferInstanceAs (Decidable (origin.y < target.y))
  | left => inferInstanceAs (Decidable (target.x < origin.x))
  | right => inferInstanceAs (Decidable (origin.x < target.x))

def opposite : Side → Side
  | up => down
  | down => up
  | left => right
  | right => left

/-- The centre of a rectangle lies on a side of that of another. -/
def Beyond (side : Side) (origin target : Rect) : Prop :=
  ∃ p q, origin.centre = .ok p ∧ target.centre = .ok q ∧ side.Lies p q

variable {side : Side} {a b c : Centre} {r s t : Rect}

theorem beyond_iff (ha : r.centre = .ok a) (hb : s.centre = .ok b) :
    side.Beyond r s ↔ side.Lies a b := by
  constructor
  · rintro ⟨p, q, hp, hq, h⟩
    obtain rfl := Except.ok.inj (ha.symm.trans hp)
    obtain rfl := Except.ok.inj (hb.symm.trans hq)
    exact h
  · exact fun h => ⟨a, b, ha, hb, h⟩

instance (side : Side) (origin target : Rect) : Decidable (side.Beyond origin target) :=
  match horigin : origin.centre, htarget : target.centre with
  | .error _, _ => .isFalse fun ⟨_, _, hp, _⟩ => nomatch horigin.symm.trans hp
  | .ok _, .error _ => .isFalse fun ⟨_, _, _, hq, _⟩ => nomatch htarget.symm.trans hq
  | .ok p, .ok q => decidable_of_iff (side.Lies p q) (beyond_iff horigin htarget).symm

theorem admits_eq (side : Side) (origin target : Centre) :
    side.admits origin target = decide (side.Lies origin target) := by
  cases side
  · exact decide_eq_decide.mpr Double.sub_neg_iff
  · exact decide_eq_decide.mpr Double.sub_pos_iff
  · exact decide_eq_decide.mpr Double.sub_neg_iff
  · exact decide_eq_decide.mpr Double.sub_pos_iff

theorem not_lies_self : ¬ side.Lies a a := by
  cases side <;> exact Double.lt_irrefl _

theorem Lies.trans (h : side.Lies a b) (h' : side.Lies b c) : side.Lies a c := by
  cases side
  · exact Double.lt_trans h' h
  · exact Double.lt_trans h h'
  · exact Double.lt_trans h' h
  · exact Double.lt_trans h h'

theorem Lies.opposite (h : side.Lies a b) : side.opposite.Lies b a := by
  cases side <;> exact h

theorem not_beyond_self : ¬ side.Beyond r r := by
  rintro ⟨p, q, hp, hq, h⟩
  obtain rfl := Except.ok.inj (hp.symm.trans hq)
  exact not_lies_self h

theorem Beyond.trans (h : side.Beyond r s) (h' : side.Beyond s t) : side.Beyond r t := by
  obtain ⟨a, b, ha, hb, hlies⟩ := h
  obtain ⟨b', c, hb', hc, hlies'⟩ := h'
  obtain rfl := Except.ok.inj (hb.symm.trans hb')
  exact ⟨a, c, ha, hc, hlies.trans hlies'⟩

theorem Beyond.opposite (h : side.Beyond r s) : side.opposite.Beyond s r := by
  obtain ⟨a, b, ha, hb, hlies⟩ := h
  exact ⟨b, a, hb, ha, hlies.opposite⟩

end Side

namespace Profile

/-- The panes whose centres lie on a side of that of a rectangle. -/
def beyond (side : Side) (current : Rect) (placed : List (PaneId × Rect)) : List (PaneId × Rect) :=
  placed.filter fun candidate => decide (side.Beyond current candidate.2)

variable {side : Side} {current : Rect} {origin : Centre} {id : PaneId}
  {placed candidates : List (PaneId × Rect)} {nearest : Option PaneId} {overflow : Overflow}

theorem onSide_eq (horigin : current.centre = .ok origin)
    (h : onSide side origin placed = .ok candidates) : candidates = beyond side current placed := by
  rw [filterM_eq_filter h, beyond]
  refine List.filter_congr fun candidate _ => ?_
  cases hcentre : candidate.2.centre with
  | error e =>
      refine (decide_eq_false ?_).symm
      rintro ⟨p, q, -, hq, -⟩
      cases hcentre.symm.trans hq
  | ok centre =>
      exact (side.admits_eq origin centre).trans
        (decide_eq_decide.mpr (Side.beyond_iff horigin hcentre).symm)

theorem nearestOnSide?_cases (h : nearestOnSide? side current placed = .ok nearest) :
    (beyond side current placed = [] ∧ nearest = none) ∨
      ∃ id, nearest = some id ∧ IsNearest current (beyond side current placed) id := by
  obtain ⟨origin, horigin, h⟩ := exists_of_bind h
  obtain ⟨candidates, hside, h⟩ := exists_of_bind h
  obtain rfl := onSide_eq horigin hside
  exact nearest?_isNearest h

theorem nearestOnSide?_eq_error (hcurrent : (id, current) ∈ placed)
    (h : nearestOnSide? side current placed = .error overflow) :
    ∃ far ∈ placed, current.distance far.2 = .error overflow := by
  unfold Rect.distance
  rcases error_or_exists_of_bind h with horigin | ⟨origin, horigin, h⟩
  · exact ⟨(id, current), hcurrent, by rw [horigin]; rfl⟩
  rcases error_or_exists_of_bind h with hside | ⟨candidates, hside, h⟩
  · obtain ⟨far, hfar, hcentre⟩ := filterM_eq_error hside
    refine ⟨far, hfar, ?_⟩
    rcases error_or_exists_of_bind hcentre with hcentre | ⟨centre, -, hcentre⟩
    · rw [horigin, hcentre]
      rfl
    · cases hcentre
  · obtain rfl := onSide_eq horigin hside
    obtain ⟨far, hfar, hdistance⟩ := nearest?_eq_error h
    exact ⟨far, (List.mem_filter.mp hfar).1, hdistance⟩

end Profile

end SplitScreen
