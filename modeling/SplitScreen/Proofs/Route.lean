import SplitScreen.Proofs.Profile.Flatten

namespace SplitScreen

/-- A split on the way to a leaf, and which of its parts is entered. -/
structure Turn where
  direction : Direction
  ratio : Ratio
  isFirst : Bool

namespace Turn

/-- What the part that is entered has of an extent: the floor of its share in the first part, and
all the rest in the second. -/
def of (t : Turn) (n : Int) : Int :=
  let floor := (n * t.ratio.first).fdiv (t.ratio.first + t.ratio.second)
  if t.isFirst then floor else n - floor

end Turn

abbrev Route := List Turn

namespace Route

def along (route : Route) (d : Direction) : Route := route.filter fun t => t.direction = d

theorem along_cons (t : Turn) (route : Route) (d : Direction) :
    along (t :: route) d = if t.direction = d then t :: route.along d else route.along d := by
  simp [along, List.filter_cons]

/-- What is left of an extent after turns that all divide it. -/
def of (route : Route) (n : Int) : Int := route.foldl (fun n t => t.of n) n

end Route

namespace Rect

def enter (r : Rect) (t : Turn) : Rect :=
  if t.isFirst then (r.split t.direction t.ratio).1 else (r.split t.direction t.ratio).2

def follow (area : Rect) (route : Route) : Rect := route.foldl enter area

theorem extent_enter (r : Rect) (t : Turn) (d : Direction) :
    (r.enter t).extent d = if t.direction = d then t.of (r.extent d) else r.extent d := by
  obtain ⟨direction, ratio, isFirst⟩ := t
  cases direction <;> cases d <;> cases isFirst <;> rfl

theorem extent_follow (area : Rect) (route : Route) (d : Direction) :
    (area.follow route).extent d = (route.along d).of (area.extent d) := by
  induction route generalizing area with
  | nil => rfl
  | cons t route ih =>
      have hrest := ih (area.enter t)
      -- The extent does not feel a turn across the axis, and such turns are filtered away.
      rw [extent_enter] at hrest
      refine hrest.trans ?_
      rw [Route.along_cons]
      split
      · rfl
      · rfl

end Rect

namespace Tree

variable {α : Type}

/-- Every leaf with the turns that lead to it, first child before second. -/
def routes : Tree α → List (α × Route)
  | leaf content => [(content, [])]
  | split direction ratio first second =>
    first.routes.map (fun r => (r.1, ⟨direction, ratio, true⟩ :: r.2)) ++
      second.routes.map fun r => (r.1, ⟨direction, ratio, false⟩ :: r.2)

theorem map_fst_routes (t : Tree α) : t.routes.map Prod.fst = t.leaves := by
  induction t with
  | leaf content => rfl
  | split direction ratio first second ih₁ ih₂ =>
      rw [routes, leaves, List.map_append, List.map_map, List.map_map, ← ih₁, ← ih₂]
      rfl

theorem place_eq_routes (t : Tree α) (area : Rect) :
    t.place area = t.routes.map fun r => (r.1, area.follow r.2) := by
  induction t generalizing area with
  | leaf content => rfl
  | split direction ratio first second ih₁ ih₂ =>
      rw [routes, place, List.map_append, List.map_map, List.map_map, ih₁, ih₂]
      rfl

end Tree

theorem Profile.flatten_eq_routes {p : Profile} {t : IndexedTree} (ht : p.arena.Holds [] t)
    (area : Rect) :
    p.flatten area = t.tree.routes.map fun r => p.tileOf (r.1, area.follow r.2) := by
  rw [flatten_eq ht, Tree.place_eq_routes, List.map_map]
  rfl

end SplitScreen
