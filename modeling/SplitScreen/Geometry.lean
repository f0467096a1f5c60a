import SplitScreen.Decimal

namespace SplitScreen

inductive Direction
  /-- Side by side: the width is divided. -/
  | horizontal
  /-- Stacked: the height is divided. -/
  | vertical
  deriving DecidableEq, Repr

namespace Direction

def name : Direction → String
  | horizontal => "horizontal"
  | vertical => "vertical"

def ofName? : String → Option Direction
  | "horizontal" => some horizontal
  | "vertical" => some vertical
  | _ => none

@[simp] theorem ofName?_name (d : Direction) : ofName? d.name = some d := by
  cases d <;> rfl

end Direction

/-- A pair of positive integers, the shares of the two parts of a division. -/
structure Ratio where
  first : Int
  second : Int
  first_pos : 0 < first
  second_pos : 0 < second
  deriving DecidableEq

namespace Ratio

def even : Ratio := ⟨1, 1, by decide, by decide⟩

theorem sum_pos (r : Ratio) : 0 < r.first + r.second := by
  have := r.first_pos
  have := r.second_pos
  omega

end Ratio

structure Point where
  x : Int
  y : Int
  deriving DecidableEq, Repr

structure Rect where
  x : Int
  y : Int
  width : Int
  height : Int
  deriving DecidableEq, Repr

namespace Rect

def area (r : Rect) : Int := r.width * r.height

def contains (r : Rect) (p : Point) : Bool :=
  decide (r.x ≤ p.x ∧ p.x < r.x + r.width ∧ r.y ≤ p.y ∧ p.y < r.y + r.height)

theorem contains_iff {r : Rect} {p : Point} :
    r.contains p = true ↔
      (r.x ≤ p.x ∧ p.x < r.x + r.width) ∧ r.y ≤ p.y ∧ p.y < r.y + r.height := by
  simp [contains, and_assoc]

def extent (r : Rect) : Direction → Int
  | .horizontal => r.width
  | .vertical => r.height

def cut (r : Rect) (d : Direction) (k : Int) : Rect × Rect :=
  match d with
  | .horizontal => (⟨r.x, r.y, k, r.height⟩, ⟨r.x + k, r.y, r.width - k, r.height⟩)
  | .vertical => (⟨r.x, r.y, r.width, k⟩, ⟨r.x, r.y + k, r.width, r.height - k⟩)

/-- Divides the extent in the shares `a` and `b`, the first part rounded down. There is no such
division when the shares cancel out. -/
def divide? (r : Rect) (d : Direction) (a b : Int) : Option (Rect × Rect) :=
  if a + b = 0 then none else some (r.cut d ((r.extent d * a).fdiv (a + b)))

/-- Divides the extent by a ratio; the remainder always lands in the second part. -/
def split (r : Rect) (d : Direction) (ratio : Ratio) : Rect × Rect :=
  r.cut d ((r.extent d * ratio.first).fdiv (ratio.first + ratio.second))

theorem divide?_eq_split (r : Rect) (d : Direction) (ratio : Ratio) :
    r.divide? d ratio.first ratio.second = some (r.split d ratio) := by
  have := ratio.sum_pos
  simp [divide?, split]
  omega

end Rect

namespace Double

/-- The square of a finite double has to be finite. It is the power with exponent two, which need
not be the product of the double with itself to the last bit; the two are infinite together. -/
def square (x : Float) : Except Overflow Float :=
  if x.isFinite && (x * x).isInf then .error {} else .ok (Float.pow x 2.0)

end Double

structure Centre where
  x : Float
  y : Float

namespace Centre

def distance (a b : Centre) : Except Overflow Float := do
  let dx ← Double.square (a.x - b.x)
  let dy ← Double.square (a.y - b.y)
  return Float.pow (dx + dy) 0.5

end Centre

namespace Rect

def centre (r : Rect) : Except Overflow Centre := do
  let w ← Double.half r.width
  let x ← Double.ofInt r.x
  let h ← Double.half r.height
  let y ← Double.ofInt r.y
  return ⟨x + w, y + h⟩

def distance (a b : Rect) : Except Overflow Float := do
  let p ← a.centre
  let q ← b.centre
  p.distance q

end Rect

end SplitScreen
