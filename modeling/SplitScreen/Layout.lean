import SplitScreen.Geometry
import SplitScreen.Value
import SplitScreen.View

namespace SplitScreen

namespace Ratio

def ofInts? (a b : Int) : Option Ratio :=
  if h : 0 < a ∧ 0 < b then some ⟨a, b, h.1, h.2⟩ else none

def ofValue? : Value → Option Ratio
  | .list [.int a, .int b] => ofInts? a b
  | .tuple [.int a, .int b] => ofInts? a b
  | _ => none

def toValue (r : Ratio) : Value := .tuple [.int r.first, .int r.second]

theorem ofInts?_eq_some_iff {a b : Int} {r : Ratio} :
    ofInts? a b = some r ↔ a = r.first ∧ b = r.second := by
  obtain ⟨c, d, hc, hd⟩ := r
  simp only [ofInts?]
  split
  · simp
  · next h => simp; rintro rfl rfl; exact h ⟨hc, hd⟩

@[simp] theorem ofInts?_self (r : Ratio) : ofInts? r.first r.second = some r :=
  ofInts?_eq_some_iff.2 ⟨rfl, rfl⟩

@[simp] theorem ofValue?_toValue (r : Ratio) : ofValue? r.toValue = some r := by
  simp [toValue, ofValue?]

end Ratio

/-- The shape of a pane tree, with the panes that are marked for the focus. -/
inductive Layout (ρ : Type) where
  | pane (view : View) (focused : Bool)
  | split (direction : Direction) (ratio : ρ) (first second : Layout ρ)
  deriving DecidableEq

namespace Layout

variable {ρ σ : Type}

def mapRatio (f : ρ → σ) : Layout ρ → Layout σ
  | pane view focused => pane view focused
  | split direction ratio first second =>
    split direction (f ratio) (first.mapRatio f) (second.mapRatio f)

def literal (l : Layout Ratio) : Layout Value := l.mapRatio Ratio.toValue

/-- Reads the ratios of a literal, from the root on and the first part before the second; fails
at the first that is no pair of positive integers. -/
def check : Layout Value → Except Value (Layout Ratio)
  | pane view focused => .ok (pane view focused)
  | split direction ratio first second =>
    match Ratio.ofValue? ratio with
    | none => .error ratio
    | some r => do return split direction r (← first.check) (← second.check)

/-- A layout whose ratios are made of elements can be written down. -/
def isWritable : Layout Value → Bool
  | pane .. => true
  | split _ ratio first second => ratio.hasElements && first.isWritable && second.isWritable

def paneCount : Layout ρ → Nat
  | pane .. => 1
  | split _ _ first second => first.paneCount + second.paneCount

def nodeCount : Layout ρ → Nat
  | pane .. => 1
  | split _ _ first second => 1 + first.nodeCount + second.nodeCount

def marks : Layout ρ → List Bool
  | pane _ focused => [focused]
  | split _ _ first second => first.marks ++ second.marks

def views : Layout ρ → List View
  | pane view _ => [view]
  | split _ _ first second => first.views ++ second.views

@[simp] theorem check_literal (l : Layout Ratio) : l.literal.check = .ok l := by
  induction l with
  | pane view focused => rfl
  | split direction ratio first second ih₁ ih₂ =>
    simp only [literal] at ih₁ ih₂
    simp [literal, mapRatio, check, ih₁, ih₂, bind, Except.bind, pure, Except.pure]

theorem check_split_eq_ok_iff {direction : Direction} {ratio : Value}
    {first second : Layout Value} {l : Layout Ratio} :
    (split direction ratio first second).check = .ok l ↔
      ∃ r first' second', Ratio.ofValue? ratio = some r ∧ first.check = .ok first' ∧
        second.check = .ok second' ∧ l = split direction r first' second' := by
  rw [check]
  cases Ratio.ofValue? ratio with
  | none => simp
  | some r =>
    cases first.check with
    | error bad => simp [bind, Except.bind]
    | ok first' =>
      cases second.check with
      | error bad => simp [bind, Except.bind]
      | ok second' => simp [bind, Except.bind, pure, Except.pure, eq_comm]

@[simp] theorem isWritable_literal (l : Layout Ratio) : l.literal.isWritable = true := by
  induction l with
  | pane view focused => rfl
  | split direction ratio first second ih₁ ih₂ =>
    simp only [literal] at ih₁ ih₂
    simp [literal, mapRatio, isWritable, Ratio.toValue, Value.hasElements, ih₁, ih₂]

theorem paneCount_pos (l : Layout ρ) : 0 < l.paneCount := by
  induction l with
  | pane => exact Nat.one_pos
  | split => simp only [paneCount]; omega

def small : Layout Ratio := pane (.kind .terminal) true

/-- The source over the terminal on the left, the trace over the variables on the right. -/
def large : Layout Ratio :=
  split .horizontal ⟨3, 2, by decide, by decide⟩
    (split .vertical ⟨2, 1, by decide, Int.zero_lt_one⟩
      (pane (.kind .source) false) (pane (.kind .terminal) true))
    (split .vertical .even (pane (.kind .trace) false) (pane (.kind .vars) false))

end Layout

end SplitScreen
