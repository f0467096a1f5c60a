namespace SplitScreen

def nearestQuotient (n d : Nat) : Nat :=
  let below := n / d
  let rest := 2 * (n % d)
  if rest < d then below
  else if d < rest then below + 1
  else if below % 2 = 0 then below
  else below + 1

@[simp] theorem nearestQuotient_one (n : Nat) : nearestQuotient n 1 = n := by
  simp [nearestQuotient, Nat.mod_one]

/-- A quantity too large for a double where a finite one was due. -/
structure Overflow where
  deriving DecidableEq, Repr

namespace Double

def ofInt (n : Int) : Except Overflow Float :=
  let x := Float.ofInt n
  if x.isInf then .error {} else .ok x

/-- The nearest double of half an integer, rounded once. -/
def half (n : Int) : Except Overflow Float :=
  let x := Float.ofScientific (5 * n.natAbs) true 1
  if x.isInf then .error {} else .ok (if n < 0 then -x else x)

/-- The integer that the nearest double of an integer stands for: of its bits only the first 53
count. -/
def nearestInt (n : Int) : Int :=
  let unit := Nat.pow 2 (n.natAbs.log2 - 52)
  let magnitude : Nat := nearestQuotient n.natAbs unit * unit
  if n < 0 then -magnitude else magnitude

theorem nearestInt_of_small {n : Int} (h : n.natAbs.log2 ≤ 52) : nearestInt n = n := by
  have hu : Nat.pow 2 (n.natAbs.log2 - 52) = 1 := by
    rw [Nat.sub_eq_zero_of_le h, Nat.pow_eq, Nat.pow_zero]
  simp only [nearestInt, hu, nearestQuotient_one, Nat.mul_one]
  split <;> omega

end Double

namespace Double

/-- The count of mantissas of one exponent: a mantissa has 52 bits. -/
def mantissaCount : Nat := 0x10000000000000

def signBit : Nat := 0x8000000000000000

end Double

/-- The positive decimal `digits × 10 ^ exponent`. -/
structure Decimal where
  digits : Nat
  exponent : Int
  deriving DecidableEq, Repr

namespace Decimal

/-- A positive quantity `mid / den` with the reals around it, from `low / den` to `high / den`,
that stand for it. -/
structure Target where
  low : Nat
  mid : Nat
  high : Nat
  den : Nat
  /-- Whether the two ends belong to the interval. -/
  closed : Bool

namespace Target

def inUnits (t : Target) (k : Int) : Target :=
  if 0 ≤ k then { t with den := t.den * Nat.pow 10 k.toNat }
  else
    let s := Nat.pow 10 (-k).toNat
    { t with low := t.low * s, mid := t.mid * s, high := t.high * s }

def holds (t : Target) (n : Nat) : Bool :=
  if t.closed then decide (t.low ≤ n * t.den ∧ n * t.den ≤ t.high)
  else decide (t.low < n * t.den ∧ n * t.den < t.high)

/-- The integer in the interval that is nearest to the quantity, the even one on a tie. -/
def nearest? (t : Target) : Option Nat :=
  let below := t.mid / t.den
  let above := below + 1
  match decide (0 < below) && t.holds below, t.holds above with
  | true, true =>
    let twice := 2 * t.mid
    let middle := (2 * below + 1) * t.den
    if twice < middle then some below
    else if middle < twice then some above
    else some (if below % 2 = 0 then below else above)
  | true, false => some below
  | false, true => some above
  | false, false => none

def magnitude (t : Target) : Int :=
  if t.den ≤ t.mid then ((Nat.toDigits 10 (t.mid / t.den)).length : Int) - 1
  else
    match (List.range 400).find? fun j => decide (t.den ≤ t.mid * Nat.pow 10 j) with
    | some j => -(j : Int)
    | none => -400

/-- The interval of a positive finite double. It reaches half way to either neighbour; the lower
neighbour of a power of two is nearer. The ends round to an even mantissa. -/
def ofDouble (x : Float) : Target :=
  let bits := x.toBits.toNat
  let e : Nat := bits / Double.mantissaCount % 2048
  let f := bits % Double.mantissaCount
  let m := if e = 0 then f else f + Double.mantissaCount
  let q : Int := if e = 0 then -1074 else (e : Int) - 1075
  -- In quarters of the last place: half of it, and half of the finer one under a power of two.
  let gap := if f = 0 ∧ 1 < e then 1 else 2
  let s := Nat.pow 2 q.toNat
  { low := (4 * m - gap) * s
    mid := 4 * m * s
    high := (4 * m + 2) * s
    den := 4 * Nat.pow 2 (-q).toNat
    closed := m % 2 = 0 }

end Target

def shortest (t : Target) : Decimal :=
  let e := t.magnitude
  ((List.range 17).findSome? fun (n : Nat) =>
    -- The grid of the first digit alone comes first; each further one is ten times finer.
    let k := e - (n : Int)
    (t.inUnits k).nearest?.map fun d => ⟨d, k⟩).getD ⟨0, 0⟩

/-- The significant digits, without zeros at the end, and the power of ten of the first. -/
def scientific (d : Decimal) : List Char × Int :=
  let digits := Nat.toDigits 10 d.digits
  let significant := (digits.reverse.dropWhile (· = '0')).reverse
  (significant, d.exponent + (digits.length : Int) - 1)

end Decimal

/-- How a finite double is written: which exponents are written without one, and how many digits
an exponent has at least. -/
structure DoubleFormat where
  positionalFrom : Int
  positionalBelow : Int
  exponentDigits : Nat

namespace DoubleFormat

def exponentText (fmt : DoubleFormat) (e : Int) : String :=
  let digits := Nat.toDigits 10 e.natAbs
  let padding := List.replicate (fmt.exponentDigits - digits.length) '0'
  (if e < 0 then "e-" else "e+") ++ String.ofList (padding ++ digits)

/-- Writes significant digits whose first stands for `10 ^ e`; a whole number keeps one decimal
place unless it is written with an exponent. -/
def write (fmt : DoubleFormat) (digits : List Char) (e : Int) : String :=
  if fmt.positionalFrom ≤ e ∧ e < fmt.positionalBelow then
    if e < 0 then "0." ++ String.ofList (List.replicate (-e - 1).toNat '0' ++ digits)
    else
      let whole := e.toNat + 1
      let left := digits.take whole ++ List.replicate (whole - digits.length) '0'
      let right := digits.drop whole
      String.ofList left ++ "." ++ if right.isEmpty then "0" else String.ofList right
  else
    let fraction := digits.drop 1
    String.ofList (digits.take 1)
      ++ (if fraction.isEmpty then "" else "." ++ String.ofList fraction)
      ++ fmt.exponentText e

end DoubleFormat

namespace Double

/-- Data files write a double without an exponent from `10 ^ -4` up to below `10 ^ 16`, and with
an exponent of at least two digits beyond. -/
def format : DoubleFormat := ⟨-4, 16, 2⟩

def finiteText (x : Float) : String :=
  let negative := decide (signBit ≤ x.toBits.toNat)
  let body :=
    if x == 0.0 then "0.0"
    else
      let (digits, e) := (Decimal.shortest (Decimal.Target.ofDouble x)).scientific
      format.write digits e
  if negative then "-" ++ body else body

def text (nan infinity : String) (x : Float) : String :=
  if x.isNaN then nan
  else if x.isInf then if x < 0.0 then "-" ++ infinity else infinity
  else finiteText x

end Double

end SplitScreen
