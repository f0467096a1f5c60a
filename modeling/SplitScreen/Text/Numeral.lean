import SplitScreen.Text.Characters

namespace SplitScreen

namespace Hex

def digit (n : Nat) : Char :=
  if n < 10 then Char.ofNat ('0'.toNat + n) else Char.ofNat ('a'.toNat + (n - 10))

/-- The lower `width` hexadecimal digits of a number. -/
def fixed : Nat → Nat → List Char
  | 0, _ => []
  | width + 1, n => fixed width (n / 16) ++ [digit (n % 16)]

def value? (c : Char) : Option Nat :=
  if '0' ≤ c ∧ c ≤ '9' then some (c.toNat - '0'.toNat)
  else if 'a' ≤ c ∧ c ≤ 'f' then some (c.toNat - 'a'.toNat + 10)
  else if 'A' ≤ c ∧ c ≤ 'F' then some (c.toNat - 'A'.toNat + 10)
  else none

def ofDigits? (cs : List Char) : Option Nat :=
  cs.foldl (fun n c => do return 16 * (← n) + (← value? c)) (some 0)

theorem length_fixed (width n : Nat) : (fixed width n).length = width := by
  induction width generalizing n with
  | zero => rfl
  | succ width ih => simp [fixed, ih]

end Hex

namespace Digits

def value (c : Char) : Nat := c.toNat - '0'.toNat

def toNat (cs : List Char) : Nat := cs.foldl (fun n c => 10 * n + value c) 0

def span (cs : List Char) : List Char × List Char :=
  (cs.takeWhile Char.isDigit, cs.dropWhile Char.isDigit)

/-- The lower `width` decimal digits of a number. -/
def fixed : Nat → Nat → List Char
  | 0, _ => []
  | width + 1, n => fixed width (n / 10) ++ [Char.ofNat ('0'.toNat + n % 10)]

end Digits

namespace Double

/-- The double nearest to `m × 10 ^ e`. -/
def ofDecimal (m : Nat) (e : Int) : Float := Float.ofScientific m (decide (e < 0)) e.natAbs

end Double

namespace LongInteger

def digitLimit : Nat := 4300

def isLong (n : Int) : Bool := decide (Nat.pow 10 digitLimit ≤ n.natAbs)

/-- What is said of an integer that is too long. Where its digits stand, they have been counted. -/
def message (digits : Option Nat) : String :=
  let count := match digits with
    | some n => s!": value has {n} digits"
    | none => ""
  s!"Exceeds the limit ({digitLimit} digits) for integer string conversion{count}; "
    ++ "use sys.set_int_max_str_digits() to increase the limit"

end LongInteger

namespace Numeral

/-- The code points of the zeros; each is followed by its nine other digits. -/
def zeros : List Nat :=
  [0x30, 0x660, 0x6f0, 0x7c0, 0x966, 0x9e6, 0xa66, 0xae6, 0xb66, 0xbe6, 0xc66, 0xce6, 0xd66, 0xde6,
   0xe50, 0xed0, 0xf20, 0x1040, 0x1090, 0x17e0, 0x1810, 0x1946, 0x19d0, 0x1a80, 0x1a90, 0x1b50,
   0x1bb0, 0x1c40, 0x1c50, 0xa620, 0xa8d0, 0xa900, 0xa9d0, 0xa9f0, 0xaa50, 0xabf0, 0xff10, 0x104a0,
   0x10d30, 0x11066, 0x110f0, 0x11136, 0x111d0, 0x112f0, 0x11450, 0x114d0, 0x11650, 0x116c0,
   0x11730, 0x118e0, 0x11950, 0x11c50, 0x11d50, 0x11da0, 0x16a60, 0x16ac0, 0x16b50, 0x1d7ce,
   0x1d7d8, 0x1d7e2, 0x1d7ec, 0x1d7f6, 0x1e140, 0x1e2f0, 0x1e950, 0x1fbf0]

def digit? (c : Char) : Option Nat :=
  (zeros.find? fun first => first ≤ c.toNat && c.toNat < first + 10).map fun first =>
    c.toNat - first

/-- What may stand before and after an integer: white space but for the information separators. -/
def isSpace (c : Char) : Bool := isBlank c && !('\x1c' ≤ c && c ≤ '\x1f')

def trim (cs : List Char) : List Char :=
  ((cs.dropWhile isSpace).reverse.dropWhile isSpace).reverse

/-- The digits after a digit; one underscore may stand before each. -/
def digitsAfter? : List Char → Option (List Nat)
  | [] => some []
  | '_' :: c :: rest => do return (← digit? c) :: (← digitsAfter? rest)
  | c :: rest => do return (← digit? c) :: (← digitsAfter? rest)

def digits? : List Char → Option (List Nat)
  | [] => none
  | c :: rest => do return (← digit? c) :: (← digitsAfter? rest)

def ofDigits (digits : List Nat) : Nat := digits.foldl (fun n d => 10 * n + d) 0

def int? (s : String) : Option Int :=
  let (negative, cs) := match trim s.toList with
    | '-' :: rest => (true, rest)
    | '+' :: rest => (false, rest)
    | rest => (false, rest)
  match digits? cs with
  | none => none
  | some digits =>
    if LongInteger.digitLimit < digits.length then none
    else
      let n : Int := ofDigits digits
      some (if negative then -n else n)

end Numeral

end SplitScreen
