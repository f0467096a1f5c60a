import SplitScreen.Json.Reader
import SplitScreen.Json.Writer
import Mathlib.Data.List.Basic
import Mathlib.Data.Nat.Digits.Defs

namespace SplitScreen

namespace Hex

theorem value?_digit {n : Nat} (h : n < 16) : value? (digit n) = some n := by
  revert n
  decide

theorem ofDigits?_fixed (width n : Nat) : ofDigits? (fixed width n) = some (n % 16 ^ width) := by
  induction width generalizing n with
  | zero => simp [fixed, ofDigits?, Nat.mod_one]
  | succ width ih =>
      have hih := ih (n / 16)
      unfold ofDigits? at hih ⊢
      rw [fixed, List.foldl_append, hih]
      simp [value?_digit (Nat.mod_lt n (by decide : 0 < 16)), Nat.pow_succ', Nat.mod_mul,
        Nat.add_comm]

end Hex

namespace Json

theorem codeUnit?_fixed {n : Nat} (h : n < 0x10000) (rest : List Char) :
    codeUnit? (Hex.fixed 4 n ++ rest) = some (n, rest) := by
  have hdigits := Hex.ofDigits?_fixed 4 n
  obtain ⟨a, b, c, d, hfixed⟩ := List.length_eq_four.mp (Hex.length_fixed 4 n)
  rw [hfixed, Nat.mod_eq_of_lt (show n < 16 ^ 4 from h)] at hdigits
  simp [hfixed, codeUnit?, hdigits]

theorem unicodeEscape?_unit {n : Nat} (h : n < 0x10000) (hhigh : isHighSurrogate n = false)
    (rest : List Char) : unicodeEscape? (Hex.fixed 4 n ++ rest) = some (Symbol.ofUnit n, rest) := by
  simp [unicodeEscape?, codeUnit?_fixed h, hhigh]

theorem unicodeEscape?_pair {high low : Nat} (hhigh : isHighSurrogate high = true)
    (hlow : isLowSurrogate low = true) (rest : List Char) :
    unicodeEscape? (Hex.fixed 4 high ++ (unitEscape low ++ rest)) =
      some (.char (joinSurrogates high low), rest) := by
  have hhigh' : high < 0x10000 := by simp [isHighSurrogate] at hhigh; omega
  have hlow' : low < 0x10000 := by simp [isLowSurrogate] at hlow; omega
  simp [unicodeEscape?, codeUnit?_fixed hhigh', hhigh, unitEscape, codeUnit?_fixed hlow', hlow]

theorem ofUnit_toNat {c : Char} (h : c.toNat < 0x10000) :
    isHighSurrogate c.toNat = false ∧ Symbol.ofUnit c.toNat = .char c := by
  have hvalid : c.toNat.isValidChar := c.valid
  refine ⟨?_, by rw [Symbol.ofUnit, if_pos hvalid, Char.ofNat_toNat]⟩
  rcases hvalid with hvalid | hvalid <;> simp [isHighSurrogate] <;> omega

theorem joinSurrogates_toNat {c : Char} (h : 0x10000 ≤ c.toNat) :
    let n := c.toNat - 0x10000
    isHighSurrogate (0xd800 + n / 0x400) = true ∧ isLowSurrogate (0xdc00 + n % 0x400) = true ∧
      joinSurrogates (0xd800 + n / 0x400) (0xdc00 + n % 0x400) = c := by
  intro n
  have hlt : c.toNat < 0x110000 := by
    have hvalid : c.toNat.isValidChar := c.valid
    unfold Nat.isValidChar at hvalid
    omega
  have hcode : 0x10000 + (0xd800 + n / 0x400 - 0xd800) * 0x400 + (0xdc00 + n % 0x400 - 0xdc00) =
      c.toNat := by
    omega
  refine ⟨by simp [isHighSurrogate]; omega, by simp [isLowSurrogate]; omega, ?_⟩
  rw [joinSurrogates, hcode, Char.ofNat_toNat]

theorem stringBody_unicode {cs rest : List Char} {symbol : Symbol} (steps : Nat)
    (h : unicodeEscape? cs = some (symbol, rest)) :
    stringBody (steps + 1) ('\\' :: 'u' :: cs) = (do
      let (body, rest) ← stringBody steps rest
      return (symbol :: body, rest)) := by
  rw [stringBody, h]

theorem stringBody_cons {c : Char} (steps : Nat) (rest : List Char) (hquote : c ≠ '"')
    (hslash : c ≠ '\\') (hprint : 0x20 ≤ c.toNat) :
    stringBody (steps + 1) (c :: rest) = (do
      let (body, rest) ← stringBody steps rest
      return (.char c :: body, rest)) := by
  have hplain : ¬ (c.toNat < 0x20 ∨ c = '\\') :=
    not_or.mpr ⟨Nat.not_lt.mpr hprint, hslash⟩
  rw [stringBody, if_neg hplain]
  · exact hquote
  · exact fun rest h => absurd h hslash
  · exact fun e rest h => absurd h hslash

/-- The escape of a character is read in one step. -/
theorem stringBody_escape (c : Char) (steps : Nat) (rest : List Char) :
    stringBody (steps + 1) (escape (.char c) ++ rest) = (do
      let (body, rest) ← stringBody steps rest
      return (.char c :: body, rest)) := by
  rw [escape]
  split
  · next hc => subst hc; rfl
  · next hquote =>
    split
    · next hc => subst hc; rfl
    · next hslash =>
      repeat' split
      case isTrue hc | isTrue hc | isTrue hc | isTrue hc | isTrue hc =>
        subst hc
        rfl
      case isTrue hprint => exact stringBody_cons steps rest hquote hslash hprint.1
      -- A character that is not printed is one unit, or a pair of halves.
      case isTrue hlow =>
        obtain ⟨hhigh, hunit⟩ := ofUnit_toNat hlow
        rw [← hunit]
        exact stringBody_unicode steps (unicodeEscape?_unit hlow hhigh rest)
      case isFalse hlow =>
        obtain ⟨hhigh, hlow', hjoin⟩ := joinSurrogates_toNat (Nat.le_of_not_lt hlow)
        have hpair := unicodeEscape?_pair hhigh hlow' rest
        rw [hjoin] at hpair
        rw [List.append_assoc]
        exact stringBody_unicode steps hpair

theorem stringBody_flatMap_escape (cs : List Char) (rest : List Char) {steps : Nat}
    (h : cs.length < steps) :
    stringBody steps ((cs.map Symbol.char).flatMap escape ++ '"' :: rest) =
      .ok (cs.map .char, rest) := by
  induction cs generalizing steps with
  | nil =>
      obtain ⟨steps, rfl⟩ := Nat.exists_eq_add_one_of_ne_zero (Nat.ne_of_gt h)
      rfl
  | cons c cs ih =>
      obtain ⟨steps, rfl⟩ := Nat.exists_eq_add_one_of_ne_zero (Nat.ne_of_gt (Nat.zero_lt_of_lt h))
      rw [List.map_cons, List.flatMap_cons, List.append_assoc, stringBody_escape,
        ih (Nat.lt_of_succ_lt_succ h)]
      rfl

theorem escape_ne_nil (symbol : Symbol) : escape symbol ≠ [] := by
  unfold escape
  repeat' split
  all_goals simp [unitEscape]

theorem toList_quote (t : Text) :
    (quote t).toList = '"' :: (t.symbols.flatMap escape ++ ['"']) := by
  rw [quote, String.toList_ofList, List.cons_append]

theorem string_flatMap_escape (s : String) (rest : List Char) :
    string ((Text.ofString s).symbols.flatMap escape ++ '"' :: rest) = .ok (s, rest) := by
  have hlength : s.toList.length ≤ ((s.toList.map Symbol.char).flatMap escape).length := by
    induction s.toList with
    | nil => exact Nat.zero_le _
    | cons c cs ih =>
        have := List.length_pos_iff.mpr (escape_ne_nil (.char c))
        simp only [List.map_cons, List.flatMap_cons, List.length_append, List.length_cons]
        omega
  rw [string, show (Text.ofString s).symbols = s.toList.map .char from rfl,
    stringBody_flatMap_escape]
  · rfl
  · simp only [List.length_append, List.length_cons]
    omega

/-- A number that stands before the text ends there. -/
def Stops (cs : List Char) : Prop :=
  ∀ c more, cs = c :: more → c.isDigit = false ∧ c ≠ '.' ∧ c ≠ 'e' ∧ c ≠ 'E'

theorem stops_nil : Stops [] := nofun

theorem stops_cons {c : Char} {cs : List Char}
    (h : c.isDigit = false ∧ c ≠ '.' ∧ c ≠ 'e' ∧ c ≠ 'E') : Stops (c :: cs) := by
  rintro c' more hcons
  obtain ⟨rfl, -⟩ := List.cons.inj hcons
  exact h

theorem isDigit_of_mem {n : Nat} {c : Char} (h : c ∈ Nat.toDigits 10 n) : c.isDigit = true :=
  Nat.isDigit_of_mem_toDigits (by decide) (by decide) h

theorem toNat_toDigits (n : Nat) : Digits.toNat (Nat.toDigits 10 n) = n :=
  Nat.ofDigitChars_eq_foldl.symm.trans Nat.ofDigitChars_ten_toDigits

theorem span_toDigits (n : Nat) {rest : List Char} (h : Stops rest) :
    Digits.span (Nat.toDigits 10 n ++ rest) = (Nat.toDigits 10 n, rest) := by
  have hdigit : ∀ c ∈ Nat.toDigits 10 n, c.isDigit = true := fun c => isDigit_of_mem
  rw [Digits.span, List.takeWhile_append_of_pos hdigit, List.dropWhile_append_of_pos hdigit]
  cases rest with
  | nil => simp
  | cons c more => simp [(h c more rfl).1]

theorem head_toDigits {n : Nat} (h : n ≠ 0) :
    ∃ c cs, Nat.toDigits 10 n = c :: cs ∧ c ≠ '0' := by
  induction n using Nat.strongRecOn with
  | ind n ih =>
      rw [Nat.toDigits_eq_if (by decide)]
      split
      · next hlt =>
          have hdigit : ∀ d < 10, d ≠ 0 → d.digitChar ≠ '0' := by decide
          exact ⟨_, _, rfl, hdigit n hlt h⟩
      · next hge =>
          obtain ⟨c, cs, hdigits, hc⟩ := ih (n / 10) (by omega) (by omega)
          exact ⟨c, cs ++ [(n % 10).digitChar], by rw [hdigits, List.cons_append], hc⟩

theorem integerPart_toDigits (n : Nat) {rest : List Char} (h : Stops rest) :
    integerPart (Nat.toDigits 10 n ++ rest) = (Nat.toDigits 10 n, rest) := by
  by_cases hn : n = 0
  · subst hn
    rfl
  · have hspan := span_toDigits n h
    obtain ⟨c, cs, hdigits, hc⟩ := head_toDigits hn
    rw [hdigits] at hspan ⊢
    rw [integerPart]
    · exact hspan
    · rintro more hcons
      exact hc (List.cons.inj hcons).1

theorem length_toDigits {n limit : Nat} (hlimit : 0 < limit) (h : ¬ Nat.pow 10 limit ≤ n) :
    ¬ limit < (Nat.toDigits 10 n).length :=
  Nat.not_lt.mpr ((Nat.length_toDigits_le_iff (by decide) hlimit).mpr (Nat.lt_of_not_le h))

theorem lt_length_toDigits {n limit : Nat} (hlimit : 0 < limit) (h : 10 ^ limit ≤ n) :
    limit < (Nat.toDigits 10 n).length := by
  rw [← Nat.not_le, Nat.length_toDigits_le_iff (by decide) hlimit]
  exact Nat.not_lt.mpr h

theorem length_toDigits_pow {limit : Nat} (hlimit : 0 < limit) :
    (Nat.toDigits 10 (10 ^ limit)).length = limit + 1 := by
  have hlower := lt_length_toDigits hlimit (Nat.le_refl (10 ^ limit))
  have hupper := (Nat.length_toDigits_le_iff (by decide) (Nat.succ_pos limit)).mpr
    (Nat.pow_lt_pow_right (by decide : 1 < 10) (Nat.lt_succ_self limit))
  exact Nat.le_antisymm hupper hlower

/-- A number without a fraction is read as the integer that its digits stand for, unless they are too
many. -/
theorem number_digits (negative : Bool) (n : Nat) {rest : List Char} (h : Stops rest) :
    number negative (Nat.toDigits 10 n ++ rest) =
      if LongInteger.digitLimit < (Nat.toDigits 10 n).length then
        .error (.longInteger (Nat.toDigits 10 n).length)
      else .ok (.int (if negative then -(n : Int) else n), rest) := by
  have hwhole : (Nat.toDigits 10 n).isEmpty = false := by
    simp [Nat.toDigits_ne_nil]
  have hfraction : fractionPart rest = ([], rest) := by
    unfold fractionPart
    split
    · next more => exact absurd rfl (h '.' more rfl).2.1
    · rfl
  have hexponent : exponentPart rest = (none, rest) := by
    unfold exponentPart
    split
    · next c more => rw [if_neg (not_or.mpr (h c more rfl).2.2)]
    · rfl
  rw [number, integerPart_toDigits n h]
  simp only [hwhole, hfraction, hexponent, List.isEmpty_nil, Option.isNone_none, Bool.and_self,
    if_true, toNat_toDigits, Bool.false_eq_true, if_false]

theorem number_toDigits (negative : Bool) {n : Nat}
    (hn : ¬ Nat.pow 10 LongInteger.digitLimit ≤ n) {rest : List Char} (h : Stops rest) :
    number negative (Nat.toDigits 10 n ++ rest) =
      .ok (.int (if negative then -(n : Int) else n), rest) := by
  rw [number_digits negative n h, if_neg (length_toDigits (by decide) hn)]

end Json

end SplitScreen
