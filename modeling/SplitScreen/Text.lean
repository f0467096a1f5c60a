namespace SplitScreen

inductive Symbol
  | char (c : Char)
  /-- A half of a surrogate pair, by its place among the halves. -/
  | half (place : Fin 2048)
  deriving DecidableEq, Repr

namespace Symbol

def code : Symbol → Nat
  | char c => c.toNat
  | half place => 0xd800 + place.val

def char? : Symbol → Option Char
  | char c => some c
  | half _ => none

/-- The half at a place, counted around. -/
def ofPlace (n : Nat) : Symbol := half (Fin.ofNat 2048 n)

def ofUnit (n : Nat) : Symbol :=
  if n.isValidChar then char (Char.ofNat n) else ofPlace (n - 0xd800)

def isOf (kind : Char → Bool) : Symbol → Bool
  | char c => kind c
  | half _ => false

end Symbol

/-- A text, which need not be a string. -/
structure Text where
  symbols : List Symbol
  deriving DecidableEq, Repr

namespace Text

def ofList (cs : List Char) : Text := ⟨cs.map .char⟩

def ofString (s : String) : Text := ofList s.toList

instance : Coe String Text := ⟨ofString⟩

instance : Inhabited Text := ⟨⟨[]⟩⟩

def isEmpty (t : Text) : Bool := t.symbols.isEmpty

def append (s t : Text) : Text := ⟨s.symbols ++ t.symbols⟩

instance : Append Text := ⟨append⟩

def joined (separator : String) : List Text → Text
  | [] => ⟨[]⟩
  | [t] => t
  | t :: rest => t ++ (separator : Text) ++ joined separator rest

def codes (t : Text) : List Nat := t.symbols.map Symbol.code

def precedes (s t : Text) : Bool := !t.codes.lex s.codes Nat.blt

def chars? : List Symbol → Option (List Char)
  | [] => some []
  | .char c :: rest => (chars? rest).map (c :: ·)
  | .half _ :: _ => none

def toString? (t : Text) : Option String := (chars? t.symbols).map String.ofList

/-- The text with a replacement character for every lone half. -/
def shown (t : Text) : String :=
  String.ofList (t.symbols.map fun symbol => symbol.char?.getD '\ufffd')

theorem chars?_eq_some_iff {symbols : List Symbol} {cs : List Char} :
    chars? symbols = some cs ↔ symbols = cs.map .char := by
  induction symbols generalizing cs with
  | nil => cases cs <;> simp [chars?]
  | cons symbol rest ih =>
    cases symbol with
    | half place => cases cs <;> simp [chars?]
    | char c =>
      rw [chars?, Option.map_eq_some_iff]
      constructor
      · rintro ⟨more, h, rfl⟩
        simp [ih.1 h]
      · intro h
        cases cs with
        | nil => simp at h
        | cons d more => simp at h; exact ⟨more, ih.2 h.2, by simp [h.1]⟩

theorem toString?_eq_some_iff {t : Text} {s : String} : t.toString? = some s ↔ t = ofString s := by
  obtain ⟨symbols⟩ := t
  simp only [toString?, Option.map_eq_some_iff, chars?_eq_some_iff, ofString, ofList, mk.injEq]
  constructor
  · rintro ⟨cs, rfl, rfl⟩
    simp
  · rintro rfl
    exact ⟨s.toList, rfl, by simp⟩

@[simp] theorem toString?_ofString (s : String) : (ofString s).toString? = some s :=
  toString?_eq_some_iff.2 rfl

end Text

end SplitScreen
