import SplitScreen.Text
import SplitScreen.Text.Numeral

namespace SplitScreen

inductive ReadError
  | malformed
  /-- A decimal integer with more digits than can be read. -/
  | longInteger (digits : Nat)
  deriving DecidableEq, Repr

namespace ReadError

def message : ReadError → String
  | malformed => "malformed text"
  | longInteger digits => LongInteger.message (some digits)

end ReadError

namespace Utf8

/-- A character of which some bytes are still to come. The next one is between two bounds. -/
structure Started where
  left : Nat
  low : Nat
  high : Nat
  value : Nat

/-- What a byte in first place is: a whole character, the start of one, or neither. -/
inductive Lead
  | whole (c : Char)
  | start (p : Started)
  | stray

/-- The bounds of the second byte leave out long forms, surrogates and what is past the last
character. -/
def lead (b : UInt8) : Lead :=
  let n := b.toNat
  if n < 0x80 then .whole (Char.ofNat n)
  else if n < 0xc2 then .stray
  else if n < 0xe0 then .start ⟨1, 0x80, 0xbf, n - 0xc0⟩
  else if n = 0xe0 then .start ⟨2, 0xa0, 0xbf, 0⟩
  else if n = 0xed then .start ⟨2, 0x80, 0x9f, 0xd⟩
  else if n < 0xf0 then .start ⟨2, 0x80, 0xbf, n - 0xe0⟩
  else if n = 0xf0 then .start ⟨3, 0x90, 0xbf, 0⟩
  else if n < 0xf4 then .start ⟨3, 0x80, 0xbf, n - 0xf0⟩
  else if n = 0xf4 then .start ⟨3, 0x80, 0x8f, 4⟩
  else .stray

/-- The characters of some bytes after a started character, with a `none` for every ill-formed
piece. -/
def pieces : Option Started → List UInt8 → List (Option Char)
  | none, [] => []
  | some _, [] => [none]
  | none, b :: rest =>
    match lead b with
    | .whole c => some c :: pieces none rest
    | .start p => pieces (some p) rest
    | .stray => none :: pieces none rest
  | some p, b :: rest =>
    if p.low ≤ b.toNat ∧ b.toNat ≤ p.high then
      let value := p.value * 0x40 + (b.toNat - 0x80)
      if p.left = 1 then some (Char.ofNat value) :: pieces none rest
      else pieces (some ⟨p.left - 1, 0x80, 0xbf, value⟩) rest
    else
      none ::
        match lead b with
        | .whole c => some c :: pieces none rest
        | .start q => pieces (some q) rest
        | .stray => none :: pieces none rest

def decode? (bytes : List UInt8) : Option String :=
  ((pieces none bytes).mapM id).map String.ofList

/-- The text of some bytes with a replacement character for every ill-formed piece. -/
def decodeLossy (bytes : List UInt8) : String :=
  String.ofList ((pieces none bytes).map fun piece => piece.getD '\ufffd')

end Utf8

inductive Document
  | missing
  | directory
  | text (s : String)
  /-- Bytes that are no text. -/
  | binary (bytes : List UInt8)
  deriving DecidableEq, Repr

inductive FileFault
  | notText
  | isDirectory
  /-- An integer with too many digits, of which the number is known when they stand in the file. -/
  | longInteger (digits : Option Nat)
  /-- A text with a lone half of a pair has no UTF-8. -/
  | unencodable
  /-- A value cannot be written in the format. -/
  | noForm
  deriving DecidableEq, Repr

namespace FileFault

def message : FileFault → String
  | notText => "A data file is not UTF-8"
  | isDirectory => "A directory stands in the place of a data file"
  | longInteger digits => LongInteger.message digits
  | unencodable => "A text has no UTF-8"
  | noForm => "A value has no form in a data file"

end FileFault

namespace Document

def ofBytes (bytes : List UInt8) : Document :=
  match Utf8.decode? bytes with
  | some s => text s
  | none => binary bytes

def shown : Document → Option String
  | missing | directory => none
  | text s => some s
  | binary bytes => some (Utf8.decodeLossy bytes)

/-- What reading a document in a format gives: nothing without a file, a failure when it cannot be
parsed, or its content. -/
inductive Reading (α : Type)
  | absent
  | failed
  | content (a : α)

/-- Reads a document in a format. A file that is no text, or has an integer that is too long, is
not read at all. -/
def read {α : Type} (parse : String → Except ReadError α) : Document → Except FileFault (Reading α)
  | missing => .ok .absent
  | directory => .ok .failed
  | binary _ => .error .notText
  | text s =>
    match parse s with
    | .ok a => .ok (.content a)
    | .error .malformed => .ok .failed
    | .error (.longInteger digits) => .error (.longInteger (some digits))

end Document

/-- A text as far as it is written, and the fault that breaks it off. -/
structure Written where
  text : String
  fault : Option FileFault
  deriving DecidableEq, Repr

namespace Written

instance : Coe String Written := ⟨fun s => ⟨s, none⟩⟩

instance : Inhabited Written := ⟨⟨"", none⟩⟩

def broken (fault : FileFault) : Written := ⟨"", some fault⟩

/-- A text that is written at once, when it has UTF-8. -/
def ofText (t : Text) : Written :=
  match t.toString? with
  | some s => s
  | none => broken .unencodable

def append (v w : Written) : Written :=
  match v.fault with
  | some _ => v
  | none => ⟨v.text ++ w.text, w.fault⟩

instance : Append Written := ⟨append⟩

def isEmpty (w : Written) : Bool := w.text.isEmpty && w.fault.isNone

def atOnce (w : Written) : Written :=
  match w.fault with
  | some fault => broken fault
  | none => w

def all : List Written → Written
  | [] => ""
  | w :: rest => w ++ all rest

def joined (separator : String) : List Written → Written
  | [] => ""
  | [w] => w
  | w :: rest => w ++ (separator : Written) ++ joined separator rest

/-- What the writing leaves in the place of the file, and how it ends. -/
def outcome (w : Written) : Except FileFault Unit × Document :=
  (match w.fault with
    | some fault => .error fault
    | none => .ok (), .text w.text)

end Written

end SplitScreen
