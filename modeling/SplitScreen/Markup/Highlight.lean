import SplitScreen.Text.Numeral
import SplitScreen.Text.Pattern
import SplitScreen.Text.WordChar

namespace SplitScreen

namespace Highlight

open Pattern

def anyChar : Pattern := one fun _ => true

def onLine : Pattern := one (· ≠ '\n')

def word : Pattern := one isWordChar

def decimal : Pattern := one Char.isDigit

def digit : Pattern := one fun c => (Numeral.digit? c).isSome

def hex : Pattern := one fun c => c.isDigit || ('a' ≤ c && c ≤ 'f') || ('A' ≤ c && c ≤ 'F')

def pathChar : Pattern := word ||| oneOf "-._+"

def isWord (c : Option Char) : Bool := (c.map isWordChar).getD false

def edge : Pattern := between fun a b => isWord a != isWord b

def noEdge : Pattern := between fun a b => isWord a == isWord b

def notAfterWord : Pattern := between fun a _ => !isWord a

def notAfterBackslash : Pattern := between fun a _ => a != some '\\'

def separated (part : Pattern) (separator : String) (more : Nat) : Pattern :=
  (part ++ text separator).times more ++ part

def tag : Pattern :=
  marked (text "<") ++ marked (many (word ||| oneOf "-.:|")) ++ marked (many anyChar)
    ++ marked (text ">")

def assignment : Pattern :=
  marked (word.within 1 50) ++ text "="
    ++ optional (marked (optional (text "\"") ++ several word ++ optional (text "\"")))

def bracket : Pattern := marked (oneOf "[]\x7b\x7d()")

def address : Pattern := marked (separated (decimal.within 1 3) "." 3)

def longAddress : Pattern :=
  marked ((hex.within 1 4 ++ text ":" ++ optional (text ":")).within 1 7 ++ hex.within 1 4)

/-- The address of a device, in pairs of digits or in groups of four. -/
def deviceAddress (pairs groups : Nat) : Pattern :=
  marked (separated (hex.within 1 2) "-" (pairs - 1) ||| separated (hex.within 1 2) ":" (pairs - 1)
    ||| separated (hex.times 4) "." (groups - 1))

def identifier : Pattern :=
  marked (hex.times 8 ++ text "-" ++ separated (hex.times 4) "-" 2 ++ text "-" ++ hex.times 12)

def call : Pattern := marked (few (word ||| text ".")) ++ text "("

def constant (name : String) : Pattern := edge ++ marked (text name) ++ edge

def dots : Pattern := marked (text "...")

def digits (exponentDigits : Pattern) : Pattern :=
  several decimal ++ optional (text ".") ++ many decimal
    ++ optional (text "e" ++ optional (oneOf "-+") ++ exponentDigits)

def fewDigits : Pattern := digit ++ few digit

def imaginary : Pattern :=
  marked (notAfterWord ++ optional (text "-") ++ digits fewDigits
    ++ optional (oneOf "-+" ++ digits (several digit)) ++ text "j")

def number : Pattern :=
  marked (notAfterWord ++ optional (text "-") ++ digits fewDigits ++ edge
    ||| text "0x" ++ many hex)

def path : Pattern :=
  marked (noEdge ++ many (text "/" ++ several pathChar) ++ text "/")
    ++ optional (marked (many pathChar))

def enclosed (mark : String) : Pattern :=
  optional (text "b") ++ text mark ++ few onLine ++ notAfterBackslash ++ text mark

def quotation : Pattern :=
  between (fun a _ => !isWord a && a != some '\\')
    ++ marked (enclosed "'''" ||| enclosed "'" ||| enclosed "\"\"\"" ||| enclosed "\"")

def link : Pattern :=
  marked ((text "file" ||| text "https" ||| text "http" ||| text "ws" ||| text "wss") ++ text "://"
    ++ many (one fun c => c.isAlphanum || "-$_+!`(),.?/;:&=%#~@".toList.contains c))

def patterns : List Pattern :=
  [tag, assignment, bracket,
    address ||| longAddress ||| deviceAddress 8 4 ||| deviceAddress 6 3 ||| identifier ||| call
      ||| constant "True" ||| constant "False" ||| constant "None" ||| dots ||| imaginary ||| number
      ||| path ||| quotation ||| link]

def stretches (cs : List Char) : List Stretch :=
  (patterns.flatMap fun p => p.findAll cs).filter fun s => decide (s.start < s.stop)

end Highlight

end SplitScreen
