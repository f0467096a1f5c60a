import SplitScreen.Text

namespace SplitScreen

inductive ContentKind
  | terminal
  | source
  | trace
  | opcode
  | vars
  | expression
  | memory
  | stack
  | null
  deriving DecidableEq, Repr

namespace ContentKind

def name : ContentKind → String
  | terminal => "terminal"
  | source => "source"
  | trace => "trace"
  | opcode => "opcode"
  | vars => "variable"
  | expression => "expression"
  | memory => "memory"
  | stack => "stack"
  | null => "null"

def all : List ContentKind :=
  [terminal, source, trace, opcode, vars, expression, memory, stack, null]

def ofName? (s : Text) : Option ContentKind := all.find? fun k => decide ((k.name : Text) = s)

@[simp] theorem ofName?_name (k : ContentKind) : ofName? k.name = some k := by
  cases k <;> rfl

theorem name_of_ofName? {s : Text} {k : ContentKind} (h : ofName? s = some k) :
    (k.name : Text) = s := by
  simpa using List.find?_some h

end ContentKind

inductive View
  | kind (k : ContentKind)
  | custom (name : Text)
  deriving DecidableEq, Repr

namespace View

def ofName (s : Text) : View :=
  match ContentKind.ofName? s with
  | some k => kind k
  | none => custom s

def name : View → Text
  | kind k => k.name
  | custom s => s

/-- Only the known kind is the terminal, not a custom view of that name. -/
def isTerminal (v : View) : Bool := decide (v = kind .terminal)

@[simp] theorem name_ofName (s : Text) : (ofName s).name = s := by
  unfold ofName
  split
  · next k h => exact ContentKind.name_of_ofName? h
  · rfl

@[simp] theorem ofName_name_kind (k : ContentKind) : ofName k.name = kind k := by
  simp [ofName]

end View

end SplitScreen
