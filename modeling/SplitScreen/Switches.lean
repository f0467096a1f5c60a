import SplitScreen.Text

namespace SplitScreen

inductive Effect (σ : Type) where
  | flag (set : σ → σ)
  | value (set : Text → σ → σ)
  | help

abbrev Switches (σ : Type) := List (String × Effect σ)

inductive Misuse
  | unknownOption (name : Text)
  | missingValue (name : Text)
  | unexpectedValue (name : Text)
  | invalidValue (name : String)
  | unknownCommand (name : Text)
  | extraArgument (text : Text)
  deriving DecidableEq, Repr

namespace Misuse

def message : Misuse → String
  | unknownOption name => s!"No such option: {name.shown}"
  | missingValue name => s!"Option {name.shown} needs a value"
  | unexpectedValue name => s!"Option {name.shown} takes no value"
  | invalidValue name => s!"Invalid value for {name}"
  | unknownCommand name => s!"No such command: {name.shown}"
  | extraArgument text => s!"Unexpected argument: {text.shown}"

end Misuse

namespace Switches

variable {σ : Type}

structure Progress (σ : Type) where
  settings : σ
  help : Bool

namespace Progress

def set (p : Progress σ) (f : σ → σ) : Progress σ := { p with settings := f p.settings }

def askHelp (p : Progress σ) : Progress σ := { p with help := true }

end Progress

def effect? (s : Switches σ) (name : Text) : Option (Effect σ) :=
  (s.find? fun entry => (entry.1 : Text) = name).map Prod.snd

def takeValue (name : Text) (set : Text → σ → σ) (p : Progress σ) :
    List Text → Except Misuse (Progress σ × List Text)
  | [] => .error (.missingValue name)
  | value :: rest => .ok (p.set (set value), rest)

def long (s : Switches σ) (p : Progress σ) (name : Text) (attached : Option Text)
    (rest : List Text) : Except Misuse (Progress σ × List Text) :=
  match s.effect? name, attached with
  | none, _ => .error (.unknownOption name)
  | some (.value set), some value => .ok (p.set (set value), rest)
  | some (.value set), none => takeValue name set p rest
  | some (.flag _), some _ | some .help, some _ => .error (.unexpectedValue name)
  | some (.flag set), none => .ok (p.set set, rest)
  | some .help, none => .ok (p.askHelp, rest)

/-- Reads short options that stand together. What follows an option with a value is the value. -/
def short (s : Switches σ) (p : Progress σ) (rest : List Text) :
    List Symbol → Except Misuse (Progress σ × List Text)
  | [] => .ok (p, rest)
  | symbol :: more =>
    let name : Text := ⟨[.char '-', symbol]⟩
    match s.effect? name with
    | none => .error (.unknownOption name)
    | some (.value set) =>
      -- Only the last option of the argument can have its value in the next one.
      if more.isEmpty then takeValue name set p rest
      else .ok (p.set (set ⟨more⟩), rest)
    | some (.flag set) => short s (p.set set) rest more
    | some .help => short s p.askHelp rest more

def option (s : Switches σ) (p : Progress σ) (arg : List Symbol) (rest : List Text) :
    Except Misuse (Progress σ × List Text) :=
  match arg with
  | .char '-' :: .char '-' :: _ =>
    -- The first equals sign counts; the value may hold others.
    let (name, value) := arg.span (· ≠ .char '=')
    s.long p ⟨name⟩ (value.tail?.map Text.mk) rest
  | _ => s.short p rest arg.tail

theorem length_le_of_takeValue {name : Text} {set : Text → σ → σ} {p q : Progress σ}
    {rest left : List Text} (h : takeValue name set p rest = .ok (q, left)) :
    left.length ≤ rest.length := by
  cases rest with
  | nil => simp [takeValue] at h
  | cons value more => cases h; simp

theorem length_le_of_short {s : Switches σ} {p q : Progress σ} {symbols : List Symbol}
    {rest left : List Text} (h : s.short p rest symbols = .ok (q, left)) :
    left.length ≤ rest.length := by
  induction symbols generalizing p with
  | nil => cases h; exact Nat.le_refl _
  | cons symbol more ih =>
    simp only [short] at h
    split at h
    · simp at h
    · split at h
      · exact length_le_of_takeValue h
      · cases h; exact Nat.le_refl _
    · exact ih h
    · exact ih h

theorem length_le_of_long {s : Switches σ} {p q : Progress σ} {name : Text}
    {attached : Option Text} {rest left : List Text}
    (h : s.long p name attached rest = .ok (q, left)) : left.length ≤ rest.length := by
  unfold long at h
  split at h
  · cases h
  · cases h; exact Nat.le_refl _
  · exact length_le_of_takeValue h
  · cases h
  · cases h
  · cases h; exact Nat.le_refl _
  · cases h; exact Nat.le_refl _

theorem length_le_of_option {s : Switches σ} {p q : Progress σ} {arg : List Symbol}
    {rest left : List Text} (h : s.option p arg rest = .ok (q, left)) :
    left.length ≤ rest.length := by
  unfold option at h
  split at h
  · exact length_le_of_long h
  · exact length_le_of_short h

/-- Reads the options of a command and answers with the settings and the other arguments. Two
hyphens end the options; so does the first other argument, unless options may come after it. -/
def scan (s : Switches σ) (mixed : Bool) (p : Progress σ) :
    List Text → Except Misuse (Progress σ × List Text)
  | [] => .ok (p, [])
  | arg :: rest =>
    if arg = ("--" : Text) then .ok (p, rest)
    -- A hyphen alone is an argument like any other.
    else if arg.symbols.head? = some (.char '-') ∧ arg ≠ ("-" : Text) then
      match h : s.option p arg.symbols rest with
      | .error m => .error m
      | .ok (q, left) =>
        have := length_le_of_option h
        scan s mixed q left
    else if mixed then do
      let (q, others) ← scan s mixed p rest
      return (q, arg :: others)
    else .ok (p, arg :: rest)
termination_by args => args.length
decreasing_by all_goals simp only [List.length_cons]; omega

end Switches

end SplitScreen
