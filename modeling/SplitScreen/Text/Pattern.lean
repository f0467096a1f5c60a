namespace SplitScreen

inductive Pattern
  | empty
  | one (accepts : Char → Bool)
  | seq (p q : Pattern)
  /-- The second way is tried only where the first one leads nowhere. -/
  | either (p q : Pattern)
  /-- Any number of times, as often as possible. -/
  | many (p : Pattern)
  /-- Any number of times, as seldom as possible. -/
  | few (p : Pattern)
  /-- Notes where its stretch is. -/
  | marked (p : Pattern)
  /-- A place between two characters; before a text and after it there is none. -/
  | between (accepts : Option Char → Option Char → Bool)

structure Stretch where
  start : Nat
  stop : Nat
  deriving DecidableEq, Repr

namespace Pattern

instance : Append Pattern := ⟨seq⟩

instance : OrOp Pattern := ⟨either⟩

/-- A place that matching has come to: the character before it, the count of characters before it,
the text after it, and the stretches marked on the way, the last one first. -/
structure Place where
  before : Option Char
  position : Nat
  rest : List Char
  marks : List Stretch
  deriving DecidableEq, Repr

abbrev Goal := Place → Option Place

/-- A step as often as possible, then what comes next. A step without a character is not repeated;
the first argument bounds the number of times. -/
def repeatMany (step : Place → Goal → Option Place) (next : Goal) : List Char → Place → Option Place
  | [], s => next s
  | _ :: bound, s =>
    -- The step gets the rest of the match as its goal, so it can try other ways when that fails.
    match step s fun t =>
      if s.position < t.position then repeatMany step next bound t else none with
    | some found => some found
    | none => next s

def repeatFew (step : Place → Goal → Option Place) (next : Goal) : List Char → Place → Option Place
  | [], s => next s
  | _ :: bound, s =>
    match next s with
    | some found => some found
    | none =>
      step s fun t => if s.position < t.position then repeatFew step next bound t else none

def run : Pattern → Place → Goal → Option Place
  | empty, s, next => next s
  | one accepts, s, next =>
    match s.rest with
    | [] => none
    | c :: rest => if accepts c then next ⟨some c, s.position + 1, rest, s.marks⟩ else none
  | seq p q, s, next => p.run s fun t => q.run t next
  | either p q, s, next =>
    match p.run s next with
    | some found => some found
    | none => q.run s next
  | many p, s, next => repeatMany p.run next s.rest s
  | few p, s, next => repeatFew p.run next s.rest s
  | marked p, s, next =>
    p.run s fun t => next { t with marks := ⟨s.position, t.position⟩ :: t.marks }
  | between accepts, s, next => if accepts s.before s.rest.head? then next s else none

def matchStart? (p : Pattern) (cs : List Char) : Option Place := p.run ⟨none, 0, cs, []⟩ some

/-- The marked stretches of the matches in a text, from a place on, of which some characters belong
to the last match. -/
def findFrom (p : Pattern) (skip : Nat) (before : Option Char) (position : Nat) :
    List Char → List Stretch
  | [] => []
  | c :: rest =>
    match skip with
    | skip + 1 => findFrom p skip (some c) (position + 1) rest
    | 0 =>
      match p.run ⟨before, position, c :: rest, []⟩ some with
      | none => findFrom p 0 (some c) (position + 1) rest
      | some found =>
        found.marks ++ findFrom p (found.position - position - 1) (some c) (position + 1) rest

def findAll (p : Pattern) (cs : List Char) : List Stretch := p.findFrom 0 none 0 cs

def oneOf (cs : String) : Pattern := one cs.toList.contains

def text (s : String) : Pattern := s.toList.foldr (fun c p => one (· = c) ++ p) empty

def optional (p : Pattern) : Pattern := p ||| empty

def several (p : Pattern) : Pattern := p ++ many p

def times (p : Pattern) : Nat → Pattern
  | 0 => empty
  | n + 1 => p ++ p.times n

def upTo (p : Pattern) : Nat → Pattern
  | 0 => empty
  | n + 1 => optional (p ++ p.upTo n)

def within (p : Pattern) (low high : Nat) : Pattern := p.times low ++ p.upTo (high - low)

end Pattern

end SplitScreen
