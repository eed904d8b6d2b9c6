import EventRules.Yaml.Malformed

/-!
# Basic — tokens, and the characters that they are made of

* `Token` — what a document consists of; blocks that indentation alone delimits have tokens of their
  own;
* `Scan` — computations that move through a text.
-/

namespace EventRules
namespace Yaml

/-- How a scalar is written. -/
inductive Style where
  | plain
  | singleQuoted
  | doubleQuoted
  | literal
  | folded
  deriving DecidableEq

inductive Token where
  | streamStart
  | streamEnd
  | version (major minor : Nat)
  | tagDirective (handle text : String)
  | documentStart
  | documentEnd
  | blockSequenceStart
  | blockMapStart
  | blockEnd
  | flowSequenceStart
  | flowSequenceEnd
  | flowMapStart
  | flowMapEnd
  | blockEntry
  | flowEntry
  | key
  | value
  | alias (name : String)
  | anchor (name : String)
  | tag (handle suffix : String)
  | scalar (text : String) (style : Style)
  deriving DecidableEq

/-- A token with the places where it begins and ends. -/
structure Placed where
  token : Token
  start : Mark
  stop : Mark
  deriving DecidableEq

/-! ## Characters -/

def isBreak (c : Char) : Bool :=
  c == '\r' || c == '\n' || c.toNat == 0x85 || c.toNat == 0x2028 || c.toNat == 0x2029

def isGap (c : Char) : Bool := c == ' ' || c == '\t'

/-- The letters of names. -/
def isWord (c : Char) : Bool := c.isAlphanum || c == '_' || c == '-'

/-- Whether there is a blank, a line end or the end of the text. -/
def endsWord : Option Char → Bool
  | some c => isGap c || isBreak c
  | none => true

def endsLine : Option Char → Bool
  | some c => isBreak c
  | none => true

/-! ## Moving through a text -/

/-- A key that a value may turn out to follow: where it began and which token it would be. -/
structure PendingKey where
  required : Bool
  number : Nat
  mark : Mark

structure Scanner where
  rest : List Char
  mark : Mark
  /-- All tokens so far. -/
  tokens : List Placed
  flowLevel : Nat
  /-- The column of the innermost block, and those around it. -/
  indent : Option Nat
  outer : List (Option Nat)
  keyAllowed : Bool
  /-- The pending key of each level of brackets, innermost first. -/
  pending : List (Option PendingKey)
  finished : Bool

abbrev Scan := StateT Scanner (Except Malformed)

namespace Scan

/-- Fails at the present place. -/
def fail {α : Type} (problem : Problem) : Scan α := do
  throw (.of problem (← get).mark)

/-- Fails at the present place within something that began earlier. -/
def failIn {α : Type} (problem : Problem) (context : Context) (start : Mark) : Scan α := do
  throw (.within problem (← get).mark context start)

def mark : Scan Mark := do return (← get).mark

/-- The character so many places ahead. -/
def ahead? (n : Nat) : Scan (Option Char) := do return (← get).rest[n]?

def next? : Scan (Option Char) := ahead? 0

def isAt (c : Char) : Scan Bool := do return (← next?) == some c

/-- Moves over some characters of one line. -/
def skip (n : Nat) : Scan Unit :=
  modify fun s =>
    { s with
      rest := s.rest.drop n
      mark := { s.mark with index := s.mark.index + n, column := s.mark.column + n } }

/-- Takes the characters of one line that satisfy a condition. -/
def takeWhile (p : Char → Bool) : Scan (List Char) := do
  let taken := (← get).rest.takeWhile p
  skip taken.length
  return taken

/-- Moves over a line end, if there is one, and answers how it reads in a scalar. -/
def takeBreak : Scan (List Char) := do
  match (← get).rest with
  | '\r' :: '\n' :: _ =>
      pass 2
      return ['\n']
  | c :: _ =>
      if !isBreak c then return []
      else
        pass 1
        return if c.toNat == 0x2028 || c.toNat == 0x2029 then [c] else ['\n']
  | [] => return []
where
  pass (n : Nat) : Scan Unit :=
    modify fun s =>
      { s with rest := s.rest.drop n, mark := ⟨s.mark.index + n, s.mark.line + 1, 0⟩ }

/-- Repeats a step until it answers that it is done. -/
def repeatWith {α : Type} (step : α → Scan (α × Bool)) : (steps : Nat) → α → Scan α
  | 0, value => return value
  | steps + 1, value => do
      let (value, again) ← step value
      if again then repeatWith step steps value else return value

/-- Repeats a step that moves on each time, until it answers that it is done. -/
def loop {α : Type} (start : α) (step : α → Scan (α × Bool)) : Scan α := do
  repeatWith step ((← get).rest.length + 1) start

/-- Whether a document begins or ends here. -/
def atDocumentMark (c : Char) : Scan Bool := do
  let s ← get
  return s.mark.column == 0 && s.rest.take 3 == [c, c, c] && endsWord s.rest[3]?

/-- Adds a token that began at a place and ends here. -/
def push (token : Token) (start : Mark) : Scan Unit :=
  modify fun s => { s with tokens := s.tokens ++ [⟨token, start, s.mark⟩] }

end Scan

end Yaml
end EventRules
