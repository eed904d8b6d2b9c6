/-!
# Reference — the environment and its variables inside a text

The environment gives names texts, each name the first that it was given.  In a text, a reference
`${name}` stands for the value of the variable.  A text is scanned once from the left; the values are
put in as they are and not looked at again.

* `Environment.get?`, `Environment.supply` — the text of a name, and a text for a name without one;
* `Piece`, `pieces` — the parts of a text;
* `Environment.expand` — the text with all references replaced.
-/

namespace EventRules

/-! ## The environment -/

abbrev Environment := List (String × String)

namespace Environment

def get? (name : String) (environment : Environment) : Option String := environment.lookup name

/-- The text of a name if there is one that is not empty. -/
def nonEmpty? (name : String) (environment : Environment) : Option String :=
  (environment.get? name).filter fun value => value != ""

/-- Gives a name a text; a name that has one, even an empty one, keeps it. -/
def supply (name value : String) (environment : Environment) : Environment :=
  if (environment.get? name).isSome then environment else environment ++ [(name, value)]

end Environment

/-! ## References -/

inductive Piece where
  | literal (c : Char)
  | reference (name : List Char)
  /-- A reference that is not closed: nothing can follow it. -/
  | unclosed
  deriving DecidableEq

inductive ReferenceFault where
  | unset (name : String)
  | unclosed (text : String)
  deriving DecidableEq

def ReferenceFault.message : ReferenceFault → String
  | .unset name => "env var not found: " ++ name
  | .unclosed text => "unclosed env var reference in: " ++ text

mutual

/-- The parts of a text. -/
def pieces : List Char → List Piece
  | [] => []
  | '$' :: '\x7b' :: rest => referencePieces [] rest
  | c :: rest => .literal c :: pieces rest

/-- The parts of a text inside a reference; `name` holds what was read of it, last first. -/
def referencePieces (name : List Char) : List Char → List Piece
  | [] => [.unclosed]
  | c :: rest =>
      if c = '\x7d' then .reference name.reverse :: pieces rest
      else referencePieces (c :: name) rest

end

namespace Environment

/-- What one part of a text stands for. -/
def pieceText (environment : Environment) (text : String) : Piece → Except ReferenceFault (List Char)
  | .literal c => .ok [c]
  | .reference name =>
      match environment.get? (String.ofList name) with
      | some value => .ok value.toList
      | none => .error (.unset (String.ofList name))
  | .unclosed => .error (.unclosed text)

/-- A text with all references replaced, unless one of them has no value or is not closed. -/
def expand (environment : Environment) (text : String) : Except ReferenceFault String := do
  let parts ← (pieces text.toList).mapM (environment.pieceText text)
  return String.ofList parts.flatten

end Environment

end EventRules
