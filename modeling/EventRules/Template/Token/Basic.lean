import EventRules.Number.Binary64
import EventRules.Template.Fault

/-!
# Token — the words of a template

A template is text with outputs and blocks in it; within those stand names, literals and signs.
-/

namespace EventRules
namespace Template

inductive Token where
  | text (s : String)
  | outputStart
  | outputEnd
  | blockStart
  | blockEnd
  | name (s : String)
  | string (s : String)
  | integer (n : Nat)
  | float (x : Binary64)
  | sign (s : String)
  deriving DecidableEq

/-- What messages call a token. -/
def Token.describe : Token → String
  | .text _ => "template-data"
  | .outputStart => "start of variable block"
  | .outputEnd => "end of variable block"
  | .blockStart => "start of block"
  | .blockEnd => "end of block"
  | .name _ => "identifier"
  | .string _ => "string"
  | .integer _ => "integer"
  | .float _ => "float"
  | .sign s => "`" ++ s ++ "`"

/-- A token and the line it begins on. -/
structure Placed where
  token : Token
  line : Nat
  deriving DecidableEq

/-- The tokens of a source up to the first place where there is none. -/
structure Tokens where
  tokens : List Placed
  fault : Option Fault

def Tokens.cons (token : Token) (line : Nat) (more : Tokens) : Tokens :=
  { more with tokens := ⟨token, line⟩ :: more.tokens }

def Tokens.stop (fault : Fault) (line : Nat) : Tokens := ⟨[], some (fault.onLine line)⟩

end Template
end EventRules
