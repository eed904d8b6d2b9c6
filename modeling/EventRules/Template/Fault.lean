/-!
# Fault — what can be wrong with a template

A fault has a kind, mostly a detail, and the line on which it was found once that is known.

* `Template.Fault.message` — its text, with the place it was found in;
* `Template.malformed` — a fault of the notation.
-/

namespace EventRules
namespace Template

inductive FaultKind where
  | malformed
  | badEscape
  | undefinedValue
  | invalidOperation
  | tooManyArguments
  | missingArgument
  | unknownFilter
  | unknownFunction
  | unknownTest
  | unknownMethod
  | templateNotFound
  | cannotUnpack
  | unknownBlock
  /-- The answer has no form as a value outside of templates; such a fault has no place. -/
  | noAnswer
  deriving DecidableEq

def FaultKind.text : FaultKind → String
  | .malformed => "syntax error"
  | .badEscape => "bad string escape"
  | .undefinedValue => "undefined value"
  | .invalidOperation => "invalid operation"
  | .tooManyArguments => "too many arguments"
  | .missingArgument => "missing argument"
  | .unknownFilter => "unknown filter"
  | .unknownFunction => "unknown function"
  | .unknownTest => "unknown test"
  | .unknownMethod => "unknown method"
  | .templateNotFound => "template not found"
  | .cannotUnpack => "cannot unpack"
  | .unknownBlock => "unknown block"
  | .noAnswer => ""

structure Fault where
  kind : FaultKind
  detail : Option String
  line : Option Nat
  deriving DecidableEq

namespace Fault

def ofKind (kind : FaultKind) : Fault := ⟨kind, none, none⟩

def of (kind : FaultKind) (detail : String) : Fault := ⟨kind, some detail, none⟩

/-- A fault of the notation. -/
def malformed (detail : String) : Fault := of .malformed detail

def invalid (detail : String) : Fault := of .invalidOperation detail

/-- The fault with a line, unless it has one already. -/
def onLine (fault : Fault) (line : Nat) : Fault :=
  { fault with line := fault.line <|> some line }

/-- The text of a fault in a source that is called `place`. -/
def message (place : String) (fault : Fault) : String :=
  match fault.kind with
  | .noAnswer => fault.detail.getD ""
  | _ =>
      let body :=
        match fault.detail with
        | some detail => fault.kind.text ++ ": " ++ detail
        | none => fault.kind.text
      body ++ " (in " ++ place ++ ":" ++ toString (fault.line.getD 0) ++ ")"

end Fault

end Template
end EventRules
