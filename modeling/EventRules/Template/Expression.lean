import EventRules.Number.Binary64

/-!
# Expression — what templates are made of

* `Expr` — expressions; those that can fail keep the line that a failure is reported on;
* `Target` — what a value can be assigned to;
* `Statement` — text, outputs and blocks; `Routine` — a named piece of template with parameters;
* `Document` — a whole template.
-/

namespace EventRules
namespace Template

inductive Literal where
  | none
  | bool (b : Bool)
  | integer (n : Nat)
  | float (x : Binary64)
  | string (s : String)
  deriving DecidableEq

inductive BinaryOp where
  | equal
  | unequal
  | less
  | lessOrEqual
  | greater
  | greaterOrEqual
  | contained
  | both
  | either
  | add
  | sub
  | mul
  | div
  | floorDiv
  | remainder
  | power
  | join
  deriving DecidableEq

mutual

inductive Expr where
  | var (name : String) (line : Nat)
  | literal (value : Literal)
  | negation (value : Expr)
  | minus (value : Expr) (line : Nat)
  | binary (op : BinaryOp) (left right : Expr) (line : Nat)
  | choice (test yes : Expr) (no : Option Expr)
  | filter (name : String) (value : Option Expr) (args : List Argument) (line : Nat)
  | test (name : String) (value : Expr) (args : List Argument) (line : Nat)
  | attribute (value : Expr) (name : String) (line : Nat)
  | item (value index : Expr) (line : Nat)
  | slice (value : Expr) (start stop step : Option Expr) (line : Nat)
  | call (callee : Expr) (args : List Argument) (line : Nat)
  | list (items : List Expr)
  | map (entries : List (Expr × Expr))

inductive Argument where
  | positional (value : Expr)
  | named (name : String) (value : Expr)
  | spread (value : Expr)
  | spreadNamed (value : Expr)

end

/-- What messages call an expression. -/
def Expr.describe : Expr → String
  | .var _ _ => "variable"
  | .literal _ => "constant"
  | .negation _ => "unary operator"
  | .minus _ _ => "unary operator"
  | .binary _ _ _ _ => "binary operator"
  | .choice _ _ _ => "if expression"
  | .filter _ _ _ _ => "filter"
  | .test _ _ _ _ => "test"
  | .attribute _ _ _ => "attribute lookup"
  | .item _ _ _ => "item lookup"
  | .slice _ _ _ _ _ => "slice"
  | .call _ _ _ => "call"
  | .list _ => "list literal"
  | .map _ => "map literal"

inductive Target where
  | name (s : String)
  | attribute (value : Expr) (name : String) (line : Nat)
  | tuple (parts : List Target)

mutual

inductive Statement where
  | text (s : String)
  | output (value : Expr) (line : Nat)
  | loop (target : Target) (items : Expr) (only : Option Expr) (recursive : Bool)
      (body otherwise : List Statement) (line : Nat)
  | choice (test : Expr) (yes no : List Statement)
  | scope (assignments : List (Target × Expr)) (body : List Statement)
  | assign (target : Target) (value : Expr) (line : Nat)
  | assignText (target : Target) (filter : Option Expr) (body : List Statement) (line : Nat)
  | escaping (mode : Expr) (body : List Statement) (line : Nat)
  | filtered (filter : Expr) (body : List Statement)
  | block (name : String) (body : List Statement)
  | inherit (source : Expr) (line : Nat)
  | embed (source : Expr) (optional : Bool) (line : Nat)
  | load (source : Expr) (line : Nat)
  | define (routine : Routine)
  | callWith (callee : Expr) (args : List Argument) (caller : Routine) (line : Nat)
  | perform (call : Expr)

/-- A piece of template with parameters, each of which may have a default.  Its body may call the
piece of template that the caller hands over. -/
inductive Routine where
  | mk (name : String) (parameters : List (String × Option Expr)) (body : List Statement)
      (usesCaller : Bool)

end

namespace Routine

def name : Routine → String
  | .mk n _ _ _ => n

def parameters : Routine → List (String × Option Expr)
  | .mk _ p _ _ => p

def body : Routine → List Statement
  | .mk _ _ b _ => b

def usesCaller : Routine → Bool
  | .mk _ _ _ c => c

end Routine

/-- A whole template with the bodies of its blocks. -/
structure Document where
  statements : List Statement
  blocks : List (String × List Statement)

end Template
end EventRules
