import EventRules.Template.Grammar
import EventRules.Template.Run.Statement
import EventRules.Template.Value.ToJson
import EventRules.Text.Basic

/-!
# Leaf — the texts of an output template

A text without the marks of a template stands for itself.  One that is a single output, apart from
blanks around it, is an expression whose value keeps its type; any other is a template whose result
is a text.

* `Leaf.ofText` — which of the three a text is;
* `Leaf.compile` — the leaf as something that can be evaluated, if its notation is right;
* `Leaf.Compiled.eval` — its value in a context; an undefined value is none at all.
-/

namespace EventRules
namespace Template

inductive Leaf where
  | plain (s : String)
  | expression (source : String)
  | template (source : String)
  deriving DecidableEq

namespace Leaf

/-- Whether a text holds the marks of a template. -/
def hasMarks (s : String) : Bool := Text.contains s "\x7b\x7b" || Text.contains s "\x7b%"

/-- What stands between the marks of an output that a text is, apart from blanks. -/
def outputOf? (cs : List Char) : Option (List Char) :=
  match Text.trimChars cs with
  | '\x7b' :: '\x7b' :: rest =>
      match rest.reverse with
      | '\x7d' :: '\x7d' :: inner => some inner.reverse
      | _ => none
  | _ => none

/-- The expression of a text that is a single output. -/
def wholeExpression? (s : String) : Option String :=
  ((outputOf? s.toList).filter fun inner =>
    !(Text.hasInfix ['\x7b', '\x7b'] inner || Text.hasInfix ['\x7d', '\x7d'] inner ||
      Text.hasInfix ['\x7b', '%'] inner)).map fun inner => String.ofList (Text.trimChars inner)

def ofText (s : String) : Leaf :=
  if hasMarks s then
    match wholeExpression? s with
    | some source => .expression source
    | none => .template s
  else .plain s

/-- What faults call the place that they were found in. -/
def place : Leaf → String
  | .expression _ => "<expression>"
  | _ => "<string>"

/-- A leaf whose notation is right. -/
inductive Compiled where
  | plain (s : String)
  | expression (e : Expr) (levels : Nat)
  | template (document : Document) (levels : Nat)

def compile : Leaf → Except Fault Compiled
  | .plain s => .ok (.plain s)
  | .expression source =>
      (Grammar.expression source).map fun e => .expression e (levelsFor source)
  | .template source =>
      (Grammar.template source).map fun document => .template document (levelsFor source)

/-- The value in a context, unless it is undefined. -/
def Compiled.eval (context : Value) : Compiled → Except Fault (Option Json)
  | .plain s => .ok (some (.string s))
  | .expression e levels => do
      let value ← e.eval levels context
      if value.isUndefined then return none else return some (← value.toJson)
  | .template document levels => do
      return some (.string (← document.eval levels context))

end Leaf

end Template
end EventRules
