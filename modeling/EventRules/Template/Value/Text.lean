import EventRules.Template.Value.Order
import EventRules.Text.Quoted

/-!
# Text — how values are shown in texts

A text is shown as itself, or between double quotes inside of a list or map.  Floats always have a
point; inside of lists and maps very large and very small ones have an exponent instead.

* `Value.display` — the text that a value adds to an output;
* `Value.escaped` — the same with the characters that have a meaning in markup replaced;
* `Value.indented` — a text with one item per line.
-/

namespace EventRules
namespace Template
namespace Value

/-- Floats inside of lists and maps. -/
def nestedLayout : DecimalLayout := ⟨fun exponent => -4 ≤ exponent && exponent < 16, false⟩

def floatText (layout : DecimalLayout) : Binary64 → String
  | .finite x => layout.write x
  | .infinity negative => if negative then "-inf" else "inf"
  | .nan => "NaN"

def boolText (b : Bool) : String := if b then "True" else "False"

/-- Texts with commas between them. -/
def commas : List String → String := ", ".intercalate

mutual

/-- A value inside of a list or map. -/
def nested : Value → String
  | .undefined => "undefined"
  | .none => "None"
  | .bool b => boolText b
  | .integer n => toString n
  | .float x => floatText nestedLayout x
  | .string s _ => Text.quoted s
  | .seq items => "[" ++ commas (nestedItems items) ++ "]"
  | .iterable sized items =>
      if sized then "[" ++ commas (nestedItems items) ++ "]" else "<iterator>"
  | .map entries => "\x7b" ++ commas (nestedEntries entries) ++ "\x7d"
  | .group key items => "[" ++ nested key ++ ", [" ++ commas (nestedItems items) ++ "]]"
  | .named arguments => "\x7b" ++ commas (nestedNames arguments) ++ "\x7d"
  | .loop _ index length =>
      "<loop " ++ toString index ++ "/" ++ (length.elim "?" toString) ++ ">"
  | .function name => "<function " ++ name ++ ">"
  | .routine r _ => "<macro " ++ r.name ++ ">"
  | .space _ entries => "\x7b" ++ commas (nestedNames entries) ++ "\x7d"

def nestedItems : List Value → List String
  | [] => []
  | item :: rest => nested item :: nestedItems rest

def nestedEntries : List (Value × Value) → List String
  | [] => []
  | (key, value) :: rest => (nested key ++ ": " ++ nested value) :: nestedEntries rest

def nestedNames : List (String × Value) → List String
  | [] => []
  | (name, value) :: rest => (Text.quoted name ++ ": " ++ nested value) :: nestedNames rest

end

def display : Value → String
  | .undefined => ""
  | .float x => floatText .plain x
  | .string s _ => s
  | other => nested other

/-! ## Markup -/

def escapedChar (c : Char) : List Char :=
  if c = '<' then "&lt;".toList
  else if c = '>' then "&gt;".toList
  else if c = '&' then "&amp;".toList
  else if c = '"' then "&quot;".toList
  else if c = '\'' then "&#x27;".toList
  else if c = '/' then "&#x2f;".toList
  else [c]

def escapedText (s : String) : String := String.ofList (s.toList.flatMap escapedChar)

/-- The text of a value in markup: safe texts and what cannot hold markup stay as they are. -/
def escaped (value : Value) : String :=
  match value with
  | .string s true => s
  | other =>
      match other.kind with
      | .undefined | .none | .bool | .number => other.display
      | _ => escapedText other.display

/-! ## Items on lines of their own -/

/-- Indents every line of a text that is not empty. -/
def indentLines (s : String) : String :=
  let lines := s.toList.foldr (fun c (acc : List Char) =>
    match acc with
    | next :: _ =>
        if c = '\n' ∧ next ≠ '\n' then c :: ' ' :: ' ' :: ' ' :: ' ' :: acc else c :: acc
    | [] => [c]) []
  String.ofList (' ' :: ' ' :: ' ' :: ' ' :: lines)

/-- Items between brackets, each on its own lines. -/
def block (opening closing : String) (items : List String) : String :=
  if items.isEmpty then opening ++ closing
  else opening ++ "\n" ++ String.join (items.map fun s => indentLines s ++ ",\n") ++ closing

mutual

def indented : Value → String
  | .seq items => block "[" "]" (indentedItems items)
  | .iterable true items => block "[" "]" (indentedItems items)
  | .map entries => block "\x7b" "\x7d" (indentedEntries entries)
  | .group key items => block "[" "]" [indented key, block "[" "]" (indentedItems items)]
  | other => nested other

def indentedItems : List Value → List String
  | [] => []
  | item :: rest => indented item :: indentedItems rest

def indentedEntries : List (Value × Value) → List String
  | [] => []
  | (key, value) :: rest => (nested key ++ ": " ++ indented value) :: indentedEntries rest

end

end Value
end Template
end EventRules
