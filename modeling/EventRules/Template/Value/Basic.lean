import EventRules.Json.Basic
import EventRules.Number.Numeral
import EventRules.Template.Expression
import EventRules.Template.Fault

/-!
# Value — what expressions evaluate to

The values of JSON, and besides them what exists only while a template runs: the undefined value,
sequences that are produced on demand, the arguments given by name, the state of a loop, functions,
routines and namespaces.  The entries of a map stand in the order of their keys.

* `Value.isTrue` — what counts as true in a condition;
* `Value.items?` — what a loop goes over;
* `Value.attribute?`, `Value.item?` — parts of a value.
-/

namespace EventRules
namespace Template

inductive Value where
  | undefined
  | none
  | bool (b : Bool)
  | integer (n : Int)
  | float (x : Binary64)
  /-- A safe text is not escaped again. -/
  | string (s : String) (safe : Bool)
  | seq (items : List Value)
  /-- Items produced on demand; their number may be unknown beforehand. -/
  | iterable (sized : Bool) (items : List Value)
  | map (entries : List (Value × Value))
  /-- Items that have a key in common. -/
  | group (key : Value) (items : List Value)
  | named (arguments : List (String × Value))
  /-- A loop at one of its items, of which there may be an unknown number. -/
  | loop (facts : List (String × Value)) (index : Nat) (length : Option Nat)
  | function (name : String)
  | routine (r : Routine) (closure : Nat)
  | space (id : Nat) (entries : List (String × Value))

/-- The kinds of values, in their order. -/
inductive Kind where
  | undefined
  | none
  | bool
  | number
  | string
  | sequence
  | map
  | iterable
  | plain
  deriving DecidableEq

def Kind.text : Kind → String
  | .undefined => "undefined"
  | .none => "none"
  | .bool => "bool"
  | .number => "number"
  | .string => "string"
  | .sequence => "sequence"
  | .map => "map"
  | .iterable => "iterator"
  | .plain => "plain object"

def Kind.rank : Kind → Nat
  | .undefined => 0
  | .none => 1
  | .bool => 2
  | .number => 3
  | .string => 4
  | .sequence => 5
  | .map => 6
  | .iterable => 7
  | .plain => 8

namespace Value

def text (s : String) : Value := .string s false

def ofNat (n : Nat) : Value := .integer n

def kind : Value → Kind
  | .undefined => .undefined
  | .none => .none
  | .bool _ => .bool
  | .integer _ => .number
  | .float _ => .number
  | .string _ _ => .string
  | .seq _ => .sequence
  | .iterable _ _ => .iterable
  | .map _ => .map
  | .group _ _ => .sequence
  | .named _ => .map
  | .loop _ _ _ => .map
  | .function _ => .plain
  | .routine _ _ => .plain
  | .space _ _ => .map

def isUndefined : Value → Bool
  | .undefined => true
  | _ => false

/-- Undefined or none. -/
def isAbsent : Value → Bool
  | .undefined | .none => true
  | _ => false

def string? : Value → Option String
  | .string s _ => some s
  | _ => Option.none

/-- What counts as true: numbers other than zero, and what is not empty. -/
def isTrue : Value → Bool
  | .undefined => false
  | .none => false
  | .bool b => b
  | .integer n => n != 0
  | .float x => !x.isZero
  | .string s _ => s != ""
  | .seq items => !items.isEmpty
  | .iterable sized items => !sized || !items.isEmpty
  | .map entries => !entries.isEmpty
  | .group _ _ => true
  | .named arguments => !arguments.isEmpty
  | .loop _ _ _ => true
  | .function _ => true
  | .routine _ _ => true
  | .space _ entries => !entries.isEmpty

def chars (s : String) : List Value := s.toList.map fun c => text (String.singleton c)

/-- What a loop goes over: items, the keys of a map, the characters of a text. -/
def items? : Value → Option (List Value)
  | .undefined => some []
  | .none => some []
  | .string s _ => some (chars s)
  | .seq items => some items
  | .iterable _ items => some items
  | .map entries => some (entries.map (·.1))
  | .group key items => some [key, .iterable true items]
  | .named arguments => some (arguments.map fun a => text a.1)
  | .loop facts _ _ => some (facts.map fun a => text a.1)
  | .space _ entries => some (entries.map fun a => text a.1)
  | _ => Option.none

def items (value : Value) : Except Fault (List Value) :=
  match value.items? with
  | some found => .ok found
  | Option.none => .error (.invalid (value.kind.text ++ " is not iterable"))

/-- The number of items, where it is known beforehand. -/
def length? : Value → Option Nat
  | .string s _ => some s.length
  | .seq items => some items.length
  | .iterable sized items => if sized then some items.length else Option.none
  | .map entries => some entries.length
  | .group _ _ => some 2
  | .named arguments => some arguments.length
  | .loop facts _ _ => some facts.length
  | .space _ entries => some entries.length
  | _ => Option.none

/-! ## Whole numbers -/

/-- The range in which whole numbers are computed. -/
def inRange (n : Int) : Bool := Width.fitsSigned 128 n

/-- The whole number that a value is, if it is one. -/
def integer? : Value → Option Int
  | .bool b => some (if b then 1 else 0)
  | .integer n => if inRange n then some n else Option.none
  | .float (.finite x) =>
      if x.isInteger && x.truncate.natAbs ≤ Width.count 63 then some x.truncate
      else Option.none
  | _ => Option.none

/-- A whole number that indexes fit into. -/
def index? (value : Value) : Option Int :=
  value.integer?.filter (Width.fitsSigned 64)

/-! ## Conversion from JSON -/

mutual

def ofJson : Json → Value
  | .null => .none
  | .bool b => .bool b
  | .number (.integer n _) => .integer n
  | .number (.float x) => .float (.finite x)
  | .string s => text s
  | .array items => .seq (ofItems items)
  | .object entries => .map (ofEntries entries)

def ofItems : List Json → List Value
  | [] => []
  | item :: rest => ofJson item :: ofItems rest

def ofEntries : List (String × Json) → List (Value × Value)
  | [] => []
  | (name, value) :: rest => (text name, ofJson value) :: ofEntries rest

end

def ofLiteral : Literal → Value
  | .none => .none
  | .bool b => .bool b
  | .integer n => .integer n
  | .float x => .float x
  | .string s => text s

end Value

end Template
end EventRules
