import EventRules.Decode.Source
import EventRules.Json.Printer
import EventRules.Number.Numeral
import EventRules.Text.Basic

/-!
# Operator — loose comparison of values

Numbers, booleans and texts that are numerals have a number.  Two values that both have one are
compared by it, two texts otherwise by code points, and all other pairs have no order.  Equality
falls back to the text of the values, and `includes` and `is` look at nothing else.
-/

namespace EventRules

inductive Operator where
  | gt
  | gte
  | lt
  | lte
  | eq
  | neq
  | includes
  | is
  deriving DecidableEq

namespace Json

/-- The number a value is compared by. -/
def number? : Json → Option Binary64
  | .number n => some n.toBinary64
  | .string s => Numeral.ofChars? (Text.trimChars s.toList)
  | .bool b => some (Binary64.ofNat (if b then 1 else 0))
  | _ => none

/-- The text of a value: a string itself, and of all else the written form. -/
def text : Json → String
  | .string s => s
  | other => other.compact

/-- Order of two values, where they have one. -/
def order? (a b : Json) : Option Ordering :=
  match a.number?, b.number? with
  | some x, some y => x.compare? y
  | _, _ =>
      match a, b with
      | .string s, .string t => some (compare s t)
      | _, _ => none

def looselyEqual (a b : Json) : Bool :=
  match a.number?, b.number? with
  | some x, some y => x.compare? y == some .eq
  | _, _ => a.text == b.text

end Json

namespace Operator

def holds (op : Operator) (candidate expected : Json) : Bool :=
  match op with
  | .gt => candidate.order? expected == some .gt
  | .gte =>
      candidate.order? expected == some .gt || candidate.order? expected == some .eq
  | .lt => candidate.order? expected == some .lt
  | .lte =>
      candidate.order? expected == some .lt || candidate.order? expected == some .eq
  | .eq => candidate.looselyEqual expected
  | .neq => !candidate.looselyEqual expected
  | .includes => Text.contains candidate.text expected.text
  | .is => candidate.text == expected.text

/-! ## Names -/

def all : List Operator := [.gt, .gte, .lt, .lte, .eq, .neq, .includes, .is]

def name : Operator → String
  | .gt => "gt"
  | .gte => "gte"
  | .lt => "lt"
  | .lte => "lte"
  | .eq => "eq"
  | .neq => "neq"
  | .includes => "includes"
  | .is => "is"

/-- The sign of an operator that has one. -/
def sign? : Operator → Option String
  | .gt => some ">"
  | .gte => some ">="
  | .lt => some "<"
  | .lte => some "<="
  | .eq => some "=="
  | .neq => some "!="
  | .includes => none
  | .is => none

/-- The names and signs an operator may be written with. -/
def spellings (op : Operator) : List String := op.sign?.toList ++ [op.name]

def ofSpelling? (s : String) : Option Operator := all.find? fun op => op.spellings.contains s

def read {m : Type → Type} [RuleSource m] : m Operator :=
  RuleSource.name (all.flatMap spellings) ofSpelling?

end Operator

end EventRules
