import EventRules.Template.Filter.Sequence

/-!
# Test — what values can be tested for

* `Test.find?` — the test of a name;
* `Test.names` — the names of all tests.
-/

namespace EventRules
namespace Template

/-- A test is a function of its arguments, the first of which is the value that it looks at. -/
abbrev Test := Arguments → Except Fault Bool

namespace Test

open Arguments

/-! ## Kinds of tests -/

def ofValue (f : Value → Bool) : Test := consume do return f (← required itself)

def ofPair (f : Value → Value → Bool) : Test := consume do
  let a ← required itself
  return f a (← required itself)

def ofText (f : List Char → Bool) : Test := consume do return f (← required onlyText).toList

def ofTexts (f : List Char → List Char → Bool) : Test := consume do
  let a ← required shown
  return f a.toList (← required shown).toList

/-! ## Tests -/

def isSafe : Value → Bool
  | .string _ safe => safe
  | _ => false

def isBool (b : Bool) : Value → Bool
  | .bool c => b == c
  | _ => false

def isWhole : Value → Bool
  | .integer _ => true
  | _ => false

def isReal : Value → Bool
  | .float _ => true
  | _ => false

def isNone : Value → Bool
  | .none => true
  | _ => false

def hasRemainder (remainder : Int) (value : Value) : Bool :=
  (value.integer?.map (· % 2)) == some remainder

def divides (a b : Value) : Bool :=
  match Value.numbers? false a b with
  | some (.whole m n) => n != 0 && m % n == 0
  | some (.real x y) => (x.remainder y).isZero
  | none => false

/-- Equality of values of one kind, where whole numbers and floats are of different kinds. -/
def isSame (a b : Value) : Bool := a.kind == b.kind && isWhole a == isWhole b && a.equals b

def containedIn : Test := consume do
  let member ← required itself
  let container ← required itself
  container.contains member

def kinds : List (String × Test) := [
  ("undefined", ofValue Value.isUndefined),
  ("defined", ofValue fun v => !v.isUndefined),
  ("none", ofValue isNone),
  ("safe", ofValue isSafe),
  ("escaped", ofValue isSafe),
  ("boolean", ofValue fun v => v.kind == .bool),
  ("number", ofValue fun v => v.kind == .number),
  ("integer", ofValue isWhole),
  ("int", ofValue isWhole),
  ("float", ofValue isReal),
  ("string", ofValue fun v => v.kind == .string),
  ("sequence", ofValue fun v => v.kind == .sequence),
  ("mapping", ofValue fun v => v.kind == .map),
  ("iterable", ofValue fun v => v.items?.isSome),
  ("true", ofValue (isBool true)),
  ("false", ofValue (isBool false)),
  ("odd", ofValue (hasRemainder 1)),
  ("even", ofValue (hasRemainder 0)),
  ("lower", ofText fun cs => cs.all Text.isLower),
  ("upper", ofText fun cs => cs.all Text.isUpper)]

def relations : List (String × Test) := [
  ("divisibleby", ofPair divides),
  ("sameas", ofPair isSame),
  ("startingwith", ofTexts fun s t => (Filter.afterPart? t s).isSome),
  ("endingwith", ofTexts fun s t => (Filter.afterPart? t.reverse s.reverse).isSome),
  ("in", containedIn),
  ("eq", ofPair Value.equals),
  ("equalto", ofPair Value.equals),
  ("==", ofPair Value.equals),
  ("ne", ofPair fun a b => !a.equals b),
  ("!=", ofPair fun a b => !a.equals b),
  ("gt", ofPair fun a b => a.order b == .gt),
  ("greaterthan", ofPair fun a b => a.order b == .gt),
  (">", ofPair fun a b => a.order b == .gt),
  ("ge", ofPair fun a b => a.order b != .lt),
  (">=", ofPair fun a b => a.order b != .lt),
  ("lt", ofPair fun a b => a.order b == .lt),
  ("lessthan", ofPair fun a b => a.order b == .lt),
  ("<", ofPair fun a b => a.order b == .lt),
  ("le", ofPair fun a b => a.order b != .gt),
  ("<=", ofPair fun a b => a.order b != .gt)]

/-- The names of all tests. -/
def names : List String := ["filter", "test"] ++ (kinds ++ relations).map (·.1)

def isTestName : Test := consume do return names.contains (← required onlyText)

/-- The test of a name, given the names of the filters. -/
def find? (filterNames : List String) (name : String) : Option Test :=
  if name = "test" then some isTestName
  else if name = "filter" then
    some (consume do return filterNames.contains (← required onlyText))
  else (kinds ++ relations).lookup name

end Test
end Template
end EventRules
